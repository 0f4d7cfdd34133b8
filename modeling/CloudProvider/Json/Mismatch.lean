import CloudProvider.Binary64.Shortest
import CloudProvider.Json.Basic
import CloudProvider.Text.Quoted

/-!
# Values of the wrong shape

- `Found`: what stands where something else was expected.
- `Mismatch`: why a value does not have the expected shape.
- `Mismatch.message`: its text.
-/

namespace CloudProvider.Json
set_option autoImplicit false

/-- What stands where something else was expected. -/
inductive Found where
  | null
  | bool (b : Bool)
  | integer (n : Int)
  | float (x : Binary64)
  | string (s : String)
  | sequence
  | map
deriving DecidableEq

def found : Json → Found
  | null => .null
  | bool b => .bool b
  | number (.int n) => .integer n.val
  | number (.float x) => .float x
  | string s => .string s
  | array _ => .sequence
  | object _ => .map

def Found.message : Found → String
  | .null => "null"
  | .bool true => "boolean `true`"
  | .bool false => "boolean `false`"
  | .integer n => s!"integer `{n}`"
  | .float x => s!"floating point `{x.text}`"
  | .string s => s!"string {Text.quote s}"
  | .sequence => "sequence"
  | .map => "map"

/-- Why a value does not have the expected shape. -/
inductive Mismatch where
  | invalidType (found : Found) (expected : String)
  | invalidValue (found : Found) (expected : String)
  | invalidLength (length : Nat) (expected : String)
  | missingField (name : String)
  | duplicateField (name : String)
  | unknownVariant (name : String) (known : List String)
deriving DecidableEq

def ticked (name : String) : String :=
  s!"`{name}`"

/-- The names of which one was expected. -/
def oneOf (known : List String) : String :=
  match known with
  | [a] => ticked a
  | [a, b] => s!"{ticked a} or {ticked b}"
  | _ => "one of " ++ String.intercalate ", " (known.map ticked)

def Mismatch.message : Mismatch → String
  | invalidType found expected => s!"invalid type: {found.message}, expected {expected}"
  | invalidValue found expected => s!"invalid value: {found.message}, expected {expected}"
  | invalidLength length expected => s!"invalid length {length}, expected {expected}"
  | missingField name => s!"missing field `{name}`"
  | duplicateField name => s!"duplicate field `{name}`"
  | unknownVariant name known =>
    if known.isEmpty then s!"unknown variant `{name}`, there are no variants"
    else s!"unknown variant `{name}`, expected {oneOf known}"

/-- A record and how many elements it has when written as a sequence. -/
def recordOf (name : String) (size : Nat) : String :=
  let unit := if size = 1 then "element" else "elements"
  s!"{name} with {size} {unit}"

end CloudProvider.Json
