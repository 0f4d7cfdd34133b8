import CloudProvider.Diagnostics
import CloudProvider.Schema.Basic

/-!
# Validating configurations

- `Schema.validate`: everything that is wrong with a configuration, each with its path.
-/

namespace CloudProvider
set_option autoImplicit false

def joinPath (path name : String) : String :=
  if path = "" then name else path ++ "." ++ name

/-- The values that fit a type as far as their kind goes. -/
def AttrType.admits : AttrType → Json → Bool
  | .string, .string _ => true
  | .int, .number (.int _) => true
  | .float, .number _ => true
  | .bool, .bool _ => true
  | .list _, .array _ => true
  | .set _, .array _ => true
  | .map _, .object _ => true
  | .object _, .object _ => true
  | _, _ => false

/-- A value that is set. -/
def setValue? (name : String) (members : Keyed Json) : Option Json :=
  (members.get? name).filter (!·.isNull)

/-- Keys that are no attributes. At the top, `id` is always allowed. -/
def unsupported (attributes : Attributes) (path : String) (members : Keyed Json) : Diagnostics :=
  (members.keys.filter fun key =>
    !(key = "id" && path = "") && !attributes.contains key).map fun key =>
      .errorAt (joinPath path key) "unsupported attribute"

/-- Attributes that are set although they exclude this one. -/
def conflicts (t : Traits) (path : String) (owner : String) (members : Keyed Json) : Diagnostics :=
  (t.conflictsWith.filter fun other => (setValue? other members).isSome).map fun other =>
    .errorAt owner ("conflicts with " ++ joinPath path other)

/-- Too few or too many items. -/
def itemCount (t : Traits) (path : String) (count : Nat) : Diagnostics :=
  (match t.minItems with
    | some least =>
      if count < least.toNat then [.errorAt path s!"at least {least} item(s) required"] else []
    | none => []) ++
  (match t.maxItems with
    | some most =>
      if most.toNat < count then [.errorAt path s!"at most {most} item(s) allowed"] else []
    | none => [])

def itemPath (path : String) (i : Nat) : String :=
  path ++ "." ++ toString i

/-- Items from number `i` on that occur earlier, `before` being the items passed. -/
def repeatedItems (path : String) (before : List Json) (i : Nat) : List Json → Diagnostics
  | [] => []
  | item :: rest =>
    (if before.any (·.same item) then [.errorAt (itemPath path i) "duplicate set element"] else []) ++
      repeatedItems path (before ++ [item]) (i + 1) rest

/-- What the rules of an attribute say about a value. -/
def ruleErrors (t : Traits) (path : String) (v : Json) : Diagnostics :=
  (t.validations.filterMap (·.check v)).map (.errorAt path)

/-- Errors of items, each below its number. -/
def atItems (check : Json → String → Diagnostics) (path : String) (items : List Json) :
    Diagnostics :=
  items.zipIdx.flatMap fun (item, i) => check item (itemPath path i)

mutual

/-- What is wrong with a value that is set. The elements of a collection obey the rules of the
attribute. -/
def AttrType.errors : AttrType → Traits → Json → String → Diagnostics
  | .list element, t, .array items, path =>
    itemCount t path items.length ++ atItems (element.errors t.ofElement) path items
  | .set element, t, .array items, path =>
    itemCount t path items.length ++ repeatedItems path [] 0 items ++
      atItems (element.errors t.ofElement) path items
  | .map element, t, .object members, path =>
    members.flatMap fun (key, v) => element.errors t.ofElement v (path ++ "." ++ key)
  | .object attributes, _, .object members, path =>
    unsupported attributes path members ++ attributeErrors attributes members path
  | type, t, v, path =>
    if type.admits v then ruleErrors t path v
    else [.errorAt path ("expected " ++ type.describe)]

/-- What is wrong with the attributes of an object. -/
def attributeErrors : List (String × Attribute) → Keyed Json → String → Diagnostics
  | [], _, _ => []
  | (name, ⟨type, traits⟩) :: rest, members, path =>
    (match setValue? name members with
      | none =>
        if traits.required then [.errorAt (joinPath path name) "required attribute is missing"]
        else []
      | some v =>
        if traits.settable then
          conflicts traits path (joinPath path name) members ++
            type.errors traits v (joinPath path name)
        else [.errorAt (joinPath path name) "attribute is computed and cannot be set"]) ++
      attributeErrors rest members path

end

/-- Everything that is wrong with a configuration. -/
def Schema.validate (s : Schema) (config : Json) : Diagnostics :=
  match config with
  | .object members =>
    unsupported s.attributes "" members ++ attributeErrors s.attributes members ""
  | _ => [.errorAt "" "configuration must be an object"]

end CloudProvider
