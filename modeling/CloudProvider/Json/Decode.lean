import CloudProvider.Json.Mismatch

/-!
# From JSON values to typed values

- `Decoder`: takes a value apart or says why it has the wrong shape.
- `text`, `boolean`, `integer`, `list`, `map`, `optional`: decoders by shape.
- `Record`: the fields of a record in order of declaration, with the value built from them.
- `Record.decoder`: a record is written as an object, or as the list of its fields.
-/

namespace CloudProvider.Json
set_option autoImplicit false

/-- Takes a value apart or says why it has the wrong shape. -/
abbrev Decoder (α : Type) := Json → Except Mismatch α

namespace Decode

variable {α β : Type}

/-- The value does not have the expected type. -/
def wrongType (v : Json) (expected : String) : Except Mismatch α :=
  .error (.invalidType v.found expected)

/-! ## Scalars -/

/-- Every value is accepted as it is. -/
def any : Decoder Json := .ok

def text : Decoder String
  | .string s => .ok s
  | v => wrongType v "a string"

def boolean : Decoder Bool
  | .bool b => .ok b
  | v => wrongType v "a boolean"

/-- An integer that `convert` accepts, of the type named `expected`. -/
def integer (expected : String) (convert : Int → Option α) : Decoder α
  | .number (.int n) =>
    match convert n.val with
    | some a => .ok a
    | none => .error (.invalidValue (.integer n.val) expected)
  | v => wrongType v expected

/-- A natural number below a bound. -/
def below (bound : Nat) (n : Int) : Option Nat :=
  if 0 ≤ n ∧ n < bound then some n.toNat else none

def uint8 : Decoder UInt8 :=
  integer "u8" fun n => (below UInt8.size n).map UInt8.ofNat

def uint16 : Decoder UInt16 :=
  integer "u16" fun n => (below UInt16.size n).map UInt16.ofNat

def uint32 : Decoder UInt32 :=
  integer "u32" fun n => (below UInt32.size n).map UInt32.ofNat

def uint64 : Decoder UInt64 :=
  integer "u64" fun n => (below UInt64.size n).map UInt64.ofNat

def size : Decoder UInt64 :=
  integer "usize" fun n => (below UInt64.size n).map UInt64.ofNat

def int64 : Decoder Int64 :=
  integer "i64" fun n => (Integer.ofInt? n).bind Integer.toInt64?

/-! ## Collections -/

/-- Each item in turn; the first that does not fit is reported. -/
def items (decode : Decoder α) : List Json → Except Mismatch (List α)
  | [] => .ok []
  | x :: xs => do return (← decode x) :: (← items decode xs)

def list (decode : Decoder α) : Decoder (List α)
  | .array xs => items decode xs
  | v => wrongType v "a sequence"

/-- Each member in turn. -/
def entries (decode : Decoder α) : List (String × Json) → Except Mismatch (Keyed α)
  | [] => .ok []
  | (k, x) :: xs => do return (k, ← decode x) :: (← entries decode xs)

def map (decode : Decoder α) : Decoder (Keyed α)
  | .object xs => entries decode xs
  | v => wrongType v "a map"

/-- Null stands for no value. -/
def optional (decode : Decoder α) : Decoder (Option α)
  | .null => .ok none
  | v => some <$> decode v

/-! ## Names out of a fixed set -/

/-- A name, alone or as the only key of an object whose value is null. -/
def name (known : List (String × α)) : Decoder α
  | .string s => find s
  | .object [(s, v)] => do
    let a ← find s
    match v with
    | .null => return a
    | v => wrongType v "unit"
  | .object _ => .error (.invalidValue .map "map with a single key")
  | v => wrongType v "string or map"
where
  /-- The value with that name. -/
  find (s : String) : Except Mismatch α :=
    match known.lookup s with
    | some a => .ok a
    | none => .error (.unknownVariant s (known.map (·.1)))

end Decode

/-! ## Records -/

/-- What the fields of a record are taken from. -/
structure Source where
  /-- The value given for a field. -/
  find : String → Option Json
  /-- What is reported when a field is not given. -/
  missing : String → Mismatch
  /-- The fields are given by name, so that an optional one may be left out. -/
  named : Bool

/-- The fields of a record in order of declaration, each with a check of its value, and how the
record is built from them. -/
structure Record (α : Type) where
  fields : List (String × (Json → Except Mismatch Unit))
  build : Source → Except Mismatch α

namespace Record

variable {α β : Type}

instance : Functor Record where
  map f r := ⟨r.fields, fun source => f <$> r.build source⟩

instance : Seq Record where
  seq f r := ⟨f.fields ++ (r ()).fields, fun source => do return (← f.build source) (← (r ()).build source)⟩

/-- A field that is decoded if it is given and otherwise has the value `absent`. -/
def field (name : String) (decode : Decoder α) (absent : Source → Except Mismatch α) : Record α where
  fields := [(name, fun v => do let _ ← decode v)]
  build source :=
    match source.find name with
    | some v => decode v
    | none => absent source

/-- A field that has to be given. -/
def required (name : String) (decode : Decoder α) : Record α :=
  field name decode fun source => .error (source.missing name)

/-- A field with a value of its own when it is not given. -/
def defaulted (name : String) (decode : Decoder α) (default : α) : Record α :=
  field name decode fun _ => .ok default

/-- A field that may be null, or left out where fields are given by name. -/
def nullable (name : String) (decode : Decoder α) : Record (Option α) :=
  field name (Decode.optional decode) fun source =>
    if source.named then .ok none else .error (source.missing name)

/-- A field that may be null or left out. -/
def optional (name : String) (decode : Decoder α) : Record (Option α) :=
  defaulted name (Decode.optional decode) none

def names (r : Record α) : List String :=
  r.fields.map (·.1)

/-- Checks the members that are fields, in order of their keys. -/
def check (r : Record α) : List (String × Json) → Except Mismatch Unit
  | [] => .ok ()
  | (key, v) :: rest => do
    match r.fields.lookup key with
    | some test => test v
    | none => pure ()
    r.check rest

/-- The members of an object as fields. -/
def ofMembers (members : Keyed Json) : Source :=
  ⟨fun name => members.get? name, .missingField, true⟩

/-- The items of a list as fields, in order of declaration. -/
def ofItems (title : String) (names : List String) (items : List Json) : Source where
  find name := items[names.idxOf name]?
  missing name := .invalidLength (names.idxOf name) (recordOf title names.length)
  named := false

/-- A record of the type named `title`, written as an object or as the list of its fields;
`shorter` is what is expected of a list that is too long. -/
def decoderWith (shorter : String) (title : String) (r : Record α) : Decoder α
  | .object members => do
    r.check members
    r.build (ofMembers members)
  | .array items => do
    let a ← r.build (ofItems title r.names items)
    if items.length ≤ r.names.length then return a
    else .error (.invalidLength items.length shorter)
  | v => Decode.wrongType v title

/-- A record of the type named `title`. -/
def decoder (title : String) (r : Record α) : Decoder α :=
  r.decoderWith "fewer elements in array" title

/-- A record inside a value whose type is known only from a part of it. -/
def nestedDecoder (title : String) (r : Record α) : Decoder α :=
  let unit := if r.names.length = 1 then "element" else "elements"
  r.decoderWith s!"{r.names.length} {unit} in sequence" title

end Record

end CloudProvider.Json
