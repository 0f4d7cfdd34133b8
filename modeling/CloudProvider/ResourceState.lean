import CloudProvider.Json.Decode
import CloudProvider.Schema.Defaults
import CloudProvider.Timeouts

/-!
# The state of a resource

The working copy of one resource while an operation is carried out: its identity, the planned
values, the values before, and the deadlines.

- `ResourceState.ofJson`, `ResourceState.withPrior`, `ResourceState.prepare`: construction.
- `ResourceState.value?`, `ResourceState.text?`, …: values that are set.
- `ResourceState.set`: writes a value.
- `normalize`: a value without its unset parts.
- `ResourceState.hasChange`: the planned value differs from the one before.
- `ResourceState.toJson?`: the state for the host, if the resource exists.
-/

namespace CloudProvider
open Json
set_option autoImplicit false

/-- The working copy of one resource. Without an identity the resource does not exist. -/
structure ResourceState where
  id : Option String
  values : Keyed Json
  prior : Keyed Json
  timeouts : Timeouts

mutual

/-- A value without its unset parts, so that documents that mean the same become equal. Null and
empty lists and objects are unset; list items keep their places. -/
def normalize : Json → Option Json
  | .null => none
  | .array [] => none
  | .array (v :: rest) => some (.array ((normalize v).getD .null :: normalizeItems rest))
  | .object members =>
    match normalizeMembers members with
    | [] => none
    | kept => some (.object kept)
  | v => some v

def normalizeItems : List Json → List Json
  | [] => []
  | v :: rest => (normalize v).getD .null :: normalizeItems rest

def normalizeMembers : List (String × Json) → List (String × Json)
  | [] => []
  | (key, v) :: rest =>
    match normalize v with
    | some v => (key, v) :: normalizeMembers rest
    | none => normalizeMembers rest

end

namespace ResourceState

/-! ## Construction -/

/-- The key of the identity. -/
def idKey : String := "id"

/-- The state that a document describes. An empty identity is none. -/
def ofJson (document : Json) : ResourceState :=
  let values := document.asObject?.getD []
  let id := ((values.get? idKey).bind Json.asString?).filter (· ≠ "")
  ⟨id, values.erase idKey, [], .default⟩

/-- The state with the values that the planned ones replace, and with their identity if it has
none. -/
def withPrior (s : ResourceState) (prior : Json) : ResourceState :=
  match prior.asObject? with
  | none => s
  | some values =>
    { s with
      id := s.id <|> (values.get? idKey).bind Json.asString?
      prior := values.erase idKey }

/-- The state with defaults and deadlines. -/
def prepare (s : ResourceState) (schema : Schema) (defaults : Timeouts) :
    Except ProviderError ResourceState := do
  let values := schema.fill s.values
  let timeouts ← defaults.withOverrides (values.get? Schema.timeoutsName)
  return { s with values := values, timeouts := timeouts }

/-! ## Values -/

/-- A value that is set. -/
def value? (s : ResourceState) (key : String) : Option Json :=
  (s.values.get? key).filter (!·.isNull)

def isSet (s : ResourceState) (key : String) : Bool :=
  (s.value? key).isSome

def text? (s : ResourceState) (key : String) : Option String :=
  (s.value? key).bind Json.asString?

def int? (s : ResourceState) (key : String) : Option Int64 :=
  (s.value? key).bind Json.asInt64?

def bool? (s : ResourceState) (key : String) : Option Bool :=
  (s.value? key).bind Json.asBool?

/-- The items of a list; nothing else has items. -/
def items (s : ResourceState) (key : String) : List Json :=
  ((s.value? key).bind Json.asArray?).getD []

/-- The texts among the items of a list. -/
def texts (s : ResourceState) (key : String) : List String :=
  (s.items key).filterMap Json.asString?

/-- The members of an object; nothing else has members. -/
def members (s : ResourceState) (key : String) : Keyed Json :=
  ((s.value? key).bind Json.asObject?).getD []

/-- A text that has to be given. -/
def requiredText (s : ResourceState) (key : String) : Except ProviderError String :=
  match s.text? key with
  | some text => .ok text
  | none => .error (.invalidConfig s!"{key} is required")

variable {α : Type}

/-- A value in its type, if it is set and has the right shape. -/
def get? (s : ResourceState) (decode : Decoder α) (key : String) : Option α :=
  (s.value? key).bind fun v => (decode v).toOption

/-- A value in its type, if it is set; the wrong shape is a failure. -/
def decode (s : ResourceState) (decode : Decoder α) (key : String) :
    Except ProviderError (Option α) :=
  match s.value? key with
  | none => .ok none
  | some v =>
    match decode v with
    | .ok a => .ok (some a)
    | .error m => .error (.invalidConfig (key ++ ": " ++ m.message))

/-- A value before the change in its type. -/
def prior? (s : ResourceState) (decode : Decoder α) (key : String) : Option α :=
  ((s.prior.get? key).filter (!·.isNull)).bind fun v => (decode v).toOption

def set (s : ResourceState) (key : String) (v : Json) : ResourceState :=
  { s with values := s.values.insert key v }

/-! ## Identity -/

def setId (s : ResourceState) (id : String) : ResourceState :=
  { s with id := some id }

/-- The resource does not exist any more. -/
def clearId (s : ResourceState) : ResourceState :=
  { s with id := none }

/-- How the resource is called when its identity is missing. -/
def label (s : ResourceState) : String :=
  (s.text? "name").getD "<unnamed>"

def requireId (s : ResourceState) : Except ProviderError String :=
  match s.id with
  | some id => .ok id
  | none => .error (.missingId s.label)

/-! ## Changes -/

/-- The planned value differs from the one before, unset parts aside. -/
def hasChange (s : ResourceState) (key : String) : Bool :=
  !Json.sameOption ((s.values.get? key).bind normalize) ((s.prior.get? key).bind normalize)

def hasChanges (s : ResourceState) (keys : List String) : Bool :=
  keys.any s.hasChange

/-- The state for the host, if the resource exists. -/
def toJson? (s : ResourceState) : Option Json :=
  s.id.map fun id => .object (s.values.insert idKey (.string id))

end ResourceState

end CloudProvider
