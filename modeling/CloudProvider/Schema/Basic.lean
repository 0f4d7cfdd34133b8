import CloudProvider.Schema.Validation

/-!
# Schemas

- `AttrType`: what values an attribute has.
- `Attribute`: a type with all that is said about an attribute beside its type.
- `Schema`: the attributes of a resource or of the provider.
- `Attribute.required`, `Attribute.withDefault`, …: building attributes step by step.
- `Schema.withTimeouts`: the block of deadlines.
-/

namespace CloudProvider
set_option autoImplicit false

/-- What is said about an attribute beside its type. -/
structure Traits where
  description : String
  required : Bool
  optional : Bool
  computed : Bool
  /-- Changing the attribute replaces the resource. -/
  forceNew : Bool
  sensitive : Bool
  default : Option Json
  validations : List Validation
  conflictsWith : List String
  minItems : Option UInt64
  maxItems : Option UInt64

mutual

/-- What values an attribute has. -/
inductive AttrType where
  | string
  | int
  | float
  | bool
  | list (element : AttrType)
  | set (element : AttrType)
  | map (element : AttrType)
  | object (attributes : List (String × Attribute))

/-- A type and what is said beside it. -/
structure Attribute where
  type : AttrType
  traits : Traits

end

abbrev Attributes := Keyed Attribute

/-- The attributes of a resource or of the provider. -/
structure Schema where
  version : UInt32
  description : String
  attributes : Attributes

namespace Traits

/-- Nothing is said. -/
def none : Traits where
  description := ""
  required := false
  optional := false
  computed := false
  forceNew := false
  sensitive := false
  default := .none
  validations := []
  conflictsWith := []
  minItems := .none
  maxItems := .none

/-- The host may set the attribute. -/
def settable (t : Traits) : Bool :=
  t.required || t.optional

/-- What is said about the elements of a collection: no number of items. -/
def ofElement (t : Traits) : Traits :=
  { t with minItems := .none, maxItems := .none }

end Traits

def AttrType.describe : AttrType → String
  | string => "string"
  | int => "integer"
  | float => "number"
  | bool => "bool"
  | list _ => "list"
  | set _ => "set"
  | map _ => "map"
  | object _ => "object"

namespace Attribute

/-! ## Building attributes -/

def required (type : AttrType) : Attribute :=
  ⟨type, { Traits.none with required := true }⟩

def optional (type : AttrType) : Attribute :=
  ⟨type, { Traits.none with optional := true }⟩

/-- Only the API sets the attribute. -/
def computedOnly (type : AttrType) : Attribute :=
  ⟨type, { Traits.none with computed := true }⟩

def withDescription (a : Attribute) (text : String) : Attribute :=
  { a with traits := { a.traits with description := text } }

/-- The API sets the attribute if the user does not. -/
def computed (a : Attribute) : Attribute :=
  { a with traits := { a.traits with computed := true } }

def forceNew (a : Attribute) : Attribute :=
  { a with traits := { a.traits with forceNew := true } }

def sensitive (a : Attribute) : Attribute :=
  { a with traits := { a.traits with sensitive := true } }

def withDefault (a : Attribute) (v : Json) : Attribute :=
  { a with traits := { a.traits with default := some v } }

def validate (a : Attribute) (rule : Validation) : Attribute :=
  { a with traits := { a.traits with validations := a.traits.validations ++ [rule] } }

def conflictsWith (a : Attribute) (others : List String) : Attribute :=
  { a with traits := { a.traits with conflictsWith := a.traits.conflictsWith ++ others } }

def minItems (a : Attribute) (n : UInt64) : Attribute :=
  { a with traits := { a.traits with minItems := some n } }

def maxItems (a : Attribute) (n : UInt64) : Attribute :=
  { a with traits := { a.traits with maxItems := some n } }

end Attribute

namespace Schema

/-! ## Building schemas -/

def new (version : UInt32) : Schema := ⟨version, "", []⟩

def withDescription (s : Schema) (text : String) : Schema :=
  { s with description := text }

def withAttribute (s : Schema) (name : String) (a : Attribute) : Schema :=
  { s with attributes := s.attributes.insert name a }

def timeoutsName : String := "timeouts"

/-- A deadline of the block. -/
def deadline : Attribute :=
  (Attribute.optional .string).validate .duration

/-- The block of deadlines. -/
def timeoutsBlock : Attribute :=
  (Attribute.optional
    (.object [("create", deadline), ("delete", deadline), ("update", deadline)])).withDescription
    "Overrides for the create/update/delete wait deadlines"

/-- The schema with the block of deadlines. -/
def withTimeouts (s : Schema) : Schema :=
  s.withAttribute timeoutsName timeoutsBlock

def attribute? (s : Schema) (name : String) : Option Attribute :=
  s.attributes.get? name

/-- The attributes whose change replaces the resource. -/
def forceNewNames (s : Schema) : List String :=
  Keyed.keys (s.attributes.filter fun entry => entry.2.traits.forceNew)

end Schema

end CloudProvider
