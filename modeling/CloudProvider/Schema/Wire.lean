import CloudProvider.Schema.Basic

/-!
# Schemas as JSON

- `AttrType.toJson`, `Attribute.toJson`, `Schema.toJson`: schemas as they are sent to the host.
- `Schema.decoder`: reads them back.
-/

namespace CloudProvider
open Json
set_option autoImplicit false

/-! ## Writing -/

/-- A member that is left out if it is empty. -/
def textMember (key text : String) : List (String × Json) :=
  if text = "" then [] else [(key, .string text)]

/-- A member that is left out if there are no items. -/
def listMember {α : Type} (key : String) (toJson : α → Json) (items : List α) :
    List (String × Json) :=
  if items.isEmpty then [] else [(key, .array (items.map toJson))]

/-- The members of an attribute, of which the type is already written. -/
def Traits.members (t : Traits) (type : Json) : List (String × Json) :=
  [("computed", .bool t.computed)] ++ listMember "conflicts_with" .string t.conflictsWith ++
    Json.member? "default" id t.default ++ textMember "description" t.description ++
    [("force_new", .bool t.forceNew)] ++ Json.member? "max_items" .uint64 t.maxItems ++
    Json.member? "min_items" .uint64 t.minItems ++
    [("optional", .bool t.optional), ("required", .bool t.required),
      ("sensitive", .bool t.sensitive), ("type", type)] ++
    listMember "validations" Validation.toJson t.validations

/-- A type that has a part. -/
def typeWith (kind : String) (element : Json) : Json :=
  .object [("element", element), ("kind", .string kind)]

mutual

def AttrType.toJson : AttrType → Json
  | .string => .object [("kind", .string "string")]
  | .int => .object [("kind", .string "int")]
  | .float => .object [("kind", .string "float")]
  | .bool => .object [("kind", .string "bool")]
  | .list element => typeWith "list" element.toJson
  | .set element => typeWith "set" element.toJson
  | .map element => typeWith "map" element.toJson
  | .object attributes => typeWith "object" (.object (attributeMembers attributes))

def Attribute.toJson : Attribute → Json
  | ⟨type, traits⟩ => .object (traits.members type.toJson)

def attributeMembers : List (String × Attribute) → List (String × Json)
  | [] => []
  | (name, a) :: rest => (name, a.toJson) :: attributeMembers rest

end

def Schema.toJson (s : Schema) : Json :=
  .object ([("attributes", .object (attributeMembers s.attributes))] ++
    textMember "description" s.description ++ [("version", .uint32 s.version)])

/-! ## Reading -/

/-- The kinds of types, in order of declaration. -/
def kinds : List (String × String) :=
  ["string", "int", "float", "bool", "list", "set", "map", "object"].map fun kind => (kind, kind)

/-- A type without parts. -/
def simpleType? : String → Option (String × AttrType)
  | "string" => some ("String", .string)
  | "int" => some ("Int", .int)
  | "float" => some ("Float", .float)
  | "bool" => some ("Bool", .bool)
  | _ => none

/-- No part is given. -/
def nothing (title : String) : Decoder Unit
  | .null => .ok ()
  | v => Decode.wrongType v s!"unit variant AttrType::{title}"

/-- A type with a part of that kind, given how types and attributes are read. -/
def typeOf (readType : Decoder AttrType) (readAttribute : Decoder Attribute) (kind : String)
    (element : Json) : Except Mismatch AttrType :=
  match simpleType? kind with
  | some (title, type) => do
    nothing title element
    return type
  | none =>
    match kind with
    | "list" => return .list (← readType element)
    | "set" => return .set (← readType element)
    | "map" => return .map (← readType element)
    | _ => return .object (← Decode.map readAttribute element)

/-- A type of which only the kind is given. -/
def bareType (kind : String) : Except Mismatch AttrType :=
  match simpleType? kind with
  | some (_, type) => .ok type
  | none => .error (.missingField "element")

/-- What is expected of a list that is too long to be a type. -/
def pairOnly (nested : Bool) : String :=
  if nested then "2 elements in sequence" else "fewer elements in array"

/-- The words for a type. -/
def typeTitle : String := "adjacently tagged enum AttrType"

/-- The fields of an attribute in order of declaration, given how types are read. -/
def attributeRecord (nested : Bool) (readType : Decoder AttrType) : Record Attribute :=
  (fun type description required optional computed forceNew sensitive default validations
      conflictsWith minItems maxItems =>
    ⟨type, description, required, optional, computed, forceNew, sensitive, default, validations,
      conflictsWith, minItems, maxItems⟩)
    <$> Record.required "type" readType
    <*> Record.defaulted "description" Decode.text ""
    <*> Record.defaulted "required" Decode.boolean false
    <*> Record.defaulted "optional" Decode.boolean false
    <*> Record.defaulted "computed" Decode.boolean false
    <*> Record.defaulted "force_new" Decode.boolean false
    <*> Record.defaulted "sensitive" Decode.boolean false
    <*> Record.optional "default" Decode.any
    <*> Record.defaulted "validations" (Decode.list (Validation.decoder nested)) []
    <*> Record.defaulted "conflicts_with" (Decode.list Decode.text) []
    <*> Record.optional "min_items" Decode.size
    <*> Record.optional "max_items" Decode.size

/-- An attribute, given how types are read. -/
def attributeDecoder (nested : Bool) (readType : Decoder AttrType) : Decoder Attribute :=
  if nested then (attributeRecord true readType).nestedDecoder "struct Attribute"
  else (attributeRecord false readType).decoder "struct Attribute"

/-- A type that is nested at most `depth` deep. What an object gives besides the kind is `nested`:
it is read once the kind is known. -/
def readType : Nat → Bool → Decoder AttrType
  | 0, _, v => Decode.wrongType v typeTitle
  | depth + 1, nested, v =>
    let part (nested : Bool) :=
      typeOf (readType depth nested) (attributeDecoder nested (readType depth nested))
    match v with
    | .object members =>
      match Keyed.get? "kind" members, Keyed.get? "element" members with
      | none, _ => .error (.missingField "kind")
      | some kind, none => do bareType (← Decode.name kinds kind)
      | some kind, some element => do part true (← Decode.name kinds kind) element
    | .array [] => .error (.invalidLength 0 typeTitle)
    | .array [kind] => do
      let _ ← Decode.name kinds kind
      .error (.invalidLength 1 typeTitle)
    | .array (kind :: element :: rest) => do
      let type ← part nested (← Decode.name kinds kind) element
      if rest.isEmpty then return type
      else .error (.invalidLength (rest.length + 2) (pairOnly nested))
    | v => Decode.wrongType v typeTitle

mutual

def Json.depth : Json → Nat
  | .array items => itemsDepth items + 1
  | .object members => membersDepth members + 1
  | _ => 0

def itemsDepth : List Json → Nat
  | [] => 0
  | v :: rest => max v.depth (itemsDepth rest)

def membersDepth : List (String × Json) → Nat
  | [] => 0
  | (_, v) :: rest => max v.depth (membersDepth rest)

end

def AttrType.decoder : Decoder AttrType := fun v =>
  readType (v.depth + 1) false v

def Attribute.decoder : Decoder Attribute := fun v =>
  attributeDecoder false (readType (v.depth + 1) false) v

def Schema.decoder : Decoder Schema :=
  Record.decoder "struct Schema" <|
    Schema.mk <$> Record.required "version" Decode.uint32
      <*> Record.defaulted "description" Decode.text ""
      <*> Record.required "attributes" (Decode.map Attribute.decoder)

end CloudProvider
