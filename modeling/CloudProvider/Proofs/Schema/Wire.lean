import CloudProvider.Proofs.Json.Compact
import CloudProvider.Proofs.Json.Decode

/-!
# Schemas come back as they were sent

What is not said about an attribute is left out of its document, at every depth, and what is left
out is read as not said. A default of null is the exception: it is written, and read as no default.

* `Validation.reads`: rules come back, inside a type as well as outside.
* `Attribute.NullFree`, `Schema.NullFree`: no default is null.
* `Attribute.withoutNulls`, `Schema.withoutNulls`: the schema without such defaults.
* `readType_toJson`: types come back without them, however deep they are nested.
* `Schema.decoder_toJson`: so do schemas.
* `Schema.comes_back_iff`: the schema itself comes back if and only if no default is null.
* `Schema.text_comes_back`: what has to hold for the text of the document.
-/

namespace CloudProvider
open Json
set_option autoImplicit false

/-! ## Rules -/

namespace Validation

theorem decoder_named {nested : Bool} {members rest : Keyed Json} {name title : String}
    {r : Record Validation} {rule : Validation}
    (hname : members.get? "rule" = some (.string name)) (hrest : members.erase "rule" = rest)
    (hfields : fields? name = some (title, r)) (hknown : names.contains name = true)
    (hgives : r.Gives rest rule) (hordered : Keyed.Ordered rest) :
    decoder nested (.object members) = .ok rule := by
  have hread : nameDecoder nested (.string name) = .ok name := by
    rw [nameDecoder, if_pos hknown]
  have hrule : ofFields name (.object rest) = .ok rule := by
    simp only [ofFields, hfields]
    exact hgives.nestedDecoder title hordered
  simp only [decoder, hname, hread, hrest]
  exact hrule

theorem reads (nested : Bool) : Decode.Reads (decoder nested) toJson := by
  intro rule
  cases rule with
  | oneOf values =>
    have hvalues := Decode.text_exact.reads.list values
    exact decoder_named rfl rfl rfl rfl ((Record.Gives.found rfl hvalues).map oneOf)
      (show List.Pairwise (· < ·) ["values"] by decide)
  | intBetween least most =>
    exact decoder_named rfl rfl rfl rfl
      (((Record.Gives.found rfl (Decode.int64_exact.reads least)).map intBetween).seq
        (Record.Gives.found rfl (Decode.int64_exact.reads most)))
      (show List.Pairwise (· < ·) ["max", "min"] by decide)
  | stringLength least most =>
    exact decoder_named rfl rfl rfl rfl
      (((Record.Gives.found rfl (Decode.size_exact.reads least)).map stringLength).seq
        (Record.Gives.found rfl (Decode.size_exact.reads most)))
      (show List.Pairwise (· < ·) ["max", "min"] by decide)
  | cidr => rfl
  | ipAddress => rfl
  | pattern text =>
    exact decoder_named rfl rfl rfl rfl
      ((Record.Gives.found rfl (Decode.text_exact.reads text)).map pattern)
      (show List.Pairwise (· < ·) ["pattern"] by decide)

end Validation

/-! ## Attributes -/

namespace Traits

/-- What is said, a default of null aside. -/
def withoutNulls (t : Traits) : Traits :=
  { t with default := t.default.filter (!·.isNull) }

theorem withoutNulls_eq_iff (t : Traits) : t.withoutNulls = t ↔ t.default ≠ some .null := by
  obtain ⟨description, required, optional, computed, forceNew, sensitive, default, validations,
    conflictsWith, minItems, maxItems⟩ := t
  cases default with
  | none => simp [withoutNulls]
  | some v => cases v <;> simp [withoutNulls, Json.isNull]

theorem keys_textMember (key text : String) :
    (Keyed.keys (textMember key text)).Sublist [key] := by
  unfold textMember
  split <;> simp [Keyed.keys]

theorem keys_listMember {α : Type} (key : String) (toJson : α → Json) (items : List α) :
    (Keyed.keys (listMember key toJson items)).Sublist [key] := by
  unfold listMember
  split <;> simp [Keyed.keys]

theorem keys_member? {α : Type} (key : String) (toJson : α → Json) (o : Option α) :
    (Keyed.keys (Json.member? key toJson o)).Sublist [key] := by
  cases o <;> simp [Keyed.keys, Json.member?]

theorem ordered_members (t : Traits) (type : Json) : Keyed.Ordered (t.members type) := by
  have hsublist : (Keyed.keys (t.members type)).Sublist
      ["computed", "conflicts_with", "default", "description", "force_new", "max_items",
        "min_items", "optional", "required", "sensitive", "type", "validations"] := by
    simp only [members, Keyed.keys, List.map_append]
    exact ((((((((List.Sublist.refl ["computed"]).append (keys_listMember _ _ _)).append
      (keys_member? _ _ _)).append (keys_textMember _ _)).append
      (List.Sublist.refl ["force_new"])).append (keys_member? _ _ _)).append
      (keys_member? _ _ _)).append
      (List.Sublist.refl ["optional", "required", "sensitive", "type"])).append
      (keys_listMember _ _ _)
  exact List.Pairwise.sublist hsublist (by decide)

theorem get?_textMember (name key text : String) : Keyed.get? name (textMember key text) =
    if key = name then if text = "" then .none else some (.string text) else .none := by
  unfold textMember
  split <;> simp [Keyed.get?]

theorem get?_listMember {α : Type} (name key : String) (toJson : α → Json) (items : List α) :
    Keyed.get? name (listMember key toJson items) =
      if key = name then if items.isEmpty then .none else some (.array (items.map toJson))
      else .none := by
  unfold listMember
  split <;> simp [Keyed.get?]

theorem get?_member? {α : Type} (name key : String) (toJson : α → Json) (o : Option α) :
    Keyed.get? name (Json.member? key toJson o) = if key = name then o.map toJson else .none := by
  cases o <;> simp [Keyed.get?, Json.member?]

end Traits

/-- A default is read as it is, but null as no default. -/
theorem Json.Record.Gives.default {members : Keyed Json} {name : String} {o : Option Json}
    (hv : members.get? name = o) :
    (Record.optional name Decode.any).Gives members (o.filter (!·.isNull)) := by
  refine ⟨Record.checked_field _ _ _, ?_⟩
  rw [Record.optional_build, hv]
  cases o with
  | none => rfl
  | some v => cases v <;> rfl

/-- An attribute comes back without a default of null, if its type comes back. -/
theorem attribute_reads (nested : Bool) {readType : Decoder AttrType} {written : Json}
    {type : AttrType} (t : Traits) (htype : readType written = .ok type) :
    attributeDecoder nested readType (.object (t.members written)) = .ok ⟨type, t.withoutNulls⟩ := by
  have hgives (nested : Bool) : (attributeRecord nested readType).Gives (t.members written)
      ⟨type, t.withoutNulls⟩ := by
    have hflag (name : String) (b : Bool)
        (hv : Keyed.get? name (t.members written) = some (.bool b)) :
        (Record.defaulted name Decode.boolean false).Gives (t.members written) b :=
      .found hv (Decode.boolean_exact.reads b)
    -- One field after the other, in order of declaration. Where each of them stands among the
    -- members, or that it is left out, is shown at the end for all of them.
    refine Record.Gives.seq (.seq (.seq (.seq (.seq (.seq (.seq (.seq (.seq (.seq (.seq
      (.map (.found ?_ htype) _) (.omitted Decode.text_exact.reads id ?_))
      (hflag "required" _ ?_)) (hflag "optional" _ ?_)) (hflag "computed" _ ?_))
      (hflag "force_new" _ ?_)) (hflag "sensitive" _ ?_)) (.default ?_))
      (.omitted (Validation.reads nested).list List.isEmpty_iff.mp ?_))
      (.omitted Decode.text_exact.reads.list List.isEmpty_iff.mp ?_))
      (.optional Decode.size_exact.reads (fun _ => rfl) ?_))
      (.optional Decode.size_exact.reads (fun _ => rfl) ?_)
    all_goals simp [Traits.members, Keyed.get?_append, Keyed.get?_cons, Traits.get?_textMember,
      Traits.get?_listMember, Traits.get?_member?]
  have hordered := t.ordered_members written
  cases nested with
  | true => exact (hgives true).nestedDecoder "struct Attribute" hordered
  | false => exact (hgives false).decoder "struct Attribute" hordered

/-! ## Types and the attributes inside them -/

mutual

/-- The type without defaults of null inside it. -/
def AttrType.withoutNulls : AttrType → AttrType
  | .list element => .list element.withoutNulls
  | .set element => .set element.withoutNulls
  | .map element => .map element.withoutNulls
  | .object attributes => .object (attributesWithoutNulls attributes)
  | t => t

def Attribute.withoutNulls : Attribute → Attribute
  | ⟨type, traits⟩ => ⟨type.withoutNulls, traits.withoutNulls⟩

def attributesWithoutNulls : List (String × Attribute) → List (String × Attribute)
  | [] => []
  | (name, a) :: rest => (name, a.withoutNulls) :: attributesWithoutNulls rest

end

mutual

/-- No attribute inside the type has a default of null. -/
def AttrType.NullFree : AttrType → Prop
  | .list element | .set element | .map element => element.NullFree
  | .object attributes => AttributesNullFree attributes
  | _ => True

/-- The default is not null, nor is one inside the type. -/
def Attribute.NullFree : Attribute → Prop
  | ⟨type, traits⟩ => traits.default ≠ some .null ∧ type.NullFree

def AttributesNullFree : List (String × Attribute) → Prop
  | [] => True
  | (_, a) :: rest => a.NullFree ∧ AttributesNullFree rest

end

mutual

theorem AttrType.withoutNulls_eq_iff : ∀ t : AttrType, t.withoutNulls = t ↔ t.NullFree
  | .list element => by simp [AttrType.withoutNulls, AttrType.NullFree, element.withoutNulls_eq_iff]
  | .set element => by simp [AttrType.withoutNulls, AttrType.NullFree, element.withoutNulls_eq_iff]
  | .map element => by simp [AttrType.withoutNulls, AttrType.NullFree, element.withoutNulls_eq_iff]
  | .object attributes => by
    simp [AttrType.withoutNulls, AttrType.NullFree, attributesWithoutNulls_eq_iff attributes]
  | .string | .int | .float | .bool => by simp [AttrType.withoutNulls, AttrType.NullFree]

theorem Attribute.withoutNulls_eq_iff : ∀ a : Attribute, a.withoutNulls = a ↔ a.NullFree
  | ⟨type, traits⟩ => by
    simp [Attribute.withoutNulls, Attribute.NullFree, type.withoutNulls_eq_iff,
      traits.withoutNulls_eq_iff, and_comm]

theorem attributesWithoutNulls_eq_iff : ∀ attributes : List (String × Attribute),
    attributesWithoutNulls attributes = attributes ↔ AttributesNullFree attributes
  | [] => by simp [attributesWithoutNulls, AttributesNullFree]
  | (name, a) :: rest => by
    simp [attributesWithoutNulls, AttributesNullFree, a.withoutNulls_eq_iff,
      attributesWithoutNulls_eq_iff rest]

end

theorem Json.depth_le_membersDepth {members : List (String × Json)} {key : String} {v : Json}
    (h : (key, v) ∈ members) : v.depth ≤ membersDepth members := by
  induction members with
  | nil => cases h
  | cons member rest ih =>
    obtain ⟨k, w⟩ := member
    simp only [membersDepth]
    rcases List.mem_cons.mp h with heq | hrest
    · obtain ⟨-, rfl⟩ := Prod.mk.inj heq
      omega
    · have := ih hrest
      omega

theorem Traits.depth_type_lt (t : Traits) (type : Json) :
    type.depth < (Json.object (t.members type)).depth := by
  have hmem : ("type", type) ∈ t.members type := by simp [members]
  have := Json.depth_le_membersDepth hmem
  rw [Json.depth]
  omega

theorem depth_typeWith (kind : String) (element : Json) :
    (typeWith kind element).depth = element.depth + 1 := by
  simp [typeWith, Json.depth, membersDepth]

/-- A type around another one is read once that one is. -/
theorem readType_around {levels : Nat} {nested : Bool} {kind : String} {written : Json}
    {element : AttrType} (around : AttrType → AttrType)
    (hkind : readType (levels + 1) nested (typeWith kind written) =
      (do return around (← readType levels true written)))
    (helement : readType levels true written = .ok element) :
    readType (levels + 1) nested (typeWith kind written) = .ok (around element) := by
  rw [hkind, helement]
  rfl

mutual

/-- Types come back, if they are not nested too deep to be read. -/
theorem readType_toJson : ∀ (t : AttrType) (levels : Nat) (nested : Bool),
    t.toJson.depth < levels → readType levels nested t.toJson = .ok t.withoutNulls
  | _, 0, _, h => absurd h (Nat.not_lt_zero _)
  | .string, _ + 1, _, _ | .int, _ + 1, _, _ | .float, _ + 1, _, _ | .bool, _ + 1, _, _ => rfl
  | .list element, levels + 1, nested, h => by
    rw [AttrType.toJson, depth_typeWith] at h
    have helement := readType_toJson element levels true (by omega)
    exact readType_around .list rfl helement
  | .set element, levels + 1, nested, h => by
    rw [AttrType.toJson, depth_typeWith] at h
    have helement := readType_toJson element levels true (by omega)
    exact readType_around .set rfl helement
  | .map element, levels + 1, nested, h => by
    rw [AttrType.toJson, depth_typeWith] at h
    have helement := readType_toJson element levels true (by omega)
    exact readType_around .map rfl helement
  | .object attributes, levels + 1, nested, h => by
    rw [AttrType.toJson, depth_typeWith, Json.depth] at h
    have hattributes := entries_attributeMembers attributes levels true (by omega)
    have hread : readType (levels + 1) nested
        (typeWith "object" (.object (attributeMembers attributes))) =
        (do return .object (← Decode.entries (attributeDecoder true (readType levels true))
          (attributeMembers attributes))) := rfl
    rw [AttrType.toJson, hread, hattributes]
    rfl

theorem entries_attributeMembers : ∀ (attributes : List (String × Attribute)) (levels : Nat)
    (nested : Bool), membersDepth (attributeMembers attributes) ≤ levels →
      Decode.entries (attributeDecoder nested (readType levels nested)) (attributeMembers attributes) =
        .ok (attributesWithoutNulls attributes)
  | [], _, _, _ => rfl
  | (name, ⟨type, traits⟩) :: rest, levels, nested, h => by
    have htype := traits.depth_type_lt type.toJson
    simp only [attributeMembers, Attribute.toJson, membersDepth] at h
    have hfirst := attribute_reads nested traits (readType_toJson type levels nested (by omega))
    have hrest := entries_attributeMembers rest levels nested (by omega)
    simp only [attributeMembers, Attribute.toJson, Decode.entries, hfirst, hrest]
    rfl

end

/-! ## Schemas -/

namespace Schema

/-- The schema without defaults of null. -/
def withoutNulls (s : Schema) : Schema :=
  { s with attributes := attributesWithoutNulls s.attributes }

/-- No attribute at any depth has a default of null. -/
def NullFree (s : Schema) : Prop := AttributesNullFree s.attributes

theorem withoutNulls_eq_iff (s : Schema) : s.withoutNulls = s ↔ s.NullFree := by
  rw [NullFree, ← attributesWithoutNulls_eq_iff]
  obtain ⟨version, description, attributes⟩ := s
  simp [withoutNulls]

theorem map_attributeMembers (attributes : List (String × Attribute)) :
    Decode.map Attribute.decoder (.object (attributeMembers attributes)) =
      .ok (attributesWithoutNulls attributes) := by
  rw [Decode.map]
  induction attributes with
  | nil => rfl
  | cons entry rest ih =>
    obtain ⟨name, type, traits⟩ := entry
    have hdepth := traits.depth_type_lt type.toJson
    have hfirst : Attribute.decoder (.object (traits.members type.toJson)) = _ :=
      attribute_reads false traits (readType_toJson type _ false (by omega))
    simp only [attributeMembers, Attribute.toJson, Decode.entries, hfirst, ih]
    rfl

/-- Every schema is read back, without its defaults of null. -/
theorem decoder_toJson (s : Schema) : Schema.decoder s.toJson = .ok s.withoutNulls := by
  have hordered : Keyed.Ordered ([("attributes", .object (attributeMembers s.attributes))] ++
      textMember "description" s.description ++ [("version", .uint32 s.version)]) := by
    have hsublist := ((List.Sublist.refl ["attributes"]).append
      (Traits.keys_textMember "description" s.description)).append (List.Sublist.refl ["version"])
    rw [Keyed.Ordered, Keyed.keys, List.map_append, List.map_append]
    exact List.Pairwise.sublist hsublist (by decide)
  refine Record.Gives.decoder (.seq (.seq (.map (.found ?_ (Decode.uint32_exact.reads s.version)) _)
    (.omitted Decode.text_exact.reads id ?_)) (.found ?_ (map_attributeMembers s.attributes)))
    "struct Schema" hordered
  all_goals simp [Keyed.get?_append, Keyed.get?_cons, Traits.get?_textMember]

/-- A text of the document comes back too, if its objects are in order, it is not nested too deep for the
reader, and its numbers are read as they are printed. -/
theorem text_comes_back {s : Schema} (hnull : s.NullFree) (hsorted : s.toJson.Sorted)
    (hdepth : s.toJson.depth < nestingLimit) (hfloats : s.toJson.FloatsReread) :
    ∃ document, Json.parse s.toJson.compact = .ok document ∧ Schema.decoder document = .ok s := by
  refine ⟨s.toJson, ?_, ?_⟩
  · rw [parse_compact hdepth hfloats, ordered_of_sorted _ hsorted]
  · rw [decoder_toJson, s.withoutNulls_eq_iff.mpr hnull]

/-- **The document of a schema** is read as that schema if and only if no attribute, at any depth,
has a default of null. -/
theorem comes_back_iff (s : Schema) : Schema.decoder s.toJson = .ok s ↔ s.NullFree := by
  rw [decoder_toJson, Except.ok.injEq, withoutNulls_eq_iff]

end Schema

end CloudProvider
