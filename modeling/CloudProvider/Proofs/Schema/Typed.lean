import CloudProvider.Proofs.Schema.Valid

/-!
# Values of the declared type

A state fits a schema if each of its keys is an attribute and each value has the type of the attribute,
at every level.

* `Json.hasType`: the value has the type, and so have all values inside.
* `TypedAt`, `Typed`: a value and all values have the types that the attributes declare.
* `Json.allHaveType_map`, `typedAt_items`, `typedAt_option`: what is written of objects.
* `Typed.insert`, `ResourceState.typed_setAll`: values of the declared types are written.
-/

namespace CloudProvider
open Json
set_option autoImplicit false

/-! ## Types -/

mutual

/-- The value has the type, and so have all values inside: a list has no null among its elements, and
the members of an object are attributes, where null stands for a missing one. -/
def Json.hasType : Json → AttrType → Bool
  | .array items, .list element | .array items, .set element => allHaveType items element
  | .object members, .map element => valuesHaveType members element
  | .object members, .object attributes => membersHaveType members attributes
  | v, type => type.admits v

def Json.allHaveType : List Json → AttrType → Bool
  | [], _ => true
  | v :: rest, type => v.hasType type && allHaveType rest type

def Json.valuesHaveType : List (String × Json) → AttrType → Bool
  | [], _ => true
  | (_, v) :: rest, type => v.hasType type && valuesHaveType rest type

def Json.membersHaveType : List (String × Json) → List (String × Attribute) → Bool
  | [], _ => true
  | (key, v) :: rest, attributes =>
    (Keyed.get? key attributes).any (fun a => v.isNull || v.hasType a.type) &&
      membersHaveType rest attributes

end

/-- The key is an attribute, and the value has its type unless it is null. -/
def TypedAt (attributes : Keyed Attribute) (key : String) (v : Json) : Prop :=
  ∃ a, attributes.get? key = some a ∧ (v.isNull = false → v.hasType a.type = true)

/-- Every key is an attribute, and every value has its type unless it is null. -/
def Typed (attributes : Keyed Attribute) (values : Keyed Json) : Prop :=
  ∀ entry ∈ values, TypedAt attributes entry.1 entry.2

variable {attributes : Keyed Attribute} {key : String} {v : Json} {values : Keyed Json} {a : Attribute}

theorem Json.membersHaveType_iff :
    membersHaveType values attributes = true ↔ Typed attributes values := by
  induction values with
  | nil => exact iff_of_true rfl fun _ hentry => absurd hentry List.not_mem_nil
  | cons entry rest ih =>
    obtain ⟨key, v⟩ := entry
    have hcons : Typed attributes ((key, v) :: rest) ↔
        TypedAt attributes key v ∧ Typed attributes rest := List.forall_mem_cons
    rw [membersHaveType, Bool.and_eq_true, Option.any_eq_true, ih, hcons]
    refine and_congr_left fun _ => exists_congr fun a => and_congr_right fun _ => ?_
    cases v.isNull <;> simp

/-! ## Values of a state -/

theorem typedAt_of_hasType (ha : attributes.get? key = some a) (hv : v.hasType a.type = true) :
    TypedAt attributes key v :=
  ⟨a, ha, fun _ => hv⟩

theorem Json.allHaveType_map {α : Type} {f : α → Json} {t : AttrType}
    (hf : ∀ x, (f x).hasType t = true) (xs : List α) : allHaveType (xs.map f) t = true := by
  induction xs with
  | nil => rfl
  | cons x rest ih => rw [List.map_cons, allHaveType, hf x, ih, Bool.and_self]

theorem Json.valuesHaveType_map {α : Type} {f : α → Json} {t : AttrType}
    (hf : ∀ x, (f x).hasType t = true) (entries : Keyed α) :
    valuesHaveType (entries.mapValues f) t = true := by
  induction entries with
  | nil => rfl
  | cons entry rest ih =>
    have hrest : valuesHaveType (rest.map fun entry => (entry.1, f entry.2)) t = true := ih
    rw [Keyed.mapValues, List.map_cons, valuesHaveType, hf entry.2, hrest, Bool.and_self]

theorem typedAt_items {α : Type} {f : α → Json} {t : AttrType} {xs : List α}
    (ha : attributes.get? key = some a) (htype : a.type = .list t ∨ a.type = .set t)
    (hf : ∀ x, (f x).hasType t = true) : TypedAt attributes key (.array (xs.map f)) := by
  refine typedAt_of_hasType ha ?_
  rcases htype with htype | htype <;> rw [htype] <;> exact allHaveType_map hf xs

theorem typedAt_strings {xs : List String} (ha : attributes.get? key = some a)
    (htype : a.type = .list .string ∨ a.type = .set .string) :
    TypedAt attributes key (.strings xs) :=
  typedAt_items ha htype fun _ => rfl

theorem typedAt_option {α : Type} {f : α → Json} {o : Option α} (ha : attributes.get? key = some a)
    (hf : ∀ x, (f x).hasType a.type = true) : TypedAt attributes key (.option f o) := by
  refine ⟨a, ha, fun hnull => ?_⟩
  cases o with
  | none => cases hnull
  | some x => exact hf x

/-! ## Writing values -/

theorem Typed.insert (h : Typed attributes values) (hv : TypedAt attributes key v) :
    Typed attributes (values.insert key v) := by
  intro entry hentry
  rcases Keyed.mem_insert hentry with rfl | hentry
  · exact hv
  · exact h entry hentry

theorem ResourceState.typed_setAll {s : ResourceState} {entries : List (String × Json)}
    (h : Typed attributes s.values)
    (hentries : ∀ entry ∈ entries, TypedAt attributes entry.1 entry.2) :
    Typed attributes (s.setAll entries).values := by
  induction entries generalizing s with
  | nil => exact h
  | cons entry rest ih =>
    obtain ⟨hentry, hrest⟩ := List.forall_mem_cons.mp hentries
    exact ih (s := s.set entry.1 entry.2) (h.insert hentry) hrest

end CloudProvider
