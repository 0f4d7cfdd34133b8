import CloudProvider.Proofs.Schema.Distinct
import CloudProvider.Resource.LoadBalancer

/-!
# What filling in the defaults changes

Filling sets members that are unset, in the object it is about and in the blocks below, and changes
nothing else.

* `Json.Within`: nothing that is set is taken away or changed.
* `blockAt?`: the block at the end of a path, with its attributes.
* `blockAt?_fillAll`: the blocks of filled members are the blocks of the members, filled.
* `Completes`: what becomes of the members of one block.
* `Schema.fill_completes`: filling in the defaults of a schema.
-/

namespace CloudProvider
set_option autoImplicit false

/-! ## Nothing lost -/

/-- The second value has everything that is set in the first, as it is or with more set inside. -/
inductive Json.Within : Json → Json → Prop where
  | same (v : Json) : Within v v
  | array {items items' : List Json} (length : items.length = items'.length)
      (each : ∀ (i : Nat) v v', items[i]? = some v → items'[i]? = some v' → Within v v') :
      Within (.array items) (.array items')
  | object {members members' : Keyed Json}
      (keys : ∀ key ∈ Keyed.keys members, key ∈ Keyed.keys members')
      (each : ∀ key v v', members.get? key = some v → members'.get? key = some v' → v ≠ .null →
        Within v v') :
      Within (.object members) (.object members')

theorem Keyed.mem_keys_iff {α : Type} {key : String} {entries : Keyed α} :
    key ∈ Keyed.keys entries ↔ ∃ v, entries.get? key = some v := by
  rw [← Keyed.contains_iff, Keyed.contains, Option.isSome_iff_exists]

theorem Json.within_mapObjects {f : Keyed Json → Keyed Json}
    (hf : ∀ m, Within (.object m) (.object (f m))) (v : Json) : Within v (v.mapObjects f) := by
  cases v with
  | object m => exact hf m
  | array items =>
    apply Within.array
    · simp
    · intro i v v' hv hv'
      rw [List.getElem?_map, hv] at hv'
      obtain rfl := Option.some.inj hv'
      cases v with
      | object m => exact hf m
      | _ => exact .same _
  | _ => exact .same _

variable {attributes : List (String × Attribute)} {name : String} {a : Attribute}

theorem keys_fillAll (members : Keyed Json) {key : String} (h : key ∈ Keyed.keys members) :
    key ∈ Keyed.keys (fillAll attributes members) := by
  induction attributes generalizing members with
  | nil => exact h
  | cons entry rest ih =>
    obtain ⟨name, type, traits⟩ := entry
    have hinsert (v : Json) : key ∈ Keyed.keys (members.insert name v) := by
      rw [Keyed.mem_keys_iff] at h ⊢
      by_cases hkey : key = name
      · exact ⟨v, hkey ▸ Keyed.get?_insert_self _ _ _⟩
      · rwa [Keyed.get?_insert_of_ne _ _ _ _ hkey]
    rw [fillAll]
    apply ih
    split
    · exact hinsert _
    · exact hinsert _
    · exact h

theorem within_fillAll (attributes : List (String × Attribute)) : plainAll attributes = true →
    ∀ members, Json.Within (.object members) (.object (fillAll attributes members)) := by
  induction attributes using blocks_induction with
  | h attributes ih =>
    intro hplain members
    refine .object (fun key => keys_fillAll members) fun key v v' hv hv' hnonnull => ?_
    by_cases hkey : key ∈ attributes.map (·.1)
    · obtain ⟨a, ha⟩ := Keyed.mem_keys_iff.mp hkey
      have hset : setValue? key members = some v := setValue?_eq_some_iff.mpr ⟨hv, hnonnull⟩
      have hfilled : setValue? key (fillAll attributes members) = some (a.type.fill v) := by
        rw [setValue?_fillAll hplain ha, hset]
        rfl
      obtain rfl := Option.some.inj (hv'.symm.trans (setValue?_eq_some_iff.mp hfilled).1)
      have hmem := mem_of_get? ha
      rw [AttrType.fill_eq]
      cases hinner : a.type.blocks? with
      | none => exact .same v
      | some inner =>
        have hinnerPlain := plainAll_of_blocks? (plain_of_mem hplain hmem).2 hinner
        exact Json.within_mapObjects (ih _ hmem inner hinner hinnerPlain) v
    · rw [get?_fillAll hkey] at hv'
      obtain rfl := Option.some.inj (hv.symm.trans hv')
      exact .same v

/-! ## Blocks -/

/-- An object at a place of a value: the value itself, or the item with a number. -/
def Json.objectAt? : Option Nat → Json → Option (Keyed Json)
  | none, .object members => some members
  | some i, .array items =>
    match items[i]? with
    | some (.object members) => some members
    | _ => none
  | _, _ => none

/-- The block at the end of a path of attributes and places, with its attributes. -/
def blockAt? : List (String × Option Nat) → List (String × Attribute) → Keyed Json →
    Option (List (String × Attribute) × Keyed Json)
  | [], attributes, members => some (attributes, members)
  | (name, place) :: path, attributes, members => do
    let a ← Keyed.get? name attributes
    let inner ← a.type.blocks?
    let v ← setValue? name members
    let block ← v.objectAt? place
    blockAt? path inner block

theorem Json.objectAt?_mapObjects (f : Keyed Json → Keyed Json) (place : Option Nat) (v : Json) :
    (v.mapObjects f).objectAt? place = (v.objectAt? place).map f := by
  cases v with
  | array items =>
    cases place with
    | none => rfl
    | some i =>
      simp only [mapObjects, objectAt?, List.getElem?_map]
      cases items[i]? with
      | none => rfl
      | some item => cases item <;> rfl
  | _ => cases place <;> rfl

theorem Json.objectAt?_of_isScalar {d : Json} (h : d.isScalar = true) (place : Option Nat) :
    d.objectAt? place = none := by
  cases d with
  | null | array | object => cases h
  | bool | number | string => cases place <;> rfl

/-- The objects under an attribute are those that were there, filled. Defaults are none. -/
theorem objectAt?_fillAll {inner : List (String × Attribute)} (hplain : plainAll attributes = true)
    (ha : Keyed.get? name attributes = some a) (hinner : a.type.blocks? = some inner)
    (members : Keyed Json) (place : Option Nat) :
    (setValue? name (fillAll attributes members)).bind (·.objectAt? place) =
      ((setValue? name members).bind (·.objectAt? place)).map (fillAll inner) := by
  rw [setValue?_fillAll hplain ha]
  cases setValue? name members with
  | some v => simp [AttrType.fill_eq, hinner, Json.objectAt?_mapObjects]
  | none =>
    cases hd : a.traits.default with
    | none => rfl
    | some d =>
      have hscalar := default_isScalar hplain ha hd
      simp [Json.objectAt?_of_isScalar hscalar]

theorem blockAt?_fillAll (path : List (String × Option Nat)) {attributes : List (String × Attribute)}
    (hplain : plainAll attributes = true) (members : Keyed Json) :
    blockAt? path attributes (fillAll attributes members) =
      (blockAt? path attributes members).map fun block => (block.1, fillAll block.1 block.2) := by
  induction path generalizing attributes members with
  | nil => rfl
  | cons step path ih =>
    obtain ⟨name, place⟩ := step
    simp only [blockAt?, Option.bind_eq_bind]
    cases ha : Keyed.get? name attributes with
    | none => rfl
    | some a =>
      simp only [Option.bind_some]
      cases hinner : a.type.blocks? with
      | none => rfl
      | some inner =>
        have hinnerPlain := plainAll_of_blocks? (plain_of_get? hplain ha) hinner
        have hblocks := objectAt?_fillAll hplain ha hinner members place
        simp only [Option.bind_some]
        rw [← Option.bind_assoc, ← Option.bind_assoc, hblocks]
        cases (setValue? name members).bind (·.objectAt? place) with
        | none => rfl
        | some block => exact ih hinnerPlain block

theorem plainAll_of_blockAt? {path : List (String × Option Nat)} {attributes : List (String × Attribute)}
    {members : Keyed Json} {block : List (String × Attribute) × Keyed Json}
    (hplain : plainAll attributes = true) (h : blockAt? path attributes members = some block) :
    plainAll block.1 = true := by
  induction path generalizing attributes members with
  | nil =>
    obtain rfl := Option.some.inj h
    exact hplain
  | cons step path ih =>
    obtain ⟨name, place⟩ := step
    simp only [blockAt?, Option.bind_eq_bind, Option.bind_eq_some_iff] at h
    obtain ⟨a, ha, inner, hinner, v, -, object, -, h⟩ := h
    exact ih (plainAll_of_blocks? (plain_of_get? hplain ha) hinner) h

/-! ## One block -/

/-- What becomes of the members of a block. Attributes that are set keep their value, but for the blocks
in it, unset ones get their default, and everything else stays. -/
structure Completes (attributes : List (String × Attribute)) (before after : Keyed Json) : Prop where
  undeclared : ∀ key, key ∉ Keyed.keys attributes → after.get? key = before.get? key
  whole : ∀ name a v, Keyed.get? name attributes = some a → setValue? name before = some v →
    a.type.blocks? = none → after.get? name = some v
  blocks : ∀ name a v inner, Keyed.get? name attributes = some a → setValue? name before = some v →
    a.type.blocks? = some inner → after.get? name = some (v.mapObjects (fillAll inner))
  unset : ∀ name a d, Keyed.get? name attributes = some a → setValue? name before = none →
    a.traits.default = some d → after.get? name = some d
  free : ∀ name a, Keyed.get? name attributes = some a → setValue? name before = none →
    a.traits.default = none → after.get? name = before.get? name
  given : ∀ name a, Keyed.get? name attributes = some a → a.traits.default.isSome = true →
    (setValue? name after).isSome = true

theorem completes_fillAll (hplain : plainAll attributes = true) (members : Keyed Json) :
    Completes attributes members (fillAll attributes members) := by
  have hset (name : String) (a : Attribute) (v : Json) (ha : Keyed.get? name attributes = some a)
      (hv : setValue? name members = some v) :
      (fillAll attributes members).get? name = some (a.type.fill v) := by
    rw [get?_fillAll_of_get? hplain ha, ← setValue?, hv]
  constructor
  · intro key hkey
    exact get?_fillAll hkey members
  · intro name a v ha hv hinner
    rw [hset name a v ha hv, AttrType.fill_eq, hinner]
  · intro name a v inner ha hv hinner
    rw [hset name a v ha hv, AttrType.fill_eq, hinner]
  · intro name a d ha hunset hd
    rw [get?_fillAll_of_get? hplain ha, ← setValue?, hunset, hd]
  · intro name a ha hunset hd
    rw [get?_fillAll_of_get? hplain ha, ← setValue?, hunset, hd]
  · intro name a ha hd
    rw [setValue?_fillAll hplain ha]
    cases setValue? name members with
    | some v => rfl
    | none => exact hd

/-! ## A schema -/

/-- Filling in the defaults twice is filling them in once. Nothing that is set is lost, and each block
of the result is a block of the values that is completed. -/
theorem Schema.fill_completes (s : Schema) (hplain : plainAll s.attributes = true) (values : Keyed Json) :
    s.fill (s.fill values) = s.fill values ∧
    Json.Within (.object values) (.object (s.fill values)) ∧
    ∀ path attributes after, blockAt? path s.attributes (s.fill values) = some (attributes, after) →
      ∃ before, blockAt? path s.attributes values = some (attributes, before) ∧
        Completes attributes before after := by
  refine ⟨(fillAll_filled _ hplain values).fillAll_eq, within_fillAll _ hplain values, ?_⟩
  intro path attributes after hafter
  rw [Schema.fill, blockAt?_fillAll path hplain, Option.map_eq_some_iff] at hafter
  obtain ⟨⟨inner, before⟩, hbefore, hblock⟩ := hafter
  obtain ⟨rfl, rfl⟩ := Prod.mk.inj hblock
  exact ⟨before, hbefore, completes_fillAll (plainAll_of_blockAt? hplain hbefore) before⟩

/-- Members of a load balancer with one rule, which has one target. -/
def oneTarget (target : Keyed Json) : Keyed Json :=
  [("forwarding_rule", .array [.object [("target", .array [.object target])]])]

theorem Schema.fill_completes_target :
    plainAll LoadBalancer.schema.attributes = true ∧
    ∃ attributes before after,
      blockAt? [("forwarding_rule", some 0), ("target", some 0)] LoadBalancer.schema.attributes
        (oneTarget [("weight", .null), ("zone", .string "a")]) = some (attributes, before) ∧
      Completes attributes before after ∧
      after.get? "weight" = some (.int64 1) ∧ after.get? "zone" = some (.string "a") := by
  have hplain : plainAll LoadBalancer.schema.attributes = true := by decide +kernel
  obtain ⟨-, -, hblocks⟩ := Schema.fill_completes LoadBalancer.schema hplain
    (oneTarget [("weight", .null), ("zone", .string "a")])
  obtain ⟨before, hbefore, hcompletes⟩ :=
    hblocks [("forwarding_rule", some 0), ("target", some 0)] _ _ rfl
  exact ⟨hplain, _, before, _, hbefore, hcompletes, rfl, rfl⟩

end CloudProvider
