import CloudProvider.Proofs.Schema.Valid

/-!
# Rules that valid values obey

Validation looks at an integer only if it is a signed word. Where all integers are, the values of a
valid configuration obey the rules of their attributes, and so do the defaults.

* `Json.signed`: every integer of a value is a signed word.
* `signed_fillAll`: filling in defaults that are so keeps this.
* `Planned.present`, `Planned.givenText`: attributes that have to be given.
* `Planned.ruled`, `Planned.bounded`: texts that obey rules, and integers between bounds.
* `Planned.blockSet`, `Planned.enough`, `Planned.textMap`: blocks and maps of texts.
-/

namespace CloudProvider
set_option autoImplicit false

/-! ## Signed integers -/

mutual

/-- Every integer of a value, at any depth, is a signed word. -/
def Json.signed : Json → Bool
  | .number (.int n) => n.toInt64?.isSome
  | .array items => Json.signedItems items
  | .object members => Json.signedMembers members
  | _ => true

def Json.signedItems : List Json → Bool
  | [] => true
  | v :: rest => v.signed && Json.signedItems rest

def Json.signedMembers : List (String × Json) → Bool
  | [] => true
  | (_, v) :: rest => v.signed && Json.signedMembers rest

end

namespace Json

theorem signed_array {items : List Json} :
    (array items).signed = true ↔ ∀ v ∈ items, v.signed = true := by
  rw [signed]
  induction items with
  | nil => simp [signedItems]
  | cons v rest ih => simp [signedItems, ih]

theorem signed_object {members : Keyed Json} :
    (object members).signed = true ↔ ∀ entry ∈ members, entry.2.signed = true := by
  rw [signed]
  induction members with
  | nil => simp [signedMembers]
  | cons entry rest ih => simp [signedMembers, ih]

theorem signed_of_get? {members : Keyed Json} {key : String} {v : Json}
    (h : (object members).signed = true) (hv : members.get? key = some v) : v.signed = true :=
  signed_object.mp h _ (mem_of_get? hv)

theorem signed_erase {members : Keyed Json} (key : String) (h : (object members).signed = true) :
    (object (members.erase key)).signed = true :=
  signed_object.mpr fun entry hentry => signed_object.mp h entry (List.mem_filter.mp hentry).1

theorem signed_insert {members : Keyed Json} {v : Json} (key : String)
    (h : (object members).signed = true) (hv : v.signed = true) :
    (object (members.insert key v)).signed = true := by
  rw [signed_object] at h ⊢
  induction members with
  | nil => simpa [Keyed.insert] using hv
  | cons entry rest ih =>
    obtain ⟨hentry, hrest⟩ := List.forall_mem_cons.mp h
    simp only [Keyed.insert]
    split
    · exact List.forall_mem_cons.mpr ⟨hv, hrest⟩
    · split
      · exact List.forall_mem_cons.mpr ⟨hentry, ih hrest⟩
      · exact List.forall_mem_cons.mpr ⟨hv, h⟩

theorem signed_mapObjects {f : Keyed Json → Keyed Json}
    (hf : ∀ m, (object m).signed = true → (object (f m)).signed = true) {v : Json}
    (h : v.signed = true) : (v.mapObjects f).signed = true := by
  cases v with
  | object m => exact hf m h
  | array items =>
    refine signed_array.mpr fun w hw => ?_
    obtain ⟨item, hitem, rfl⟩ := List.mem_map.mp hw
    have hsigned := signed_array.mp h item hitem
    cases item with
    | object m => exact hf m hsigned
    | _ => exact hsigned
  | _ => exact h

end Json

mutual

/-- The integers among the defaults are signed words, at every level. -/
def AttrType.signedDefaults : AttrType → Bool
  | .object attributes => CloudProvider.signedDefaults attributes
  | .list t | .set t | .map t => t.signedDefaults
  | .string | .int | .float | .bool => true

def signedDefaults : List (String × Attribute) → Bool
  | [] => true
  | (_, ⟨type, traits⟩) :: rest =>
    traits.default.all Json.signed && type.signedDefaults && signedDefaults rest

end

theorem signedDefaults_of_mem {attributes : List (String × Attribute)} {entry : String × Attribute}
    (h : signedDefaults attributes = true) (hentry : entry ∈ attributes) :
    entry.2.traits.default.all Json.signed = true ∧ entry.2.type.signedDefaults = true := by
  induction attributes with
  | nil => cases hentry
  | cons head rest ih =>
    obtain ⟨name, type, traits⟩ := head
    simp only [signedDefaults, Bool.and_eq_true] at h
    rcases List.mem_cons.mp hentry with rfl | hmem
    · exact h.1
    · exact ih h.2 hmem

theorem signedDefaults_of_blocks? {t : AttrType} {inner : List (String × Attribute)}
    (h : t.signedDefaults = true) (hinner : t.blocks? = some inner) : signedDefaults inner = true := by
  unfold AttrType.blocks? at hinner
  split at hinner <;> cases hinner <;> exact h

theorem signed_fillAll (attributes : List (String × Attribute))
    (h : signedDefaults attributes = true) (m : Keyed Json) (hm : (Json.object m).signed = true) :
    (Json.object (fillAll attributes m)).signed = true := by
  refine fillAll_keeps (D := fun attributes => signedDefaults attributes = true)
    (Q := fun m => (Json.object m).signed = true) (R := fun v => v.signed = true) ?_ ?_ ?_ ?_
    attributes h m hm
  · intro attributes h entry hentry
    obtain ⟨hdefault, htype⟩ := signedDefaults_of_mem h hentry
    refine ⟨fun d hd => ?_, fun inner => signedDefaults_of_blocks? htype⟩
    rw [hd] at hdefault
    exact hdefault
  · intro m key v hm hv
    exact Json.signed_of_get? hm hv
  · intro m key v hm hv
    exact Json.signed_insert key hm hv
  · intro f hf v hv
    exact Json.signed_mapObjects hf hv

/-! ## Values under rules -/

theorem check_of_ruleErrors {t : Traits} {path : String} {v : Json} {rule : Validation}
    (h : ruleErrors t path v = []) (hrule : rule ∈ t.validations) : rule.check v = none :=
  List.filterMap_eq_nil_iff.mp (List.map_eq_nil_iff.mp h) rule hrule

theorem check_ipAddress {s : String} (h : Validation.check .ipAddress (.string s) = none) :
    (Address.parse? s).isSome = true := by
  rw [check_ipAddress_eq] at h
  split at h
  · assumption
  · cases h

theorem bounds_of_errors {t : Traits} {path : String} {n : Integer} {k least most : Int64}
    (h : AttrType.int.errors t (.number (.int n)) path = []) (hk : n.toInt64? = some k)
    (hrule : .intBetween least most ∈ t.validations) :
    least.toInt ≤ k.toInt ∧ k.toInt ≤ most.toInt := by
  have hcheck := check_of_ruleErrors (show ruleErrors t path _ = [] from h) hrule
  rw [check_intBetween_eq, show (Json.number (.int n)).asInt64? = some k from hk,
    Option.bind_some] at hcheck
  by_cases hbounds : least.toInt ≤ k.toInt ∧ k.toInt ≤ most.toInt
  · exact hbounds
  · rw [if_neg hbounds] at hcheck
    cases hcheck

theorem eq_texts_of_errors {t : Traits} {v : Json} {path : String}
    (h : (AttrType.map .string).errors t v path = []) :
    ∃ texts : Keyed String, v = .object (texts.mapValues .string) := by
  cases v with
  | object members =>
    rw [AttrType.errors, List.flatMap_eq_nil_iff] at h
    induction members with
    | nil => exact ⟨[], rfl⟩
    | cons member rest ih =>
      obtain ⟨key, v⟩ := member
      obtain ⟨hmember, hrest⟩ := List.forall_mem_cons.mp h
      obtain ⟨s, rfl⟩ := eq_string_of_errors hmember
      obtain ⟨texts, htexts⟩ := ih hrest
      exact ⟨(key, s) :: texts, by simp_all [Keyed.mapValues]⟩
  | _ => simp [AttrType.errors, AttrType.admits] at h

theorem blocks_of_set_errors {attributes : List (String × Attribute)} {t : Traits} {v : Json}
    {path : String} (hplain : plainAll attributes = true) (hv : v.Sorted)
    (h : (AttrType.set (.object attributes)).errors t v path = []) :
    ∃ blocks : List (Keyed Json),
      (AttrType.set (.object attributes)).fill v = .array (blocks.map .object) ∧
      ∀ block ∈ blocks, PlannedBlock attributes block := by
  cases v with
  | array items =>
    obtain ⟨-, hitems⟩ := List.append_eq_nil_iff.mp h
    obtain ⟨blocks, hblocks, -, hall⟩ :=
      blocks_of_error_free hplain hv (error_free_of_atItems hitems)
    exact ⟨blocks, congrArg Json.array hblocks, hall⟩
  | _ => simp [AttrType.errors, AttrType.admits] at h

theorem le_length_of_itemCount {t : Traits} {path : String} {count : Nat} {least : UInt64}
    (h : itemCount t path count = []) (hleast : t.minItems = some least) : least.toNat ≤ count := by
  rw [itemCount, List.append_eq_nil_iff] at h
  have hfirst := h.1
  rw [hleast] at hfirst
  refine Nat.le_of_not_lt fun hless => ?_
  simp [hless] at hfirst

namespace Planned

variable {attributes : Keyed Attribute} {values : Keyed Json} {name : String} {a : Attribute}

/-- An attribute that has to be given, or has a default, is not unset. -/
theorem present {P : Json → Prop} {v : Option Json} (h : Unset a v ∨ ∃ w, v = some w ∧ P w)
    (hgiven : a.traits.required = true ∨ a.traits.default.isSome = true) :
    ∃ w, v = some w ∧ P w := by
  rcases h with ⟨-, hrequired, hdefault⟩ | hset
  · simp [hrequired, hdefault] at hgiven
  · exact hset

theorem givenText (h : Planned attributes values) (hplain : plainAll attributes = true)
    (ha : Keyed.get? name attributes = some a) (htype : a.type = .string)
    (hdefault : ∀ d, a.traits.default = some d → ∃ s, d = .string s)
    (hgiven : a.traits.required = true ∨ a.traits.default.isSome = true) :
    ∃ s, values.get? name = some (.string s) := by
  obtain ⟨v, hv, s, rfl⟩ := present (h.value hplain ha hdefault fun v path _ hv => by
    rw [htype] at hv ⊢
    exact eq_string_of_errors hv) hgiven
  exact ⟨s, hv⟩

theorem ruled (h : Planned attributes values) (hplain : plainAll attributes = true)
    (ha : Keyed.get? name attributes = some a) (htype : a.type = .string)
    (hdefault : a.traits.default = none) :
    Unset a (values.get? name) ∨ ∃ v, values.get? name = some v ∧
      ∃ s, v = .string s ∧ ∀ rule ∈ a.traits.validations, rule.check v = none := by
  refine h.value hplain ha (by simp [hdefault]) fun v path _ hv => ?_
  rw [htype] at hv ⊢
  obtain ⟨s, rfl⟩ := eq_string_of_errors hv
  exact ⟨s, rfl, fun rule hrule => check_of_ruleErrors hv hrule⟩

theorem bounded {least most : Int64} (h : Planned attributes values)
    (hsigned : (Json.object values).signed = true) (hplain : plainAll attributes = true)
    (ha : Keyed.get? name attributes = some a) (htype : a.type = .int)
    (hrule : .intBetween least most ∈ a.traits.validations)
    (hdefault : ∀ d, a.traits.default = some d →
      ∃ k, d = .int64 k ∧ least.toInt ≤ k.toInt ∧ k.toInt ≤ most.toInt) :
    Unset a (values.get? name) ∨ ∃ v, values.get? name = some v ∧
      ∃ k, v = .int64 k ∧ least.toInt ≤ k.toInt ∧ k.toInt ≤ most.toInt := by
  rcases h.cases hplain ha with hunset | ⟨d, hd, hd'⟩ | ⟨v, path, hv, -, -, herrors⟩
  · exact .inl hunset
  · exact .inr ⟨d, hd, hdefault d hd'⟩
  · rw [htype] at herrors hv
    obtain ⟨n, rfl⟩ := eq_int_of_errors herrors
    obtain ⟨k, hk⟩ := Option.isSome_iff_exists.mp (Json.signed_of_get? hsigned hv)
    exact .inr ⟨_, hv, k, Json.int64_eq_iff.mpr (Integer.toInt64?_eq_some.mp hk),
      bounds_of_errors herrors hk hrule⟩

theorem blockSet {inner : List (String × Attribute)} (h : Planned attributes values)
    (hplain : plainAll attributes = true) (ha : Keyed.get? name attributes = some a)
    (htype : a.type = .set (.object inner)) (hdefault : a.traits.default = none) :
    Unset a (values.get? name) ∨ ∃ v, values.get? name = some v ∧
      ∃ blocks : List (Keyed Json), v = .array (blocks.map .object) ∧
        ∀ block ∈ blocks, PlannedBlock inner block := by
  have hinner : plainAll inner = true := by
    have htypePlain := plain_of_get? hplain ha
    rwa [htype] at htypePlain
  refine h.value hplain ha (by simp [hdefault]) fun v path hsorted hv => ?_
  rw [htype] at hv ⊢
  exact blocks_of_set_errors hinner hsorted hv

theorem enough {inner : List (String × Attribute)} {least : UInt64} (h : Planned attributes values)
    (hplain : plainAll attributes = true) (ha : Keyed.get? name attributes = some a)
    (htype : a.type = .list (.object inner)) (hdefault : a.traits.default = none)
    (hleast : a.traits.minItems = some least) :
    Unset a (values.get? name) ∨ ∃ v, values.get? name = some v ∧
      ∃ items, v = .array items ∧ least.toNat ≤ items.length := by
  refine h.value hplain ha (by simp [hdefault]) fun v path _ hv => ?_
  rw [htype] at hv ⊢
  cases v with
  | array items =>
    obtain ⟨hcount, -⟩ := List.append_eq_nil_iff.mp hv
    refine ⟨_, rfl, ?_⟩
    rw [List.length_map]
    exact le_length_of_itemCount hcount hleast
  | _ => simp [AttrType.errors, AttrType.admits] at hv

theorem textMap (h : Planned attributes values) (hplain : plainAll attributes = true)
    (ha : Keyed.get? name attributes = some a) (htype : a.type = .map .string)
    (hdefault : a.traits.default = none) :
    Unset a (values.get? name) ∨ ∃ v, values.get? name = some v ∧
      ∃ texts : Keyed String, v = .object (texts.mapValues .string) := by
  refine h.value hplain ha (by simp [hdefault]) fun v path _ hv => ?_
  rw [htype] at hv ⊢
  exact eq_texts_of_errors hv

end Planned

end CloudProvider
