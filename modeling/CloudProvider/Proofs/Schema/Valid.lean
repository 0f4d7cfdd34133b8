import CloudProvider.Proofs.Json.Normalize
import CloudProvider.Proofs.Schema.Checks

/-!
# Configurations that are valid

What is known of the values of a configuration in which nothing is wrong.

* `get?_fillAll_of_get?`: the value of an attribute once the defaults are filled in.
* `Json.sorted_fillAll`: filling keeps the members in order.
* `Valid`: every attribute that is given has a value without errors.
* `Planned`, `Planned.of_validate`, `Planned.cases`: the values of valid members, with their defaults.
* `PlannedBlock`, `blocks_of_errors`: the blocks of a valid list, with their defaults.
* `PlannedBlock.normalize_eq`: blocks that agree on their attributes.
-/

namespace CloudProvider
set_option autoImplicit false

theorem mem_of_get? {α : Type} {key : String} {entries : Keyed α} {v : α}
    (h : entries.get? key = some v) : (key, v) ∈ entries := by
  induction entries with
  | nil => cases h
  | cons entry rest ih =>
    obtain ⟨k, w⟩ := entry
    rw [Keyed.get?_cons] at h
    split at h
    · next hk =>
      obtain rfl := Option.some.inj h
      exact hk ▸ List.mem_cons_self ..
    · exact List.mem_cons_of_mem _ (ih h)

/-! ## Values with their defaults -/

variable {name : String} {a : Attribute} {attributes : List (String × Attribute)}
  {members : Keyed Json}

theorem get?_fillAll_of_get? (hplain : plainAll attributes = true)
    (ha : Keyed.get? name attributes = some a) (values : Keyed Json) :
    (fillAll attributes values).get? name =
      match (values.get? name).filter (!·.isNull), a.traits.default with
      | some v, _ => some (a.type.fill v)
      | none, some d => some d
      | none, none => values.get? name := by
  induction attributes generalizing values with
  | nil => cases ha
  | cons entry rest ih =>
    obtain ⟨other, type, traits⟩ := entry
    simp only [plainAll, Bool.and_eq_true, Bool.not_eq_true', List.contains_eq_mem,
      decide_eq_false_iff_not] at hplain
    obtain ⟨⟨⟨hother, -⟩, -⟩, hrest⟩ := hplain
    rw [fillAll]
    rw [Keyed.get?_cons] at ha
    split at ha
    · next hname =>
      subst hname
      obtain rfl := Option.some.inj ha
      rw [get?_fillAll hother]
      cases (values.get? other).filter (!·.isNull) with
      | some v => simp
      | none => cases traits.default <;> simp
    · next hne =>
      have hsame (v : Json) : (values.insert other v).get? name = values.get? name :=
        Keyed.get?_insert_of_ne _ _ _ _ (Ne.symm hne)
      rw [ih hrest ha]
      cases (values.get? other).filter (!·.isNull) with
      | some v => simp only [hsame]
      | none => cases traits.default <;> simp only [hsame]

theorem Json.sorted_of_isScalar {v : Json} (h : v.isScalar = true) : v.Sorted := by
  cases v with
  | array => cases h
  | object => cases h
  | _ => trivial

theorem Json.Sorted.mapObjects {f : Keyed Json → Keyed Json}
    (hf : ∀ m, Keyed.Ordered m ∧ SortedMembers m → Keyed.Ordered (f m) ∧ SortedMembers (f m))
    {v : Json} (h : v.Sorted) : (v.mapObjects f).Sorted := by
  cases v with
  | object m => exact hf m h
  | array items =>
    have hitems : SortedItems items := h
    show SortedItems _
    induction items with
    | nil => trivial
    | cons item rest ih =>
      refine ⟨?_, ih hitems.2 hitems.2⟩
      cases item with
      | object m => exact hf m hitems.1
      | _ => exact hitems.1
  | _ => trivial

theorem Json.sorted_fillAll (attributes : List (String × Attribute))
    (hplain : plainAll attributes = true) (m : Keyed Json) (hordered : Keyed.Ordered m)
    (hsorted : SortedMembers m) :
    Keyed.Ordered (fillAll attributes m) ∧ SortedMembers (fillAll attributes m) := by
  refine fillAll_keeps (D := fun attributes => plainAll attributes = true)
    (Q := fun m => Keyed.Ordered m ∧ SortedMembers m) (R := Json.Sorted) ?_ ?_ ?_ ?_ attributes hplain m
    ⟨hordered, hsorted⟩
  · intro attributes hplain entry hentry
    obtain ⟨hscalar, htype⟩ := plain_of_mem hplain hentry
    refine ⟨fun d hd => ?_, fun inner => plainAll_of_blocks? htype⟩
    rw [hd] at hscalar
    exact Json.sorted_of_isScalar hscalar
  · intro m key v hm hv
    exact hm.2.of_get? hv
  · intro m key v hm hv
    exact ⟨hm.1.insert key v, hm.2.insert key hv⟩
  · intro f hf v hv
    exact hv.mapObjects hf

/-! ## Values without errors -/

/-- Every attribute that has to be given is given, and the values that are given have no errors. -/
def Valid (attributes : Keyed Attribute) (members : Keyed Json) : Prop :=
  ∀ name a, attributes.get? name = some a →
    match setValue? name members with
    | none => a.traits.required = false
    | some v => ∃ path, a.type.errors a.traits v path = []

/-- An attribute that is set may be set and its value has no errors; one that is not need not be. -/
theorem attribute_of_attributeErrors {path : String}
    (h : attributeErrors attributes members path = []) (ha : Keyed.get? name attributes = some a) :
    match setValue? name members with
    | none => a.traits.required = false
    | some v => a.traits.settable = true ∧ ∃ path, a.type.errors a.traits v path = [] := by
  have hmem := mem_of_get? ha
  clear ha
  induction attributes with
  | nil => cases hmem
  | cons entry rest ih =>
    obtain ⟨other, type, traits⟩ := entry
    rw [attributeErrors, List.append_eq_nil_iff] at h
    rcases List.mem_cons.mp hmem with heq | hmem
    · obtain ⟨rfl, rfl⟩ := Prod.mk.inj heq
      have hhead := h.1
      cases hvalue : setValue? name members with
      | none => simpa [hvalue] using hhead
      | some v =>
        rw [hvalue] at hhead
        dsimp only at hhead ⊢
        split at hhead
        · next hsettable => exact ⟨hsettable, _, (List.append_eq_nil_iff.mp hhead).2⟩
        · cases hhead
    · exact ih h.2 hmem

theorem valid_of_attributeErrors {path : String} (h : attributeErrors attributes members path = []) :
    Valid attributes members := by
  intro name a ha
  have hattribute := attribute_of_attributeErrors h ha
  cases hvalue : setValue? name members with
  | none =>
    rw [hvalue] at hattribute
    exact hattribute
  | some v =>
    rw [hvalue] at hattribute
    exact hattribute.2

/-- No key is there that is no attribute, except for `id` at the top. -/
theorem get?_of_unsupported {path key : String} (h : unsupported attributes path members = [])
    (hfree : ¬ (key = "id" ∧ path = "")) (hkey : key ∉ Keyed.keys attributes) :
    members.get? key = none := by
  refine Keyed.get?_of_not_mem fun hmem => ?_
  exact (unsupported_eq_nil_iff.mp h key hmem).elim hfree hkey

/-! ## Planned values -/

/-- The values are valid members with their defaults. -/
def Planned (attributes : Keyed Attribute) (values : Keyed Json) : Prop :=
  ∃ members, Valid attributes members ∧ (Json.object members).Sorted ∧
    values = fillAll attributes members

/-- The values of a valid configuration are planned, and the identity is none of them. -/
theorem Planned.of_validate {schema : Schema} {config : Keyed Json}
    (hid : ResourceState.idKey ∉ schema.attributes.map (·.1)) (hsorted : (Json.object config).Sorted)
    (h : schema.validate (.object config) = []) :
    Planned schema.attributes (schema.fill (config.erase ResourceState.idKey)) := by
  obtain ⟨-, herrors⟩ := List.append_eq_nil_iff.mp h
  refine ⟨_, ?_, ⟨Keyed.Ordered.erase hsorted.1 _, hsorted.2.erase _⟩, rfl⟩
  intro name a ha
  have hne : name ≠ ResourceState.idKey := by
    rintro rfl
    exact hid (List.mem_map_of_mem (mem_of_get? ha))
  rw [setValue?, Keyed.get?_erase_of_ne _ _ _ hne]
  exact valid_of_attributeErrors herrors name a ha

/-- An attribute of planned values is unset, has its default, or has a value without errors. -/
theorem Planned.cases {values : Keyed Json} (h : Planned attributes values)
    (hplain : plainAll attributes = true) (ha : Keyed.get? name attributes = some a) :
    ((values.get? name).filter (!·.isNull) = none ∧ a.traits.required = false ∧
        a.traits.default = none) ∨
      (∃ d, values.get? name = some d ∧ a.traits.default = some d) ∨
      ∃ v path, values.get? name = some (a.type.fill v) ∧ v.isNull = false ∧ v.Sorted ∧
        a.type.errors a.traits v path = [] := by
  obtain ⟨members, hvalid, hsorted, rfl⟩ := h
  have hattribute := hvalid name a ha
  rw [setValue?] at hattribute
  rw [get?_fillAll_of_get? hplain ha]
  cases hvalue : (members.get? name).filter (!·.isNull) with
  | some v =>
    rw [hvalue] at hattribute
    obtain ⟨path, herrors⟩ := hattribute
    obtain ⟨hget, hnull⟩ := Option.filter_eq_some_iff.mp hvalue
    exact .inr (.inr ⟨v, path, rfl, by simpa using hnull, hsorted.2.of_get? hget, herrors⟩)
  | none =>
    rw [hvalue] at hattribute
    cases hdefault : a.traits.default with
    | some d => exact .inr (.inl ⟨d, rfl, rfl⟩)
    | none => exact .inl ⟨hvalue, hattribute, rfl⟩

/-! ## Scalars -/

theorem eq_string_of_errors {t : Traits} {v : Json} {path : String}
    (h : AttrType.string.errors t v path = []) : ∃ s, v = .string s := by
  cases v <;> simp_all [AttrType.errors, AttrType.admits]

theorem eq_int_of_errors {t : Traits} {v : Json} {path : String}
    (h : AttrType.int.errors t v path = []) : ∃ n, v = .number (.int n) := by
  cases v with
  | number n => cases n <;> simp_all [AttrType.errors, AttrType.admits]
  | _ => simp_all [AttrType.errors, AttrType.admits]

theorem eq_bool_of_errors {t : Traits} {v : Json} {path : String}
    (h : AttrType.bool.errors t v path = []) : ∃ b, v = .bool b := by
  cases v <;> simp_all [AttrType.errors, AttrType.admits]

/-! ## Collections -/

theorem eq_strings_of_errors {t : Traits} {v : Json} {path : String}
    (h : (AttrType.set .string).errors t v path = []) : ∃ texts, v = .strings texts := by
  cases v with
  | array items =>
    rw [AttrType.errors, List.append_eq_nil_iff] at h
    have hitems := error_free_of_atItems h.2
    clear h
    induction items with
    | nil => exact ⟨[], rfl⟩
    | cons item rest ih =>
      obtain ⟨i, hi⟩ := hitems item (List.mem_cons_self ..)
      obtain ⟨s, rfl⟩ := eq_string_of_errors hi
      obtain ⟨texts, htexts⟩ := ih fun w hw => hitems w (List.mem_cons_of_mem _ hw)
      exact ⟨s :: texts, by simp_all [Json.strings]⟩
  | _ => simp [AttrType.errors, AttrType.admits] at h

/-! ## Blocks -/

/-- The members are those of a valid block with its defaults. -/
structure PlannedBlock (attributes : Keyed Attribute) (members : Keyed Json) : Prop where
  planned : Planned attributes members
  ordered : Keyed.Ordered members
  known : ∀ key, key ∉ Keyed.keys attributes → members.get? key = none

theorem blocks_of_error_free {t : Traits} {path : String} {items : List Json}
    (hplain : plainAll attributes = true) (hsorted : Json.SortedItems items)
    (herrors : ∀ item ∈ items,
      ∃ i, (AttrType.object attributes).errors t item (itemPath path i) = []) :
    ∃ blocks : List (Keyed Json),
      (items.map fun
        | .object members => .object (fillAll attributes members)
        | v => v) = blocks.map Json.object ∧
      blocks.length = items.length ∧ ∀ block ∈ blocks, PlannedBlock attributes block := by
  induction items with
  | nil => exact ⟨[], rfl, rfl, by simp⟩
  | cons item rest ih =>
    obtain ⟨i, hi⟩ := herrors item (List.mem_cons_self ..)
    obtain ⟨blocks, hrest, hlength, hall⟩ :=
      ih hsorted.2 fun w hw => herrors w (List.mem_cons_of_mem _ hw)
    cases item with
    | object members =>
      rw [AttrType.errors, List.append_eq_nil_iff] at hi
      obtain ⟨hunsupported, hattributes⟩ := hi
      have hmembers : (Json.object members).Sorted := hsorted.1
      refine ⟨fillAll attributes members :: blocks, by rw [List.map_cons, hrest]; rfl,
        by rw [List.length_cons, List.length_cons, hlength], ?_⟩
      refine List.forall_mem_cons.mpr ⟨⟨⟨members, valid_of_attributeErrors hattributes,
        hmembers, rfl⟩, ?_, ?_⟩, hall⟩
      · exact (Json.sorted_fillAll attributes hplain members hmembers.1 hmembers.2).1
      · intro key hkey
        rw [get?_fillAll hkey]
        exact get?_of_unsupported hunsupported (fun hid => itemPath_ne path i hid.2) hkey
    | _ => simp [AttrType.errors, AttrType.admits] at hi

theorem blocks_of_errors {t : Traits} {v : Json} {path : String}
    (hplain : plainAll attributes = true) (hv : v.Sorted)
    (h : (AttrType.list (.object attributes)).errors t v path = []) :
    ∃ blocks : List (Keyed Json),
      (AttrType.list (.object attributes)).fill v = .array (blocks.map .object) ∧
      (∀ most, t.maxItems = some most → blocks.length ≤ most.toNat) ∧
      ∀ block ∈ blocks, PlannedBlock attributes block := by
  cases v with
  | array items =>
    obtain ⟨hcount, hitems⟩ := List.append_eq_nil_iff.mp h
    obtain ⟨blocks, hblocks, hlength, hall⟩ :=
      blocks_of_error_free hplain hv (error_free_of_atItems hitems)
    refine ⟨blocks, congrArg Json.array hblocks, fun most hm => ?_, hall⟩
    rw [hlength]
    exact (itemCount_eq_nil_iff.mp hcount).2 _ hm
  | _ => simp [AttrType.errors, AttrType.admits] at h

/-- The attributes of the blocks of a type. -/
def AttrType.blockAttributes : AttrType → List (String × Attribute)
  | .object attributes => attributes
  | _ => []

theorem PlannedBlock.normalize_eq {block members : Keyed Json} (h : PlannedBlock attributes block)
    (hordered : Keyed.Ordered members)
    (hknown : ∀ key, key ∉ Keyed.keys attributes → members.get? key = none)
    (hsame : ∀ key ∈ Keyed.keys attributes,
      (block.get? key).bind normalize = (members.get? key).bind normalize) :
    normalize (.object block) = normalize (.object members) := by
  refine normalize_object_congr h.ordered hordered fun key => ?_
  by_cases hkey : key ∈ Keyed.keys attributes
  · exact hsame key hkey
  · rw [h.known key hkey, hknown key hkey]

/-! ## Attributes of a kind -/

theorem plain_of_get? (hplain : plainAll attributes = true)
    (ha : Keyed.get? name attributes = some a) : a.type.plain = true :=
  (plain_of_mem hplain (mem_of_get? ha)).2

namespace Planned

/-- The attribute is unset, and need not be set. -/
def Unset (a : Attribute) (v : Option Json) : Prop :=
  v.filter (!·.isNull) = none ∧ a.traits.required = false ∧ a.traits.default = none

variable {values : Keyed Json}

/-- An attribute of planned values is unset or has a value of the kind that defaults and values without
errors have. -/
theorem value {P : Json → Prop} (h : Planned attributes values) (hplain : plainAll attributes = true)
    (ha : Keyed.get? name attributes = some a) (hdefault : ∀ d, a.traits.default = some d → P d)
    (hset : ∀ v path, v.Sorted → a.type.errors a.traits v path = [] → P (a.type.fill v)) :
    Unset a (values.get? name) ∨ ∃ v, values.get? name = some v ∧ P v := by
  rcases h.cases hplain ha with hunset | ⟨d, hd, hd'⟩ | ⟨v, path, hv, -, hsorted, herrors⟩
  · exact .inl hunset
  · exact .inr ⟨d, hd, hdefault d hd'⟩
  · exact .inr ⟨_, hv, hset v path hsorted herrors⟩

theorem text (h : Planned attributes values) (hplain : plainAll attributes = true)
    (ha : Keyed.get? name attributes = some a) (htype : a.type = .string)
    (hdefault : a.traits.default = none) :
    Unset a (values.get? name) ∨ ∃ s, values.get? name = some (.string s) := by
  rcases h.value (P := fun v => ∃ s, v = .string s) hplain ha (by simp [hdefault]) fun v path _ hv => by
    rw [htype] at hv ⊢
    exact eq_string_of_errors hv with hunset | ⟨v, hv, s, rfl⟩
  · exact .inl hunset
  · exact .inr ⟨s, hv⟩

theorem int (h : Planned attributes values) (hplain : plainAll attributes = true)
    (ha : Keyed.get? name attributes = some a) (htype : a.type = .int)
    (hdefault : ∀ d, a.traits.default = some d → ∃ n, d = .number (.int n)) :
    Unset a (values.get? name) ∨ ∃ n, values.get? name = some (.number (.int n)) := by
  rcases h.value (P := fun v => ∃ n, v = .number (.int n)) hplain ha hdefault fun v path _ hv => by
    rw [htype] at hv ⊢
    exact eq_int_of_errors hv with hunset | ⟨v, hv, n, rfl⟩
  · exact .inl hunset
  · exact .inr ⟨n, hv⟩

theorem bool (h : Planned attributes values) (hplain : plainAll attributes = true)
    (ha : Keyed.get? name attributes = some a) (htype : a.type = .bool)
    (hdefault : ∀ d, a.traits.default = some d → ∃ b, d = .bool b) :
    Unset a (values.get? name) ∨ ∃ b, values.get? name = some (.bool b) := by
  rcases h.value (P := fun v => ∃ b, v = .bool b) hplain ha hdefault fun v path _ hv => by
    rw [htype] at hv ⊢
    exact eq_bool_of_errors hv with hunset | ⟨v, hv, b, rfl⟩
  · exact .inl hunset
  · exact .inr ⟨b, hv⟩

theorem texts (h : Planned attributes values) (hplain : plainAll attributes = true)
    (ha : Keyed.get? name attributes = some a) (htype : a.type = .set .string)
    (hdefault : a.traits.default = none) :
    Unset a (values.get? name) ∨ ∃ texts, values.get? name = some (.strings texts) := by
  rcases h.value (P := fun v => ∃ texts, v = .strings texts) hplain ha (by simp [hdefault])
    fun v path _ hv => by
      rw [htype] at hv ⊢
      exact eq_strings_of_errors hv with hunset | ⟨v, hv, texts, rfl⟩
  · exact .inl hunset
  · exact .inr ⟨texts, hv⟩

theorem blocks {inner : List (String × Attribute)} (h : Planned attributes values)
    (hplain : plainAll attributes = true) (ha : Keyed.get? name attributes = some a)
    (htype : a.type = .list (.object inner)) (hdefault : a.traits.default = none) :
    Unset a (values.get? name) ∨ ∃ blocks : List (Keyed Json),
      values.get? name = some (.array (blocks.map .object)) ∧
        (∀ most, a.traits.maxItems = some most → blocks.length ≤ most.toNat) ∧
        ∀ block ∈ blocks, PlannedBlock inner block := by
  have hinner : plainAll inner = true := by
    have htypePlain := plain_of_get? hplain ha
    rwa [htype] at htypePlain
  rcases h.value (P := fun v => ∃ blocks : List (Keyed Json), v = .array (blocks.map .object) ∧
      (∀ most, a.traits.maxItems = some most → blocks.length ≤ most.toNat) ∧
      ∀ block ∈ blocks, PlannedBlock inner block) hplain ha (by simp [hdefault])
    fun v path hsorted hv => by
      rw [htype] at hv ⊢
      exact blocks_of_errors hinner hsorted hv with hunset | ⟨v, hv, blocks, rfl, hall⟩
  · exact .inl hunset
  · exact .inr ⟨blocks, hv, hall⟩

end Planned

end CloudProvider
