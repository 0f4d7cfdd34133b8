import CloudProvider.Proofs.Schema.Conforming
import CloudProvider.Proofs.Schema.Filling
import CloudProvider.Provider
import CloudProvider.Resource.Type

/-!
# Configurations stay valid when their defaults are filled in

A default that may be given and obeys the rules of its attribute does no harm, unless an attribute
excludes it, or sets become equal in two elements that it tells apart.

* `AttrType.defaultsObey`, `defaultsObey`: no default does harm, at every level.
* `AttrType.Conforms.fill`, `conforms_fillAll`: values and members that conform do so when filled.
* `Schema.validate_fill`: for a schema without such defaults.
* `validate_fill_shipped`: for the settings of the provider and for all resources but groups of firewall
  rules.
-/

namespace CloudProvider
set_option autoImplicit false

/-! ## Defaults that do no harm -/

/-- The names of the attributes that have a default. -/
def defaulted (attributes : List (String × Attribute)) : List String :=
  (attributes.filter (·.2.traits.default.isSome)).map (·.1)

/-- A default may be given, has no parts, obeys the rules, and excludes no other attribute. -/
def Attribute.defaultObeys (a : Attribute) : Bool :=
  a.traits.default.all fun d => a.traits.settable && a.traits.conflictsWith.isEmpty &&
    a.type.isScalar && a.type.admits d && a.traits.validations.all fun rule => (rule.check d).isNone

mutual

/-- No default inside the values of a type does harm. No set has objects, which could become equal. -/
def AttrType.defaultsObey : AttrType → Bool
  | .object attributes => CloudProvider.defaultsObey (defaulted attributes) attributes
  | .list (.object attributes) => CloudProvider.defaultsObey (defaulted attributes) attributes
  | .set (.object _) => false
  | _ => true

/-- Every default obeys the rules, and none of the names is excluded. -/
def defaultsObey (names : List String) : List (String × Attribute) → Bool
  | [] => true
  | (_, ⟨type, traits⟩) :: rest =>
    Attribute.defaultObeys ⟨type, traits⟩ && traits.conflictsWith.all (!names.contains ·) &&
      type.defaultsObey && defaultsObey names rest

end

variable {attributes : List (String × Attribute)} {members : Keyed Json} {name : String} {a : Attribute}

theorem defaultsObey_of_mem {names : List String} {entry : String × Attribute}
    (h : defaultsObey names attributes = true) (hentry : entry ∈ attributes) :
    entry.2.defaultObeys = true ∧ (∀ other ∈ entry.2.traits.conflictsWith, other ∉ names) ∧
      entry.2.type.defaultsObey = true := by
  induction attributes with
  | nil => cases hentry
  | cons head rest ih =>
    obtain ⟨name, type, traits⟩ := head
    simp only [defaultsObey, Bool.and_eq_true] at h
    obtain ⟨⟨⟨hdefault, halone⟩, htype⟩, hrest⟩ := h
    rcases List.mem_cons.mp hentry with rfl | hmem
    · exact ⟨hdefault, by simpa using halone, htype⟩
    · exact ih hrest hmem

theorem mem_defaulted {d : Json} (ha : Keyed.get? name attributes = some a)
    (hd : a.traits.default = some d) : name ∈ defaulted attributes := by
  have hsome : a.traits.default.isSome = true := by rw [hd]; rfl
  exact List.mem_map.mpr ⟨(name, a), List.mem_filter.mpr ⟨mem_of_get? ha, hsome⟩, rfl⟩

theorem isUnset_fillAll (hplain : plainAll attributes = true) (hname : name ∉ defaulted attributes)
    (h : IsUnset name members) : IsUnset name (fillAll attributes members) := by
  rw [← setValue?_eq_none_iff] at h ⊢
  cases ha : Keyed.get? name attributes with
  | none =>
    have hkey : name ∉ attributes.map (·.1) := by
      intro hmem
      obtain ⟨a, hsome⟩ := Keyed.mem_keys_iff.mp hmem
      rw [hsome] at ha
      cases ha
    rw [setValue?, get?_fillAll hkey]
    exact h
  | some a =>
    rw [setValue?_fillAll hplain ha, h]
    cases hd : a.traits.default with
    | none => rfl
    | some d => exact absurd (mem_defaulted ha hd) hname

theorem Attribute.conforms_default {d : Json} (h : a.defaultObeys = true)
    (hd : a.traits.default = some d) (hset : setValue? name members = some d) :
    a.Conforms name members := by
  rw [defaultObeys, hd] at h
  simp only [Option.all_some, Bool.and_eq_true, List.isEmpty_iff, List.all_eq_true,
    Option.isNone_iff_eq_none] at h
  obtain ⟨⟨⟨⟨hsettable, hexcludes⟩, hscalar⟩, hadmits⟩, hobeys⟩ := h
  rw [conforms_iff_of_set hset, hexcludes]
  refine ⟨hsettable, by simp, (AttrType.conforms_iff_of_isScalar hscalar).mpr ⟨hadmits, hobeys⟩, ?_⟩
  rintro items rfl
  cases htype : a.type <;> simp_all [AttrType.isScalar, AttrType.admits]

/-! ## Values -/

theorem AttrType.length_of_fill_array {t : AttrType} {v : Json} {items : List Json}
    (h : t.fill v = .array items) : ∃ items', v = .array items' ∧ items'.length = items.length := by
  rw [fill_eq] at h
  cases hinner : t.blocks? with
  | none =>
    rw [hinner] at h
    exact ⟨items, h, rfl⟩
  | some inner =>
    rw [hinner] at h
    cases v with
    | array items' =>
      obtain rfl := Json.array.inj h
      exact ⟨items', rfl, by simp⟩
    | _ => cases h

/-- Filled members of an object conform to the attributes as the members do. -/
def FillConforms (attributes : List (String × Attribute)) : Prop :=
  ∀ members, (∀ entry ∈ attributes, Attribute.Conforms entry.1 entry.2 members) →
    ∀ entry ∈ attributes, Attribute.Conforms entry.1 entry.2 (fillAll attributes members)

theorem keys_of_fillAll {key : String} (h : key ∈ Keyed.keys (fillAll attributes members)) :
    key ∈ Keyed.keys members ∨ key ∈ Keyed.keys attributes := by
  by_cases hkey : key ∈ attributes.map (·.1)
  · exact .inr hkey
  · rw [Keyed.mem_keys_iff, get?_fillAll hkey, ← Keyed.mem_keys_iff] at h
    exact .inl h

theorem AttrType.conforms_fill_object {rules : List Validation} (hfill : FillConforms attributes)
    (h : (AttrType.object attributes).Conforms rules (.object members)) :
    (AttrType.object attributes).Conforms rules (.object (fillAll attributes members)) := by
  rw [conforms_object_iff] at h ⊢
  obtain ⟨hknown, heach⟩ := h
  refine ⟨fun key hkey => ?_, hfill members heach⟩
  exact (keys_of_fillAll hkey).elim (hknown key) id

theorem AttrType.Conforms.fill {t : AttrType} {rules : List Validation} {v : Json}
    (hobey : t.defaultsObey = true) (hfill : ∀ inner, t.blocks? = some inner → FillConforms inner)
    (h : t.Conforms rules v) : t.Conforms rules (t.fill v) := by
  cases hinner : t.blocks? with
  | none =>
    rw [fill_eq, hinner]
    exact h
  | some inner =>
    have hblocks := hfill inner hinner
    unfold blocks? at hinner
    split at hinner
    · obtain rfl := Option.some.inj hinner
      cases h with
      | object known each => exact conforms_fill_object hblocks (.object known each)
    · obtain rfl := Option.some.inj hinner
      cases h with
      | list each =>
        apply Conforms.list
        intro item hitem
        obtain ⟨item', hitem', rfl⟩ := List.mem_map.mp hitem
        have hconforms := each item' hitem'
        cases hconforms with
        | object known each => exact conforms_fill_object hblocks (.object known each)
    · cases hobey
    · cases hinner

/-! ## Members -/

theorem conforms_fillAll (attributes : List (String × Attribute)) : plainAll attributes = true →
    defaultsObey (defaulted attributes) attributes = true → FillConforms attributes := by
  induction attributes using blocks_induction with
  | h attributes ih =>
    intro hplain hobey members hmembers entry hentry
    have hget := get?_of_mem hplain hentry
    have hconforms := hmembers entry hentry
    obtain ⟨hdefault, halone, htype⟩ := defaultsObey_of_mem hobey hentry
    have hfilled := setValue?_fillAll hplain hget members
    cases hvalue : setValue? entry.1 members with
    | some v =>
      rw [hvalue] at hfilled
      rw [Attribute.conforms_iff_of_set hvalue] at hconforms
      obtain ⟨hsettable, hexcludes, hv, hcount⟩ := hconforms
      rw [Attribute.conforms_iff_of_set hfilled]
      refine ⟨hsettable, fun other hother => ?_, ?_, fun items hitems => ?_⟩
      · exact isUnset_fillAll hplain (halone other hother) (hexcludes other hother)
      · apply hv.fill htype
        intro inner hinner
        have hinnerPlain := plainAll_of_blocks? (plain_of_mem hplain hentry).2 hinner
        apply ih entry hentry inner hinner hinnerPlain
        unfold AttrType.blocks? at hinner
        split at hinner <;> cases hinner <;> simp_all [AttrType.defaultsObey]
      · obtain ⟨items', hv', hlength⟩ := AttrType.length_of_fill_array hitems
        exact hlength ▸ hcount items' hv'
    | none =>
      rw [hvalue] at hfilled
      cases hd : entry.2.traits.default with
      | some d =>
        rw [hd] at hfilled
        exact Attribute.conforms_default hdefault hd hfilled
      | none =>
        rw [hd] at hfilled
        rw [Attribute.conforms_iff_of_unset hvalue] at hconforms
        exact (Attribute.conforms_iff_of_unset hfilled).mpr hconforms

/-! ## Schemas -/

/-- Names are different and not empty, and no default does harm. -/
def Schema.fillable (s : Schema) : Bool :=
  plainAll s.attributes && !(Keyed.keys s.attributes).contains "" &&
    defaultsObey (defaulted s.attributes) s.attributes

theorem Schema.validate_fill {s : Schema} (hs : s.fillable = true) {config : Keyed Json}
    (h : s.validate (.object config) = []) : s.validate (.object (s.fill config)) = [] := by
  simp only [fillable, Bool.and_eq_true, Bool.not_eq_true', List.contains_eq_mem,
    decide_eq_false_iff_not] at hs
  obtain ⟨⟨hplain, hnames⟩, hobey⟩ := hs
  rw [validate_object_eq_nil_iff s _ hnames] at h ⊢
  constructor
  · intro key hkey
    rcases keys_of_fillAll hkey with hkey | hkey
    · exact h.known key hkey
    · exact .inr hkey
  · exact conforms_fillAll _ hplain hobey config h.each

theorem Provider.fillable : Provider.schema.fillable = true := by decide +kernel

theorem ResourceType.fillable (t : ResourceType) (ht : t ≠ .firewallGroup) :
    t.resource.schema.fillable = true := by
  cases t with
  | firewallGroup => exact absurd rfl ht
  | _ => decide +kernel

/-- Valid settings of the provider stay valid when their defaults are filled in, and so do valid
configurations of every resource but groups of firewall rules. -/
theorem validate_fill_shipped {s : Schema}
    (hs : s = Provider.schema ∨ ∃ t : ResourceType, t ≠ .firewallGroup ∧ s = t.resource.schema)
    (config : Keyed Json) (h : s.validate (.object config) = []) :
    s.validate (.object (s.fill config)) = [] := by
  apply Schema.validate_fill _ h
  rcases hs with rfl | ⟨t, ht, rfl⟩
  · exact Provider.fillable
  · exact t.fillable ht

theorem validate_fill_shipped_balancer :
    let target := .object [("ip", .string "10.0.0.1"), ("port", .int64 8080)]
    let rule := .object [("listener_port", .int64 80), ("name", .string "web"), ("target", .array [target])]
    let config := [("forwarding_rule", .array [rule]), ("name", .string "front")]
    let schema := ResourceType.loadBalancer.resource.schema
    schema.validate (.object config) = [] ∧ schema.validate (.object (schema.fill config)) = [] := by
  have hvalid : ResourceType.loadBalancer.resource.schema.validate (.object
      [("forwarding_rule", .array [.object [("listener_port", .int64 80), ("name", .string "web"),
        ("target", .array [.object [("ip", .string "10.0.0.1"), ("port", .int64 8080)]])]]),
        ("name", .string "front")]) = [] := by decide +kernel
  exact ⟨hvalid, validate_fill_shipped (.inr ⟨.loadBalancer, by decide, rfl⟩) _ hvalid⟩

/-- Two rules that differ in nothing but a default that one of them spells out. -/
def spelledOut : Keyed Json :=
  let rule := [("protocol", .string "ICMP"), ("subnet", .string "10.0.0.0"), ("subnet_size", .int64 8)]
  [("rule", .array [.object rule, .object (("ip_type", .string "IPV4") :: rule)])]

-- For groups of firewall rules it is not so.
example : FirewallGroup.schema.validate (.object spelledOut) = [] ∧
    FirewallGroup.schema.validate (.object (FirewallGroup.schema.fill spelledOut)) ≠ [] := by
  decide +kernel

end CloudProvider
