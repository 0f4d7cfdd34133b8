import CloudProvider.Proofs.Keyed
import CloudProvider.Schema.Validate

/-!
# Single checks of validation

What each check finds, as a condition on the value alone.

* `IsUnset`: a member that is not there or is null.
* `Traits.Allows`: the numbers of items that an attribute may have.
* `rangeText`, `check_intBetween_eq`, `check_oneOf_eq`, …: what each rule says about a value.
* `unsupported_eq_nil_iff`, `conflicts_eq_nil_iff`, `ruleErrors_eq_nil_iff`: keys, other attributes, rules.
* `itemCount_eq_nil_iff`, `repeatedItems_eq_nil_iff`, `atItems_eq_nil_iff`: items.
-/

namespace CloudProvider
set_option autoImplicit false

/-- The member is not there, or is null. -/
def IsUnset (name : String) (members : Keyed Json) : Prop :=
  ∀ v, members.get? name = some v → v = .null

/-- The attribute may have this many items. -/
def Traits.Allows (t : Traits) (count : Nat) : Prop :=
  (∀ least, t.minItems = some least → least.toNat ≤ count) ∧
    ∀ most, t.maxItems = some most → count ≤ most.toNat

variable {t : Traits} {v : Json} {path name : String} {members : Keyed Json}
  {attributes : List (String × Attribute)}

/-! ## Members that are set -/

theorem isNull_eq_true_iff : v.isNull = true ↔ v = .null := by
  cases v <;> simp [Json.isNull]

theorem setValue?_eq_some_iff :
    setValue? name members = some v ↔ members.get? name = some v ∧ v ≠ .null := by
  rw [setValue?, Option.filter_eq_some_iff, Bool.not_eq_true', ← Bool.not_eq_true, isNull_eq_true_iff]

theorem setValue?_eq_none_iff : setValue? name members = none ↔ IsUnset name members := by
  rw [setValue?, Option.filter_eq_none_iff]
  refine forall₂_congr fun v _ => ?_
  rw [Bool.not_eq_true', Bool.not_eq_false, isNull_eq_true_iff]

/-! ## Keys, other attributes and rules -/

theorem unsupported_eq_nil_iff : unsupported attributes path members = [] ↔
    ∀ key ∈ Keyed.keys members, (key = "id" ∧ path = "") ∨ key ∈ Keyed.keys attributes := by
  rw [unsupported, List.map_eq_nil_iff, List.filter_eq_nil_iff]
  refine forall₂_congr fun key _ => ?_
  rw [← Keyed.contains_iff]
  cases Keyed.contains key attributes <;> simp

theorem conflicts_eq_nil_iff {owner : String} : conflicts t path owner members = [] ↔
    ∀ other ∈ t.conflictsWith, IsUnset other members := by
  rw [conflicts, List.map_eq_nil_iff, List.filter_eq_nil_iff]
  refine forall₂_congr fun other _ => ?_
  rw [Option.not_isSome_iff_eq_none, setValue?_eq_none_iff]

theorem ruleErrors_eq_nil_iff :
    ruleErrors t path v = [] ↔ ∀ rule ∈ t.validations, rule.check v = none := by
  rw [ruleErrors, List.map_eq_nil_iff, List.filterMap_eq_nil_iff]

/-! ## What the rules say -/

/-- What is said of a number that is out of range. -/
def rangeText (least most : Int64) (n : Int) : String :=
  s!"must be between {least} and {most}, got {n}"

theorem check_intBetween_eq (least most : Int64) (v : Json) :
    (Validation.intBetween least most).check v = v.asInt64?.bind fun k =>
      if least.toInt ≤ k.toInt ∧ k.toInt ≤ most.toInt then none
      else some (rangeText least most k.toInt) := by
  have hcheck : (Validation.intBetween least most).check v = v.asInt64?.bind fun k =>
      if least ≤ k && k ≤ most then none else some (rangeText least most k.toInt) := rfl
  rw [hcheck]
  congr
  funext k
  simp only [Int64.le_iff_toInt_le, Bool.and_eq_true, decide_eq_true_eq]

theorem check_oneOf_eq (values : List String) (s : String) :
    (Validation.oneOf values).check (.string s) =
      if values.contains s then none
      else some ("expected one of [" ++ String.intercalate ", " values ++ "], got " ++ Text.quote s) :=
  rfl

theorem check_stringLength_eq (least most : UInt64) (s : String) :
    (Validation.stringLength least most).check (.string s) =
      if least.toNat ≤ s.length && s.length ≤ most.toNat then none
      else some s!"length must be between {least} and {most}, got {s.length}" :=
  rfl

theorem check_cidr_eq (s : String) : Validation.cidr.check (.string s) = Validation.checkBlock s :=
  rfl

theorem check_ipAddress_eq (s : String) : Validation.ipAddress.check (.string s) =
    if (Address.parse? s).isSome then none else some (Text.quote s ++ " is not a valid IP address") :=
  rfl

theorem check_pattern_eq (pattern s : String) :
    (Validation.pattern pattern).check (.string s) = Validation.checkPattern pattern s :=
  rfl

/-! ## Paths -/

theorem dotted_ne (path name : String) : path ++ "." ++ name ≠ "" := by
  intro h
  have hlength := congrArg String.length h
  simp at hlength

theorem joinPath_ne {path : String} (h : path ≠ "") (name : String) : joinPath path name ≠ "" := by
  rw [joinPath, if_neg h]
  exact dotted_ne path name

theorem itemPath_ne (path : String) (i : Nat) : itemPath path i ≠ "" := by
  intro h
  have hlength := congrArg String.length h
  simp [itemPath] at hlength

/-! ## Items -/

theorem itemCount_eq_nil_iff {count : Nat} : itemCount t path count = [] ↔ t.Allows count := by
  rw [itemCount, List.append_eq_nil_iff, Traits.Allows]
  refine and_congr ?_ ?_
  · cases t.minItems <;> simp
  · cases t.maxItems <;> simp

theorem Traits.allows_ofElement (t : Traits) (count : Nat) : t.ofElement.Allows count := by
  simp [Traits.Allows, Traits.ofElement]

theorem error_free_of_atItems {check : Json → String → Diagnostics} {path : String}
    {items : List Json} (h : atItems check path items = []) :
    ∀ v ∈ items, ∃ i, check v (itemPath path i) = [] := by
  intro v hv
  obtain ⟨i, hi, rfl⟩ := List.mem_iff_getElem.mp hv
  refine ⟨i, ?_⟩
  rw [atItems, List.flatMap_eq_nil_iff] at h
  exact h (items[i], i) (List.mem_zipIdx_iff_getElem?.mpr (by simp))

/-- Items without errors, if what is wrong with an item does not depend on its number. -/
theorem atItems_eq_nil_iff {check : Json → String → Diagnostics} {items : List Json} {P : Json → Prop}
    (h : ∀ item ∈ items, ∀ i, check item (itemPath path i) = [] ↔ P item) :
    atItems check path items = [] ↔ ∀ item ∈ items, P item := by
  constructor
  · intro hnil item hitem
    obtain ⟨i, hi⟩ := error_free_of_atItems hnil item hitem
    exact (h item hitem i).mp hi
  · intro hall
    refine List.flatMap_eq_nil_iff.mpr fun ⟨item, i⟩ hmem => ?_
    have hitem := List.fst_mem_of_mem_zipIdx hmem
    exact (h item hitem i).mpr (hall item hitem)

theorem repeatedItems_eq_nil_iff {path : String} {before items : List Json} {i : Nat} :
    repeatedItems path before i items = [] ↔
      items.Pairwise (fun v w => v.same w = false) ∧ ∀ v ∈ before, ∀ w ∈ items, v.same w = false := by
  induction items generalizing before i with
  | nil => simp [repeatedItems]
  | cons item rest ih =>
    have hitem : (if before.any (·.same item) then
        [Diagnostic.errorAt (itemPath path i) "duplicate set element"] else []) = [] ↔
        ∀ v ∈ before, v.same item = false := by
      cases hany : before.any (·.same item) with
      | true =>
        obtain ⟨v, hv, hsame⟩ := List.any_eq_true.mp hany
        simpa using ⟨v, hv, hsame⟩
      | false => simpa using hany
    rw [repeatedItems, List.append_eq_nil_iff, hitem, ih, List.pairwise_cons]
    constructor
    · rintro ⟨hbefore, hpairwise, hpassed⟩
      obtain ⟨hrest, hself⟩ := List.forall_mem_append.mp hpassed
      refine ⟨⟨hself item (List.mem_singleton.mpr rfl), hpairwise⟩, fun v hv => ?_⟩
      exact List.forall_mem_cons.mpr ⟨hbefore v hv, hrest v hv⟩
    · rintro ⟨⟨hself, hpairwise⟩, hbefore⟩
      refine ⟨fun v hv => hbefore v hv item (List.mem_cons_self ..), hpairwise, ?_⟩
      refine List.forall_mem_append.mpr ⟨fun v hv w hw => ?_, fun v hv => ?_⟩
      · exact hbefore v hv w (List.mem_cons_of_mem _ hw)
      · exact List.mem_singleton.mp hv ▸ hself

end CloudProvider
