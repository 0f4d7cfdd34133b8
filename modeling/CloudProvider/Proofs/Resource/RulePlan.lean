import CloudProvider.Resource.FirewallRule
import Mathlib.Data.List.Nodup
import Mathlib.Data.List.Perm.Basic

/-!
# Plans for the rules of a group

A plan compares the rules that exist with the wanted ones by what they say, and rules that say the same
count one by one. It turns the former into the latter, and a second plan finds nothing to do.

* `FirewallRule.swapRemove_perm`: the wanted rule that is matched is gone, whatever takes its place.
* `FirewallRule.surplus`: the rules that stand behind as many of their kind as are wanted.
* `FirewallRule.delete_eq`, `FirewallRule.count_create`: what a plan deletes and what it creates.
* `FirewallRule.plan_eq_nil_iff`: nothing is to be done if the rules are the wanted ones in some order.
* `FirewallRule.plan_reconciles`: the difference on both sides, and the rules afterwards.
-/

namespace CloudProvider.FirewallRule
set_option autoImplicit false

variable {r : FirewallRule} {found rest : List FirewallRule} {wanted wanted' : List Content}

/-! ## One rule at a time -/

theorem swapRemove_perm {α : Type} {items : List α} {i : Nat} (h : i < items.length) :
    (swapRemove items i).Perm (items.eraseIdx i) := by
  unfold swapRemove
  split
  · next hnone =>
    obtain rfl := List.getLast?_eq_none_iff.mp hnone
    simp
  · next last hlast =>
    obtain ⟨before, rfl⟩ := List.getLast?_eq_some_iff.mp hlast
    rw [List.length_append, List.length_singleton] at h
    rcases Nat.lt_succ_iff_lt_or_eq.mp h with hi | rfl
    · rw [List.set_append_left _ _ hi, List.dropLast_concat, List.eraseIdx_append_of_lt_length hi]
      exact (List.set_perm_cons_eraseIdx hi last).trans (List.perm_append_singleton _ _).symm
    · rw [List.set_append_right _ _ (Nat.le_refl _), List.eraseIdx_append_of_length_le (Nat.le_refl _)]
      simp

theorem plan_cons_of_mem (h : r.content ∈ wanted) (rest : List FirewallRule) :
    ∃ left, left.Perm (wanted.erase r.content) ∧ plan (r :: rest) wanted = plan rest left := by
  cases hposition : wanted.idxOf? r.content with
  | none => exact absurd h (List.idxOf?_eq_none_iff.mp hposition)
  | some position =>
    obtain ⟨hlt, -, -⟩ := List.idxOf?_eq_some_iff.mp hposition
    refine ⟨swapRemove wanted position, ?_, by rw [plan, hposition]⟩
    rw [List.erase_eq_eraseIdx, hposition]
    exact swapRemove_perm hlt

theorem plan_cons_of_not_mem (h : r.content ∉ wanted) (rest : List FirewallRule) :
    plan (r :: rest) wanted =
      ⟨r.id :: (plan rest wanted).delete, (plan rest wanted).create⟩ := by
  rw [plan, List.idxOf?_eq_none_iff.mpr h]

/-! ## What is deleted -/

/-- How many rules say this. -/
def copies (found : List FirewallRule) (c : Content) : Nat :=
  (found.map content).count c

theorem copies_eq_length (found : List FirewallRule) (c : Content) :
    copies found c = (found.filter (·.content = c)).length := by
  rw [copies, List.count, List.countP_map, List.countP_eq_length_filter]
  rfl

theorem copies_cons (r : FirewallRule) (rest : List FirewallRule) (c : Content) :
    copies (r :: rest) c = copies rest c + if r.content = c then 1 else 0 := by
  simp [copies, List.count_cons]

/-- The rules that stand behind as many of their kind as are wanted. -/
def surplus (found : List FirewallRule) (wanted : List Content) : List FirewallRule :=
  (found.zipIdx.filter fun (r, i) => wanted.count r.content ≤ copies (found.take i) r.content).map (·.1)

theorem surplus_congr (h : wanted.Perm wanted') : surplus found wanted = surplus found wanted' := by
  simp only [surplus, h.count_eq]

theorem surplus_cons (r : FirewallRule) (rest : List FirewallRule) (wanted : List Content) :
    surplus (r :: rest) wanted =
      (if r.content ∈ wanted then [] else [r]) ++ surplus rest (wanted.erase r.content) := by
  have hhead : wanted.count r.content ≤ copies ((r :: rest).take 0) r.content ↔ r.content ∉ wanted := by
    simp [copies, List.count_eq_zero]
  -- What a later rule stands behind grows by the first rule, and so does what is wanted of its kind.
  have htail (s : FirewallRule) (i : Nat) :
      wanted.count s.content ≤ copies ((r :: rest).take (i + 1)) s.content ↔
        (wanted.erase r.content).count s.content ≤ copies (rest.take i) s.content := by
    rw [List.take_succ_cons, copies_cons, List.count_erase]
    simp only [beq_iff_eq]
    exact Nat.sub_le_iff_le_add.symm
  rw [surplus, surplus, List.zipIdx_cons, List.zipIdx_succ, List.filter_cons, List.filter_map]
  simp only [Function.comp_def, hhead, htail]
  split <;> split <;> simp_all

theorem surplus_sublist (found : List FirewallRule) (wanted : List Content) :
    (surplus found wanted).Sublist found := by
  have h := (List.filter_sublist (l := found.zipIdx)
    (p := fun (r, i) => wanted.count r.content ≤ copies (found.take i) r.content)).map (·.1)
  rwa [List.zipIdx_map_fst] at h

/-- Of the rules that say one thing, those behind the wanted number are surplus. -/
theorem filter_surplus (found : List FirewallRule) (wanted : List Content) (c : Content) :
    (surplus found wanted).filter (·.content = c) =
      (found.filter (·.content = c)).drop (wanted.count c) := by
  induction found generalizing wanted with
  | nil => simp [surplus]
  | cons r rest ih =>
    rw [surplus_cons, List.filter_append, ih, List.count_erase, List.filter_cons]
    by_cases hc : r.content = c
    · subst hc
      by_cases hmem : r.content ∈ wanted
      · have hpos : 0 < wanted.count r.content := List.count_pos_iff.mpr hmem
        obtain ⟨n, hn⟩ := Nat.exists_eq_succ_of_ne_zero (Nat.ne_of_gt hpos)
        simp [hmem, hn]
      · simp [hmem, List.count_eq_zero_of_not_mem hmem]
    · by_cases hmem : r.content ∈ wanted <;> simp [hmem, hc]

theorem delete_eq (found : List FirewallRule) (wanted : List Content) :
    (plan found wanted).delete = (surplus found wanted).map id := by
  induction found generalizing wanted with
  | nil => rfl
  | cons r rest ih =>
    rw [surplus_cons]
    by_cases hmem : r.content ∈ wanted
    · obtain ⟨left, hleft, hplan⟩ := plan_cons_of_mem hmem rest
      rw [hplan, ih, if_pos hmem, List.nil_append, surplus_congr hleft]
    · rw [plan_cons_of_not_mem hmem, ih, if_neg hmem, List.erase_of_not_mem hmem]
      rfl

/-! ## What is created -/

theorem count_create (found : List FirewallRule) (wanted : List Content) (c : Content) :
    (plan found wanted).create.count c = wanted.count c - copies found c := by
  induction found generalizing wanted with
  | nil => rfl
  | cons r rest ih =>
    rw [copies_cons]
    by_cases hmem : r.content ∈ wanted
    · obtain ⟨left, hleft, hplan⟩ := plan_cons_of_mem hmem rest
      rw [hplan, ih, hleft.count_eq, List.count_erase]
      simp only [beq_iff_eq]
      omega
    · rw [plan_cons_of_not_mem hmem]
      dsimp only
      rw [ih]
      by_cases hc : r.content = c
      · subst hc
        simp [List.count_eq_zero_of_not_mem hmem]
      · simp [hc]

/-! ## Afterwards -/

theorem copies_surplus (found : List FirewallRule) (wanted : List Content) (c : Content) :
    copies (surplus found wanted) c = copies found c - wanted.count c := by
  rw [copies_eq_length, filter_surplus, List.length_drop, copies_eq_length]

/-- A plan does nothing exactly if the rules are the wanted ones, in whatever order. -/
theorem plan_eq_nil_iff : plan found wanted = ⟨[], []⟩ ↔ (found.map content).Perm wanted := by
  rw [List.perm_iff_count]
  constructor
  · intro h c
    have hcreate := count_create found wanted c
    have hdelete := delete_eq found wanted
    rw [h] at hcreate hdelete
    have hsurplus := copies_surplus found wanted c
    rw [List.map_eq_nil_iff.mp hdelete.symm] at hsurplus
    simp only [copies, List.map_nil, List.count_nil] at hcreate hsurplus
    omega
  · intro h
    have hcreate : (plan found wanted).create = [] := by
      refine List.eq_nil_iff_forall_not_mem.mpr fun c => List.count_eq_zero.mp ?_
      rw [count_create, copies, h c, Nat.sub_self]
    have hsurplus : surplus found wanted = [] := by
      refine List.map_eq_nil_iff (f := content) |>.mp ?_
      refine List.eq_nil_iff_forall_not_mem.mpr fun c => List.count_eq_zero.mp ?_
      rw [← copies, copies_surplus, copies, h c, Nat.sub_self]
    have hdelete : (plan found wanted).delete = [] := by
      rw [delete_eq, hsurplus, List.map_nil]
    rw [← hcreate, ← hdelete]

/-- The rules that a plan leaves. -/
def kept (found : List FirewallRule) (wanted : List Content) : List FirewallRule :=
  found.filter fun r => r.id ∉ (plan found wanted).delete

/-- Identities that are distinct name the surplus rules alone. -/
theorem mem_surplus_iff (hids : (found.map id).Nodup) (hr : r ∈ found) :
    r.id ∈ (plan found wanted).delete ↔ r ∈ surplus found wanted := by
  rw [delete_eq]
  refine ⟨fun h => ?_, List.mem_map_of_mem⟩
  obtain ⟨s, hs, hid⟩ := List.mem_map.mp h
  obtain rfl := List.inj_on_of_nodup_map hids ((surplus_sublist found wanted).subset hs) hr hid
  exact hs

theorem kept_append_surplus (hids : (found.map id).Nodup) :
    (kept found wanted ++ surplus found wanted).Perm found := by
  have hfound : found.Nodup := hids.of_map _
  have hsurplus : (surplus found wanted).Perm
      (found.filter fun r => !decide (r.id ∉ (plan found wanted).delete)) := by
    refine (List.perm_ext_iff_of_nodup (hfound.sublist (surplus_sublist found wanted))
      (hfound.filter _)).mpr fun r => ?_
    rw [List.mem_filter]
    constructor
    · intro hr
      have hmem := (surplus_sublist found wanted).subset hr
      exact ⟨hmem, by simpa using (mem_surplus_iff hids hmem).mpr hr⟩
    · rintro ⟨hmem, hdelete⟩
      exact (mem_surplus_iff hids hmem).mp (by simpa using hdelete)
  exact (List.Perm.append_left _ hsurplus).trans (List.filter_append_perm _ found)

theorem kept_append_create (hids : (found.map id).Nodup) :
    ((kept found wanted).map content ++ (plan found wanted).create).Perm wanted := by
  refine List.perm_iff_count.mpr fun c => ?_
  have hall := ((@kept_append_surplus found wanted hids).map content).count_eq c
  have hsurplus := copies_surplus found wanted c
  rw [List.map_append, List.count_append] at hall
  rw [List.count_append, count_create]
  unfold copies at hsurplus ⊢
  omega

theorem not_mem_create_of_surplus (h : r ∈ surplus found wanted) :
    r.content ∉ (plan found wanted).create := by
  have hcopies : 0 < copies (surplus found wanted) r.content :=
    List.count_pos_iff.mpr (List.mem_map_of_mem h)
  rw [copies_surplus] at hcopies
  refine List.count_eq_zero.mp ?_
  rw [count_create]
  omega

/-- A plan creates what is wanted beyond the rules that say the same, and deletes the rules behind the
wanted number of their kind, in the order in which they are found. If the identities are distinct, what
is left and what is created are the wanted rules, so that a second plan does nothing, and nothing is both
deleted and created. -/
theorem plan_reconciles (found : List FirewallRule) (wanted : List Content) :
    (∀ c, (plan found wanted).create.count c = wanted.count c - copies found c) ∧
    (plan found wanted).delete = (surplus found wanted).map id ∧
    (∀ c, (surplus found wanted).filter (·.content = c) =
      (found.filter (·.content = c)).drop (min (copies found c) (wanted.count c))) ∧
    ((found.map id).Nodup →
      (∀ created : List FirewallRule, created.map content = (plan found wanted).create →
        ((kept found wanted ++ created).map content).Perm wanted ∧
        ∀ found' wanted', found'.Perm (kept found wanted ++ created) → wanted'.Perm wanted →
          plan found' wanted' = ⟨[], []⟩) ∧
      ∀ r ∈ found, r.id ∈ (plan found wanted).delete → r.content ∉ (plan found wanted).create) := by
  refine ⟨count_create found wanted, delete_eq found wanted, fun c => ?_, fun hids => ⟨?_, ?_⟩⟩
  · rw [filter_surplus, copies_eq_length]
    exact (List.drop_eq_drop_min).trans (by rw [Nat.min_comm])
  · intro created hcreated
    have hwanted : ((kept found wanted ++ created).map content).Perm wanted := by
      rw [List.map_append, hcreated]
      exact kept_append_create hids
    exact ⟨hwanted, fun found' wanted' hfound' hwanted' =>
      plan_eq_nil_iff.mpr ((hfound'.map content).trans (hwanted.trans hwanted'.symm))⟩
  · exact fun r hr hdelete => not_mem_create_of_surplus ((mem_surplus_iff hids hr).mp hdelete)

/-- Of two rules for one port one stays, the rule for a port that is not wanted goes, and a new one comes. -/
theorem plan_reconciles_ports :
    let rule (port : String) : Content := ⟨"TCP", "IPV4", "0.0.0.0", 0, some port, none⟩
    let found : List FirewallRule := [⟨"r1", rule "22"⟩, ⟨"r2", rule "80"⟩, ⟨"r3", rule "80"⟩]
    let wanted := [rule "80", rule "443"]
    (found.map id).Nodup ∧ plan found wanted = ⟨["r1", "r3"], [rule "443"]⟩ ∧
      plan [⟨"r4", rule "443"⟩, ⟨"r2", rule "80"⟩] wanted = ⟨[], []⟩ := by
  intro rule found wanted
  have hids : (found.map id).Nodup := by decide
  have hplan : plan found wanted = ⟨["r1", "r3"], [rule "443"]⟩ := by decide
  obtain ⟨-, -, -, hafter⟩ := plan_reconciles found wanted
  have hcreated : [FirewallRule.mk "r4" (rule "443")].map content = (plan found wanted).create := by
    rw [hplan]
    rfl
  obtain ⟨-, hagain⟩ := (hafter hids).1 _ hcreated
  exact ⟨hids, hplan, hagain _ _ (by decide) (.refl _)⟩

end CloudProvider.FirewallRule
