import CloudProvider.Proofs.Json.Normalize
import Mathlib.Data.List.Forall2

/-!
# Documents that mean the same

Documents mean the same if they differ only in what is unset. This is the least equivalence with a few
simple rules, and looking for a change decides it: parts that are unset are dropped from the inside out,
and what is left is compared.

* `Json.same_symm`, `Json.same_trans`: equality of values is an equivalence.
* `Json.MeansSame`: the equivalence.
* `Json.MeansSame.sameOption_normalize`: documents that mean the same become equal.
* `Json.meansSame_normal`: a document means the same as what is left of it.
* `ResourceState.hasChange_eq_false_iff`: an attribute changes exactly if its meaning does.
-/

namespace CloudProvider
set_option autoImplicit false

namespace Json

/-! ## Equality of values -/

theorem sameNumber_euclidean {l m n : Number} (h : sameNumber l m = true) (h' : sameNumber l n = true) :
    sameNumber m n = true := by
  cases l <;> cases m <;> cases n <;> simp_all [sameNumber, Binary64.sameValue]
  grind

mutual

theorem same_euclidean : ∀ {u v w : Json}, u.same v = true → u.same w = true → v.same w = true
  | .null, v, w, h, h' | .bool _, v, w, h, h' | .string _, v, w, h, h' => by
    cases v <;> cases w <;> simp_all [same]
  | .number _, v, w, h, h' => by
    cases v with
    | number => cases w with
      | number => exact sameNumber_euclidean h h'
      | _ => simp [same] at h'
    | _ => simp [same] at h
  | .array xs, v, w, h, h' => by
    cases v with
    | array ys => cases w with
      | array zs => exact @sameItems_euclidean xs ys zs h h'
      | _ => simp [same] at h'
    | _ => simp [same] at h
  | .object xs, v, w, h, h' => by
    cases v with
    | object ys => cases w with
      | object zs => exact @sameMembers_euclidean xs ys zs h h'
      | _ => simp [same] at h'
    | _ => simp [same] at h

theorem sameItems_euclidean : ∀ {xs ys zs : List Json}, sameItems xs ys = true →
    sameItems xs zs = true → sameItems ys zs = true
  | [], ys, zs, h, h' => by
    cases ys <;> cases zs <;> simp_all [sameItems]
  | x :: xs, ys, zs, h, h' => by
    cases ys <;> cases zs <;> simp only [sameItems, Bool.and_eq_true, Bool.false_eq_true] at h h' ⊢
    exact ⟨same_euclidean h.1 h'.1, sameItems_euclidean h.2 h'.2⟩

theorem sameMembers_euclidean : ∀ {xs ys zs : List (String × Json)}, sameMembers xs ys = true →
    sameMembers xs zs = true → sameMembers ys zs = true
  | [], ys, zs, h, h' => by
    cases ys <;> cases zs <;> simp_all [sameMembers]
  | (k, x) :: xs, ys, zs, h, h' => by
    cases ys <;> cases zs <;>
      simp only [sameMembers, Bool.and_eq_true, decide_eq_true_eq, Bool.false_eq_true] at h h' ⊢
    exact ⟨⟨h.1.1.symm.trans h'.1.1, same_euclidean h.1.2 h'.1.2⟩, sameMembers_euclidean h.2 h'.2⟩

end

theorem same_symm {v w : Json} (h : v.same w = true) : w.same v = true :=
  same_euclidean h (same_refl v)

theorem same_trans {u v w : Json} (h : u.same v = true) (h' : v.same w = true) : u.same w = true :=
  same_euclidean (same_symm h) h'

theorem sameOption_symm {v w : Option Json} (h : sameOption v w = true) : sameOption w v = true := by
  cases v <;> cases w <;> simp only [sameOption, Bool.false_eq_true] at h ⊢
  exact same_symm h

theorem sameOption_trans {u v w : Option Json} (h : sameOption u v = true)
    (h' : sameOption v w = true) : sameOption u w = true := by
  cases u <;> cases v <;> cases w <;> simp only [sameOption, Bool.false_eq_true] at h h' ⊢
  exact same_trans h h'

theorem sameItems_append {xs ys xs' ys' : List Json} (h : sameItems xs ys = true)
    (h' : sameItems xs' ys' = true) : sameItems (xs ++ xs') (ys ++ ys') = true := by
  induction xs generalizing ys with
  | nil => cases ys <;> simp_all [sameItems]
  | cons x xs ih => cases ys <;> simp_all [sameItems]

theorem sameMembers_append {xs ys xs' ys' : List (String × Json)} (h : sameMembers xs ys = true)
    (h' : sameMembers xs' ys' = true) : sameMembers (xs ++ xs') (ys ++ ys') = true := by
  induction xs generalizing ys with
  | nil => cases ys <;> simp_all [sameMembers]
  | cons x xs ih =>
    obtain ⟨k, x⟩ := x
    cases ys <;> simp_all [sameMembers]

/-! ## The same meaning -/

/-- The least equivalence under which null, the empty list and the empty object are one, members of an
object that are null come and go, and a part may be replaced by one with the same meaning. It passes only
through values whose members are in order. -/
inductive MeansSame : Json → Json → Prop
  | refl (v : Json) : MeansSame v v
  | symm {v w : Json} (h : MeansSame v w) : MeansSame w v
  | trans {u v w : Json} (hv : v.Sorted) (h : MeansSame u v) (h' : MeansSame v w) : MeansSame u w
  | number {m n : Number} (h : sameNumber m n = true) : MeansSame (.number m) (.number n)
  | emptyList : MeansSame (.array []) .null
  | emptyObject : MeansSame (.object []) .null
  | unsetMember (before : List (String × Json)) (key : String) (after : List (String × Json)) :
    MeansSame (.object (before ++ (key, .null) :: after)) (.object (before ++ after))
  | item (before : List Json) {v w : Json} (after : List Json) (h : MeansSame v w) :
    MeansSame (.array (before ++ v :: after)) (.array (before ++ w :: after))
  | member (before : List (String × Json)) (key : String) {v w : Json} (after : List (String × Json))
    (h : MeansSame v w) :
    MeansSame (.object (before ++ (key, v) :: after)) (.object (before ++ (key, w) :: after))

/-! ## Values that become equal -/

theorem normalizeMembers_append (xs ys : List (String × Json)) :
    normalizeMembers (xs ++ ys) = normalizeMembers xs ++ normalizeMembers ys := by
  induction xs with
  | nil => rfl
  | cons x xs ih =>
    obtain ⟨k, v⟩ := x
    rw [List.cons_append, normalizeMembers, normalizeMembers]
    cases normalize v <;> simp [ih]

theorem sameOption_normalize_object {xs ys : List (String × Json)}
    (h : sameMembers (normalizeMembers xs) (normalizeMembers ys) = true) :
    sameOption (normalize (.object xs)) (normalize (.object ys)) = true := by
  rw [normalize, normalize]
  cases hxs : normalizeMembers xs <;> cases hys : normalizeMembers ys <;>
    simp_all [sameMembers, sameOption, same]

theorem MeansSame.sameOption_normalize {v w : Json} (h : MeansSame v w) :
    sameOption (normalize v) (normalize w) = true := by
  induction h with
  | refl v => exact sameOption_refl _
  | symm _ ih => exact sameOption_symm ih
  | trans _ _ _ ih ih' => exact sameOption_trans ih ih'
  | number h => exact h
  | emptyList => rfl
  | emptyObject => rfl
  | unsetMember before key after =>
    refine sameOption_normalize_object ?_
    rw [normalizeMembers_append, normalizeMembers_append]
    exact sameMembers_refl _
  | @item before v w after _ ih =>
    rw [normalize_array (by simp), normalize_array (by simp)]
    have hpart : ((normalize v).getD .null).same ((normalize w).getD .null) = true := by
      cases hv : normalize v <;> cases hw : normalize w <;> simp_all [sameOption, same]
    simp only [List.map_append, List.map_cons]
    refine sameItems_append (sameItems_refl _) ?_
    rw [sameItems, hpart, sameItems_refl]
    rfl
  | @member before key v w after _ ih =>
    refine sameOption_normalize_object ?_
    rw [normalizeMembers_append, normalizeMembers_append]
    refine sameMembers_append (sameMembers_refl _) ?_
    rw [normalizeMembers, normalizeMembers]
    cases hv : normalize v <;> cases hw : normalize w <;>
      simp_all [sameOption, sameMembers, sameMembers_refl]

/-! ## Replacing all parts -/

theorem sortedItems_append {xs ys : List Json} :
    SortedItems (xs ++ ys) ↔ SortedItems xs ∧ SortedItems ys := by
  induction xs with
  | nil => simp [SortedItems]
  | cons x xs ih => simp [SortedItems, ih, and_assoc]

theorem sortedMembers_append {xs ys : List (String × Json)} :
    SortedMembers (xs ++ ys) ↔ SortedMembers xs ∧ SortedMembers ys := by
  induction xs with
  | nil => simp [SortedMembers]
  | cons x xs ih => simp [SortedMembers, ih, and_assoc]

/-- Members with one key that mean the same. -/
def MemberMeansSame (x y : String × Json) : Prop :=
  x.1 = y.1 ∧ MeansSame x.2 y.2

theorem meansSame_items {xs ys : List Json} (h : List.Forall₂ MeansSame xs ys) (before : List Json)
    (hxs : SortedItems (before ++ xs)) (hys : SortedItems ys) :
    MeansSame (.array (before ++ xs)) (.array (before ++ ys)) := by
  induction h generalizing before with
  | nil => exact .refl _
  | @cons x y xs ys hxy _ ih =>
    obtain ⟨hbefore, -, hxs⟩ := sortedItems_append.mp hxs
    have hmid : (array (before ++ y :: xs)).Sorted := sortedItems_append.mpr ⟨hbefore, hys.1, hxs⟩
    refine .trans hmid (.item before xs hxy) ?_
    rw [List.append_cons before y xs, List.append_cons before y ys]
    refine ih _ ?_ hys.2
    rw [← List.append_cons]
    exact hmid

theorem meansSame_members {xs ys : List (String × Json)} (h : List.Forall₂ MemberMeansSame xs ys)
    (before : List (String × Json)) (hxs : (object (before ++ xs)).Sorted) (hys : SortedMembers ys) :
    MeansSame (.object (before ++ xs)) (.object (before ++ ys)) := by
  induction h generalizing before with
  | nil => exact .refl _
  | @cons x y xs ys hxy _ ih =>
    obtain ⟨k, v⟩ := x
    obtain ⟨l, w⟩ := y
    obtain ⟨rfl, hvw⟩ := hxy
    obtain ⟨hordered, hsorted⟩ := hxs
    obtain ⟨hbefore, -, hxs⟩ := sortedMembers_append.mp hsorted
    have hmid : (object (before ++ (k, w) :: xs)).Sorted := by
      refine ⟨?_, sortedMembers_append.mpr ⟨hbefore, hys.1, hxs⟩⟩
      simpa [Keyed.Ordered, Keyed.keys] using hordered
    refine .trans hmid (.member before k xs hvw) ?_
    rw [List.append_cons before (k, w) xs, List.append_cons before (k, w) ys]
    exact ih _ (by simpa using hmid) hys.2

mutual

theorem meansSame_of_same : ∀ {v w : Json}, v.Sorted → w.Sorted → v.same w = true → MeansSame v w
  | .null, w, _, _, h | .bool _, w, _, _, h | .string _, w, _, _, h => by
    cases w <;> simp_all [same, MeansSame.refl]
  | .number _, w, _, _, h => by
    cases w with
    | number => exact .number h
    | _ => simp [same] at h
  | .array xs, w, hv, hw, h => by
    cases w with
    | array ys => exact meansSame_items (@forall₂_of_sameItems xs ys hv hw h) [] hv hw
    | _ => simp [same] at h
  | .object xs, w, hv, hw, h => by
    cases w with
    | object ys => exact meansSame_members (@forall₂_of_sameMembers xs ys hv.2 hw.2 h) [] hv hw.2
    | _ => simp [same] at h

theorem forall₂_of_sameItems : ∀ {xs ys : List Json}, SortedItems xs → SortedItems ys →
    sameItems xs ys = true → List.Forall₂ MeansSame xs ys
  | [], ys, _, _, h => by
    cases ys with
    | nil => exact .nil
    | cons => simp [sameItems] at h
  | x :: xs, ys, hxs, hys, h => by
    cases ys with
    | nil => simp [sameItems] at h
    | cons y ys =>
      simp only [sameItems, Bool.and_eq_true] at h
      exact .cons (meansSame_of_same hxs.1 hys.1 h.1) (forall₂_of_sameItems hxs.2 hys.2 h.2)

theorem forall₂_of_sameMembers : ∀ {xs ys : List (String × Json)}, SortedMembers xs →
    SortedMembers ys → sameMembers xs ys = true → List.Forall₂ MemberMeansSame xs ys
  | [], ys, _, _, h => by
    cases ys with
    | nil => exact .nil
    | cons => simp [sameMembers] at h
  | (k, x) :: xs, ys, hxs, hys, h => by
    cases ys with
    | nil => simp [sameMembers] at h
    | cons y ys =>
      simp only [sameMembers, Bool.and_eq_true, decide_eq_true_eq] at h
      exact .cons ⟨h.1.1, meansSame_of_same hxs.1 hys.1 h.1.2⟩ (forall₂_of_sameMembers hxs.2 hys.2 h.2)

end

/-! ## What is left -/

/-- A value without its unset parts, which is null if nothing is left. -/
def normal (v : Json) : Json :=
  (normalize v).getD .null

def normalMembers (members : List (String × Json)) : List (String × Json) :=
  members.map fun member => (member.1, member.2.normal)

theorem meansSame_normalizeMembers (members before : List (String × Json))
    (h : (object (before ++ normalMembers members)).Sorted) :
    (object (before ++ normalizeMembers members)).Sorted ∧
      MeansSame (.object (before ++ normalMembers members))
        (.object (before ++ normalizeMembers members)) := by
  induction members generalizing before with
  | nil => exact ⟨h, .refl _⟩
  | cons member rest ih =>
    obtain ⟨key, v⟩ := member
    rw [normalMembers, List.map_cons, ← normalMembers] at h ⊢
    rw [normalizeMembers]
    cases hv : normalize v with
    | none =>
      rw [normal, hv] at h ⊢
      have hrest : (object (before ++ normalMembers rest)).Sorted := by
        refine ⟨?_, ?_⟩
        · exact List.Pairwise.sublist ((List.sublist_cons_self ..).append_left _ |>.map _) h.1
        · obtain ⟨hbefore, -, hrest⟩ := sortedMembers_append.mp h.2
          exact sortedMembers_append.mpr ⟨hbefore, hrest⟩
      obtain ⟨hsorted, hsame⟩ := ih before hrest
      exact ⟨hsorted, .trans hrest (.unsetMember before key _) hsame⟩
    | some w =>
      rw [normal, hv, Option.getD_some] at h ⊢
      rw [List.append_cons] at h
      obtain ⟨hsorted, hsame⟩ := ih (before ++ [(key, w)]) h
      exact ⟨by simpa using hsorted, by simpa using hsame⟩

mutual

/-- A value means the same as what is left of it. -/
theorem meansSame_normal : ∀ (v : Json), v.Sorted → v.normal.Sorted ∧ MeansSame v v.normal
  | .null, _ | .bool _, _ | .number _, _ | .string _, _ => ⟨trivial, .refl _⟩
  | .array [], _ => ⟨trivial, .emptyList⟩
  | .array (v :: rest), h => by
    obtain ⟨hsorted, hsame⟩ := forall₂_normal (v :: rest) h
    rw [normal, normalize, ← normalizeItems, Option.getD_some]
    exact ⟨hsorted, meansSame_items hsame [] h hsorted⟩
  | .object members, h => by
    obtain ⟨hsorted, hsame⟩ := forall₂_normalMembers members h.2
    have hobject : (object (normalMembers members)).Sorted :=
      ⟨by simpa [Keyed.Ordered, Keyed.keys, normalMembers, Function.comp_def] using h.1, hsorted⟩
    have hparts := meansSame_members hsame [] h hsorted
    obtain ⟨hkept, hdropped⟩ := meansSame_normalizeMembers members [] hobject
    have hall := MeansSame.trans hobject hparts hdropped
    rw [normal, normalize]
    cases hnormal : normalizeMembers members with
    | nil =>
      rw [hnormal] at hkept hall
      exact ⟨trivial, .trans hkept hall .emptyObject⟩
    | cons member rest =>
      rw [hnormal] at hkept hall
      exact ⟨hkept, hall⟩

theorem forall₂_normal : ∀ (items : List Json), SortedItems items →
    SortedItems (normalizeItems items) ∧ List.Forall₂ MeansSame items (normalizeItems items)
  | [], _ => ⟨trivial, .nil⟩
  | v :: rest, h => by
    obtain ⟨hv, hsame⟩ := meansSame_normal v h.1
    obtain ⟨hrest, hsames⟩ := forall₂_normal rest h.2
    exact ⟨⟨hv, hrest⟩, .cons hsame hsames⟩

theorem forall₂_normalMembers : ∀ (members : List (String × Json)), SortedMembers members →
    SortedMembers (normalMembers members) ∧
      List.Forall₂ MemberMeansSame members (normalMembers members)
  | [], _ => ⟨trivial, .nil⟩
  | (key, v) :: rest, h => by
    obtain ⟨hv, hsame⟩ := meansSame_normal v h.1
    obtain ⟨hrest, hsames⟩ := forall₂_normalMembers rest h.2
    exact ⟨⟨hv, hrest⟩, .cons ⟨rfl, hsame⟩ hsames⟩

end

/-- Values become equal exactly if they mean the same. -/
theorem meansSame_iff {v w : Json} (hv : v.Sorted) (hw : w.Sorted) :
    MeansSame v w ↔ sameOption (normalize v) (normalize w) = true := by
  refine ⟨MeansSame.sameOption_normalize, fun h => ?_⟩
  obtain ⟨hsortedv, hleftv⟩ := meansSame_normal v hv
  obtain ⟨hsortedw, hleftw⟩ := meansSame_normal w hw
  have hleft : MeansSame v.normal w.normal := by
    refine meansSame_of_same hsortedv hsortedw ?_
    rw [normal, normal]
    cases hv : normalize v <;> cases hw : normalize w <;> simp_all [sameOption, same]
  exact .trans hsortedw (.trans hsortedv hleftv hleft) hleftw.symm

end Json

/-! ## Changes -/

namespace ResourceState

open Json

/-- No change is found in an attribute exactly if the values mean the same, a missing value being null. -/
theorem hasChange_eq_false_iff (s : ResourceState) (key : String)
    (hvalue : ((s.values.get? key).getD .null).Sorted) (hprior : ((s.prior.get? key).getD .null).Sorted) :
    s.hasChange key = false ↔
      MeansSame ((s.values.get? key).getD .null) ((s.prior.get? key).getD .null) := by
  have hbind (o : Option Json) : o.bind normalize = normalize (o.getD .null) := by
    cases o <;> rfl
  rw [meansSame_iff hvalue hprior, ← hbind, ← hbind, hasChange]
  simp

theorem sorted_getD {members : Keyed Json} (h : (Json.object members).Sorted) (key : String) :
    ((members.get? key).getD .null).Sorted := by
  cases hv : members.get? key with
  | none => trivial
  | some v => exact h.2.of_get? hv

/-- An attribute of a planned and a prior document is unchanged exactly if it means the same in both. -/
theorem unchanged_iff_meansSame {planned prior : Keyed Json} (hplanned : (Json.object planned).Sorted)
    (hprior : (Json.object prior).Sorted) {key : String} (hkey : key ≠ idKey) :
    ((ofJson (.object planned)).withPrior (.object prior)).hasChange key = false ↔
      MeansSame ((planned.get? key).getD .null) ((prior.get? key).getD .null) := by
  have hvalues : ((ofJson (.object planned)).withPrior (.object prior)).values.get? key = planned.get? key :=
    Keyed.get?_erase_of_ne _ _ _ hkey
  have hpriors : ((ofJson (.object planned)).withPrior (.object prior)).prior.get? key = prior.get? key :=
    Keyed.get?_erase_of_ne _ _ _ hkey
  have h := hasChange_eq_false_iff ((ofJson (.object planned)).withPrior (.object prior)) key
  rw [hvalues, hpriors] at h
  exact h (sorted_getD hplanned key) (sorted_getD hprior key)

/-- A listener that gives no path means the same as one whose path is null; another port does not. -/
theorem unchanged_iff_meansSame_listener :
    let listener (port : UInt16) : Json := .array [.object [("port", .uint16 port)]]
    let spelled (port : UInt16) : Json := .array [.object [("path", .null), ("port", .uint16 port)]]
    let planned : Keyed Json := [("id", .string "lb"), ("listeners", spelled 80), ("rules", spelled 443)]
    let prior : Keyed Json := [("id", .string "lb"), ("listeners", listener 80), ("rules", listener 8443)]
    (Json.object planned).Sorted ∧ (Json.object prior).Sorted ∧
      MeansSame (spelled 80) (listener 80) ∧ ¬ MeansSame (spelled 443) (listener 8443) := by
  intro listener spelled planned prior
  have hplanned : (Json.object planned).Sorted := by
    have hspelled (port : UInt16) : (spelled port).Sorted :=
      ⟨⟨show List.Pairwise (· < ·) ["path", "port"] by decide, trivial, trivial, trivial⟩, trivial⟩
    exact ⟨show List.Pairwise (· < ·) ["id", "listeners", "rules"] by decide,
      trivial, hspelled 80, hspelled 443, trivial⟩
  have hprior : (Json.object prior).Sorted := by
    have hlistener (port : UInt16) : (listener port).Sorted :=
      ⟨⟨List.pairwise_singleton _ _, trivial, trivial⟩, trivial⟩
    exact ⟨show List.Pairwise (· < ·) ["id", "listeners", "rules"] by decide,
      trivial, hlistener 80, hlistener 8443, trivial⟩
  have hsame := @unchanged_iff_meansSame planned prior hplanned hprior "listeners" (by decide)
  have hother := @unchanged_iff_meansSame planned prior hplanned hprior "rules" (by decide)
  exact ⟨hplanned, hprior, hsame.mp (by decide), fun h => absurd (hother.mpr h) (by decide)⟩

end ResourceState

end CloudProvider
