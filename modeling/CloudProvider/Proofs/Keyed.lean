import CloudProvider.Keyed

/-!
# Laws of entries by key

* `Keyed.insert_insert`, `Keyed.insert_comm`: two changes, of one key or of two.
* `Keyed.Settled`: writing the value under the key changes nothing.
* `Keyed.erase_insert`, `Keyed.erase_of_get?`: removing what was written.
* `Keyed.Ordered.insert`, `Keyed.Ordered.erase`: the keys stay in order.
* `Keyed.Ordered.ext`: entries in order are determined by look-up.
* `Keyed.onto`: entries that replace others.
-/

namespace CloudProvider.Keyed
set_option autoImplicit false

variable {α : Type}

/-! ## Two changes -/

theorem insert_insert (key : String) (v w : α) (entries : Keyed α) :
    insert key v (insert key w entries) = insert key v entries := by
  induction entries with
  | nil => simp [insert]
  | cons entry rest ih =>
    obtain ⟨k, x⟩ := entry
    simp only [insert]
    split
    · simp [insert]
    · next hne =>
      split
      · next hlt => simp [insert, hne, hlt, ih]
      · simp [insert]

theorem lt_or_gt {key other : String} (hne : key ≠ other) : key < other ∨ other < key := by
  rcases String.le_total key other with hle | hle
  · by_cases hlt : key < other
    · exact .inl hlt
    · exact absurd (String.le_antisymm hle (String.not_lt.mp hlt)) hne
  · by_cases hlt : other < key
    · exact .inr hlt
    · exact absurd (String.le_antisymm (String.not_lt.mp hlt) hle) hne

theorem insert_comm_of_lt {key other : String} (hlt : key < other) (v w : α) (entries : Keyed α) :
    insert key v (insert other w entries) = insert other w (insert key v entries) := by
  have hne : key ≠ other := fun e => String.lt_irrefl key (e ▸ hlt)
  induction entries with
  | nil => simp [insert, hne, Ne.symm hne, hlt, String.lt_asymm hlt]
  | cons entry rest ih =>
    obtain ⟨k, x⟩ := entry
    by_cases hk : k = key
    · subst hk
      simp [insert, hne, hlt]
    · rcases lt_or_gt hk with hbelow | habove
      · have hother : k < other := String.lt_trans hbelow hlt
        have hko : k ≠ other := fun e => String.lt_irrefl k (e ▸ hother)
        simp [insert, hk, hbelow, hko, hother, ih]
      · have hnot := String.lt_asymm habove
        by_cases hko : k = other
        · subst hko
          simp [insert, hne, Ne.symm hne, hlt, hnot]
        · rcases lt_or_gt hko with hkb | hka
          · simp [insert, hne, hlt, hk, hnot, hko, hkb]
          · simp [insert, hne, Ne.symm hne, hlt, hk, hnot, hko, String.lt_asymm hka,
              String.lt_asymm hlt]

theorem insert_comm {key other : String} (hne : key ≠ other) (v w : α) (entries : Keyed α) :
    insert key v (insert other w entries) = insert other w (insert key v entries) := by
  rcases lt_or_gt hne with hlt | hgt
  · exact insert_comm_of_lt hlt v w entries
  · exact (insert_comm_of_lt hgt w v entries).symm

/-! ## Values that are there already -/

/-- Writing the value under the key changes nothing. -/
def Settled (key : String) (v : α) (entries : Keyed α) : Prop :=
  insert key v entries = entries

theorem settled_insert (key : String) (v : α) (entries : Keyed α) :
    Settled key v (insert key v entries) :=
  insert_insert key v v entries

theorem Settled.insert {key other : String} {v : α} {entries : Keyed α}
    (h : Settled key v entries) (hne : key ≠ other) (w : α) :
    Settled key v (Keyed.insert other w entries) := by
  rw [Settled, insert_comm hne, h]

theorem Settled.get? {key : String} {v : α} {entries : Keyed α} (h : Settled key v entries) :
    get? key entries = some v := by
  rw [← h, get?_insert_self]

/-! ## Removing what was written -/

theorem erase_insert (key : String) (v : α) (entries : Keyed α) :
    erase key (insert key v entries) = erase key entries := by
  induction entries with
  | nil => simp [insert, erase]
  | cons entry rest ih =>
    obtain ⟨k, x⟩ := entry
    simp only [insert]
    split
    · next hk => simp [erase, hk]
    · split
      · simp only [erase, List.filter_cons] at ih ⊢
        rw [ih]
      · simp [erase]

theorem erase_of_get? {key : String} {entries : Keyed α} (h : get? key entries = none) :
    erase key entries = entries := by
  induction entries with
  | nil => rfl
  | cons entry rest ih =>
    obtain ⟨k, x⟩ := entry
    rw [get?_cons] at h
    split at h
    · cases h
    · next hk => simpa [erase, hk] using ih h

/-! ## Entries in order -/

theorem get?_of_not_mem {key : String} {entries : Keyed α} (h : key ∉ keys entries) :
    get? key entries = none := by
  induction entries with
  | nil => rfl
  | cons entry rest ih =>
    obtain ⟨k, x⟩ := entry
    simp only [keys, List.map_cons, List.mem_cons, not_or] at h
    rw [get?_cons, if_neg (Ne.symm h.1)]
    exact ih h.2

theorem contains_iff {key : String} {entries : Keyed α} :
    contains key entries = true ↔ key ∈ keys entries := by
  induction entries with
  | nil => simp [contains, keys]
  | cons entry rest ih =>
    obtain ⟨k, x⟩ := entry
    by_cases hk : k = key
    · simp [contains, get?_cons, keys, hk]
    · rw [contains, get?_cons, if_neg hk, ← contains, ih]
      simp [keys, Ne.symm hk]

theorem get?_append (key : String) (xs ys : Keyed α) :
    get? key (xs ++ ys) = (get? key xs).or (get? key ys) := by
  induction xs with
  | nil => rfl
  | cons entry rest ih =>
    obtain ⟨k, x⟩ := entry
    rw [List.cons_append, get?_cons, get?_cons, ih]
    split <;> rfl

theorem mem_insert {key : String} {v : α} {entries : Keyed α} {entry : String × α}
    (h : entry ∈ insert key v entries) : entry = (key, v) ∨ entry ∈ entries := by
  induction entries with
  | nil => exact .inl (List.mem_singleton.mp h)
  | cons head rest ih =>
    simp only [insert] at h
    split at h
    · exact (List.mem_cons.mp h).imp_right (List.mem_cons_of_mem _)
    · split at h
      · rcases List.mem_cons.mp h with rfl | h
        · exact .inr (List.mem_cons_self ..)
        · exact (ih h).imp_right (List.mem_cons_of_mem _)
      · exact List.mem_cons.mp h

theorem mem_keys_of_insert {key k : String} {v : α} {entries : Keyed α}
    (h : k ∈ keys (insert key v entries)) : k = key ∨ k ∈ keys entries := by
  obtain ⟨entry, hentry, rfl⟩ := List.mem_map.mp h
  exact (mem_insert hentry).imp (congrArg Prod.fst) List.mem_map_of_mem

theorem Ordered.insert {entries : Keyed α} (h : Ordered entries) (key : String) (v : α) :
    Ordered (insert key v entries) := by
  induction entries with
  | nil => simp [Keyed.insert, Ordered, keys]
  | cons entry rest ih =>
    obtain ⟨k, x⟩ := entry
    obtain ⟨hfirst, hrest⟩ := List.pairwise_cons.mp h
    simp only [Keyed.insert]
    split
    · next hk =>
      subst hk
      exact h
    · next hne =>
      split
      · next hlt =>
        refine List.pairwise_cons.mpr ⟨fun l hl => ?_, ih hrest⟩
        rcases mem_keys_of_insert hl with rfl | hl
        · exact hlt
        · exact hfirst l hl
      · next hnot =>
        have hlt : key < k := (lt_or_gt hne).resolve_left hnot
        refine List.pairwise_cons.mpr ⟨fun l hl => ?_, h⟩
        rcases List.mem_cons.mp hl with rfl | hl
        · exact hlt
        · exact String.lt_trans hlt (hfirst l hl)

theorem insert_eq_append {entries : Keyed α} {key : String} (v : α)
    (h : ∀ k ∈ keys entries, k < key) : entries.insert key v = entries ++ [(key, v)] := by
  induction entries with
  | nil => rfl
  | cons entry rest ih =>
    obtain ⟨k, w⟩ := entry
    obtain ⟨hk, hrest⟩ := List.forall_mem_cons.mp h
    have hne : k ≠ key := fun e => String.lt_irrefl key (e ▸ hk)
    rw [Keyed.insert, if_neg hne, if_pos hk, ih hrest]
    rfl

theorem foldl_insert_eq_append {xs ys : Keyed α} (h : Ordered (xs ++ ys)) :
    ys.foldl (fun entries entry => entries.insert entry.1 entry.2) xs = xs ++ ys := by
  induction ys generalizing xs with
  | nil => exact (List.append_nil xs).symm
  | cons entry rest ih =>
    have hlast : ∀ k ∈ keys xs, k < entry.1 := by
      rw [Ordered, keys, List.map_append, List.pairwise_append] at h
      exact fun k hk => h.2.2 k hk entry.1 (List.mem_cons_self ..)
    rw [List.foldl_cons, insert_eq_append _ hlast, ih (by simpa using h)]
    simp

theorem ofList_of_ordered {entries : Keyed α} (h : Ordered entries) : ofList entries = entries :=
  @foldl_insert_eq_append α [] entries h

theorem Ordered.erase {entries : Keyed α} (h : Ordered entries) (key : String) :
    Ordered (erase key entries) :=
  h.sublist (List.filter_sublist.map _)

/-- Entries in order are determined by what is looked up in them. -/
theorem Ordered.ext {xs ys : Keyed α} (hxs : Ordered xs) (hys : Ordered ys)
    (h : ∀ key, get? key xs = get? key ys) : xs = ys := by
  -- No key below the first one is there.
  have hbelow {k l : String} {v : α} {rest : Keyed α} (hrest : Ordered ((l, v) :: rest))
      (hlt : k < l) : get? k ((l, v) :: rest) = none := by
    refine get?_of_not_mem fun hmem => ?_
    rcases List.mem_cons.mp hmem with rfl | hmem
    · exact String.lt_irrefl _ hlt
    · exact String.lt_asymm hlt ((List.pairwise_cons.mp hrest).1 k hmem)
  induction xs generalizing ys with
  | nil =>
    cases ys with
    | nil => rfl
    | cons entry rest =>
      obtain ⟨k, v⟩ := entry
      simpa [get?_cons] using h k
  | cons entry rest ih =>
    obtain ⟨k, v⟩ := entry
    cases ys with
    | nil => simpa [get?_cons] using h k
    | cons entry' rest' =>
      obtain ⟨l, w⟩ := entry'
      have hkl : k = l := by
        refine Decidable.byContradiction fun hne => ?_
        rcases lt_or_gt hne with hlt | hgt
        · simpa [get?_cons, hbelow hys hlt] using h k
        · simpa [get?_cons, hbelow hxs hgt] using h l
      subst hkl
      have hvw : v = w := by simpa [get?_cons] using h k
      subst hvw
      obtain ⟨hfirst, hrest⟩ := List.pairwise_cons.mp hxs
      obtain ⟨hfirst', hrest'⟩ := List.pairwise_cons.mp hys
      rw [ih hrest hrest' fun key => ?_]
      by_cases hkey : k = key
      · subst hkey
        rw [get?_of_not_mem fun hmem => String.lt_irrefl k (hfirst k hmem),
          get?_of_not_mem fun hmem => String.lt_irrefl k (hfirst' k hmem)]
      · simpa [get?_cons, hkey] using h key

/-! ## Entries that replace others -/

/-- The entries, and those of `entries` under other keys. -/
def onto (changes entries : Keyed α) : Keyed α :=
  changes.foldr (fun change sorted => insert change.1 change.2 sorted) entries

theorem get?_onto (key : String) (changes entries : Keyed α) :
    get? key (onto changes entries) = (get? key changes <|> get? key entries) := by
  induction changes with
  | nil => rfl
  | cons change rest ih =>
    obtain ⟨k, v⟩ := change
    simp only [onto, List.foldr_cons] at ih ⊢
    by_cases hk : k = key
    · subst hk
      simp [get?_cons]
    · rw [get?_insert_of_ne _ _ _ _ (Ne.symm hk), ih, get?_cons, if_neg hk]

end CloudProvider.Keyed
