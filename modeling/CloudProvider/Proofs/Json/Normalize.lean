import CloudProvider.Proofs.Json.Decode
import CloudProvider.Proofs.State

/-!
# Values without their unset parts

* `Json.Sorted`: the members of each object stand in the order of their keys, at every depth.
* `normalizeMembers_congr`: objects with the same members but for unset ones become equal.
* `normalize_items`: so do lists whose items become equal.
* `differs`: values that are told apart when a change is looked for.
-/

namespace CloudProvider
set_option autoImplicit false

mutual

/-- The members of each object stand in the order of their keys, as where a text is read. -/
def Json.Sorted : Json → Prop
  | .object members => Keyed.Ordered members ∧ Json.SortedMembers members
  | .array items => Json.SortedItems items
  | .null | .bool _ | .number _ | .string _ => True

def Json.SortedItems : List Json → Prop
  | [] => True
  | v :: rest => v.Sorted ∧ Json.SortedItems rest

def Json.SortedMembers : List (String × Json) → Prop
  | [] => True
  | (_, v) :: rest => v.Sorted ∧ Json.SortedMembers rest

end

theorem Json.SortedMembers.of_get? {members : Keyed Json} {key : String} {v : Json}
    (h : SortedMembers members) (hv : members.get? key = some v) : v.Sorted := by
  induction members with
  | nil => cases hv
  | cons member rest ih =>
    obtain ⟨k, w⟩ := member
    rw [Keyed.get?_cons] at hv
    split at hv
    · obtain rfl := Option.some.inj hv
      exact h.1
    · exact ih h.2 hv

theorem Json.SortedMembers.erase {members : Keyed Json} (h : SortedMembers members) (key : String) :
    SortedMembers (members.erase key) := by
  induction members with
  | nil => trivial
  | cons member rest ih =>
    obtain ⟨k, w⟩ := member
    by_cases hk : k = key
    · simpa [Keyed.erase, hk] using ih h.2
    · simpa [Keyed.erase, hk, SortedMembers] using And.intro h.1 (ih h.2)

theorem Json.SortedMembers.insert {members : Keyed Json} {v : Json} (h : SortedMembers members)
    (key : String) (hv : v.Sorted) : SortedMembers (members.insert key v) := by
  induction members with
  | nil => exact ⟨hv, trivial⟩
  | cons member rest ih =>
    obtain ⟨k, w⟩ := member
    simp only [Keyed.insert]
    split
    · exact ⟨hv, h.2⟩
    · split
      · exact ⟨h.1, ih h.2⟩
      · exact ⟨hv, h⟩

/-! ## Objects -/

theorem mem_keys_of_normalizeMembers {members : Keyed Json} {key : String}
    (h : key ∈ Keyed.keys (normalizeMembers members)) : key ∈ Keyed.keys members := by
  induction members with
  | nil => exact h
  | cons member rest ih =>
    obtain ⟨k, v⟩ := member
    simp only [normalizeMembers] at h
    split at h
    · rcases List.mem_cons.mp h with rfl | h
      · exact List.mem_cons_self ..
      · exact List.mem_cons_of_mem _ (ih h)
    · exact List.mem_cons_of_mem _ (ih h)

theorem ordered_normalizeMembers {members : Keyed Json} (h : Keyed.Ordered members) :
    Keyed.Ordered (normalizeMembers members) := by
  induction members with
  | nil => exact h
  | cons member rest ih =>
    obtain ⟨k, v⟩ := member
    obtain ⟨hfirst, hrest⟩ := List.pairwise_cons.mp h
    simp only [normalizeMembers]
    split
    · exact List.pairwise_cons.mpr
        ⟨fun l hl => hfirst l (mem_keys_of_normalizeMembers hl), ih hrest⟩
    · exact ih hrest

theorem get?_normalizeMembers {members : Keyed Json} (h : Keyed.Ordered members) (key : String) :
    Keyed.get? key (normalizeMembers members) = (members.get? key).bind normalize := by
  induction members with
  | nil => rfl
  | cons member rest ih =>
    obtain ⟨k, v⟩ := member
    obtain ⟨hfirst, hrest⟩ := List.pairwise_cons.mp h
    rw [normalizeMembers, Keyed.get?_cons]
    by_cases hk : k = key
    · subst hk
      have hgone : Keyed.get? k rest = none :=
        Keyed.get?_of_not_mem fun hmem => String.lt_irrefl k (hfirst k hmem)
      cases hv : normalize v with
      | none => simp [ih hrest, hgone, hv]
      | some w => simp [Keyed.get?_cons, hv]
    · cases hv : normalize v with
      | none => simp [ih hrest, hk]
      | some w => simp [Keyed.get?_cons, ih hrest, hk]

theorem normalizeMembers_congr {xs ys : Keyed Json} (hxs : Keyed.Ordered xs)
    (hys : Keyed.Ordered ys)
    (h : ∀ key, (xs.get? key).bind normalize = (ys.get? key).bind normalize) :
    normalizeMembers xs = normalizeMembers ys := by
  refine Keyed.Ordered.ext (ordered_normalizeMembers hxs) (ordered_normalizeMembers hys) fun key => ?_
  rw [get?_normalizeMembers hxs, get?_normalizeMembers hys, h key]

theorem normalize_object_congr {xs ys : Keyed Json} (hxs : Keyed.Ordered xs)
    (hys : Keyed.Ordered ys)
    (h : ∀ key, (xs.get? key).bind normalize = (ys.get? key).bind normalize) :
    normalize (.object xs) = normalize (.object ys) := by
  simp only [normalize, normalizeMembers_congr hxs hys h]

/-! ## Lists -/

theorem normalizeItems_eq_map (items : List Json) :
    normalizeItems items = items.map fun v => (normalize v).getD .null := by
  induction items with
  | nil => rfl
  | cons v rest ih => rw [normalizeItems, ih, List.map_cons]

theorem normalize_array {items : List Json} (h : items ≠ []) :
    normalize (.array items) = some (.array (items.map fun v => (normalize v).getD .null)) := by
  cases items with
  | nil => exact absurd rfl h
  | cons v rest => rw [normalize, normalizeItems_eq_map, List.map_cons]

theorem normalize_items {α : Type} {decode : Json.Decoder α} {encode : α → Json} {items : List Json}
    {xs : List α} (hitems : Json.Decode.items decode items = .ok xs)
    (h : ∀ v ∈ items, ∀ x, decode v = .ok x → normalize v = normalize (encode x)) :
    normalize (.array items) = normalize (.array (xs.map encode)) := by
  have hmap : items.map (fun v => (normalize v).getD .null) =
      (xs.map encode).map fun v => (normalize v).getD .null := by
    induction items generalizing xs with
    | nil =>
      obtain rfl := Except.ok.inj hitems
      rfl
    | cons v rest ih =>
      obtain ⟨x, hx, hrest⟩ := bind_ok.mp hitems
      obtain ⟨xs', hxs, hcons⟩ := bind_ok.mp hrest
      obtain rfl := Except.ok.inj hcons
      rw [List.map_cons, List.map_cons, List.map_cons, h v (List.mem_cons_self ..) x hx,
        ih hxs fun w hw => h w (List.mem_cons_of_mem _ hw)]
  cases items with
  | nil =>
    obtain rfl := Except.ok.inj hitems
    rfl
  | cons v rest =>
    have hne : xs.map encode ≠ [] := by
      intro hnil
      simp [hnil] at hmap
    rw [normalize_array (by simp), normalize_array hne, hmap]

theorem normalize_option {α : Type} {encode : α → Json} {v : Option Json} {o : Option α}
    (h : v.filter (!·.isNull) = o.map encode) :
    v.bind normalize = normalize (Json.option encode o) := by
  cases o with
  | none =>
    cases v with
    | none => rfl
    | some w =>
      have hnull : w.isNull = true := by simpa [Option.filter_some] using h
      cases w <;> first | rfl | cases hnull
  | some a =>
    obtain ⟨rfl, -⟩ := Option.filter_eq_some_iff.mp h
    rfl

theorem normalize_unset {v : Option Json} (h : v.filter (!·.isNull) = none) :
    v.bind normalize = none :=
  @normalize_option Unit (fun _ => .null) v none h

/-! ## Differences -/

/-- The values are told apart when a change is looked for. -/
def differs (v w : Option Json) : Bool :=
  !Json.sameOption (v.bind normalize) (w.bind normalize)

theorem differs_of_eq {v w : Option Json} (h : v.bind normalize = w.bind normalize) :
    differs v w = false := by
  simp [differs, h, Json.sameOption_refl]

theorem ResourceState.hasChange_eq (s : ResourceState) (key : String) :
    s.hasChange key = differs (s.values.get? key) (s.prior.get? key) := rfl

end CloudProvider
