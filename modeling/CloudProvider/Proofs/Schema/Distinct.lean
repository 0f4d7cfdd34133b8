import CloudProvider.Proofs.Schema.Valid

/-!
# Elements of sets

Validation compares the elements of a set as they are written, before the defaults are filled in. What
counts afterwards is what each element says.

* `saidOf`: what members say about an attribute, the default included.
* `setValue?_fillAll_of_isFlat`: filling in the defaults leaves what is said as it is.
* `eq_of_said`: members without null and with all defaults spelled out are determined by what they say.
* `nodup_of_items`: the elements are read as different values if what they say tells them apart.
-/

namespace CloudProvider
set_option autoImplicit false

variable {attributes : List (String × Attribute)} {members : Keyed Json} {name : String} {a : Attribute}

/-! ## What is said -/

/-- What members say about an attribute: the value that is set, or else the default. -/
def saidOf (attributes : Keyed Attribute) (members : Keyed Json) (name : String) : Option Json :=
  setValue? name members <|> (attributes.get? name).bind (·.traits.default)

theorem default_isScalar {d : Json} (hplain : plainAll attributes = true)
    (ha : Keyed.get? name attributes = some a) (hd : a.traits.default = some d) : d.isScalar = true := by
  have hscalar := (plain_of_mem hplain (mem_of_get? ha)).1
  rw [hd] at hscalar
  exact hscalar

theorem setValue?_fillAll (hplain : plainAll attributes = true)
    (ha : Keyed.get? name attributes = some a) (members : Keyed Json) :
    setValue? name (fillAll attributes members) =
      ((setValue? name members).map a.type.fill <|> a.traits.default) := by
  rw [setValue?, setValue?, get?_fillAll_of_get? hplain ha]
  cases hvalue : (members.get? name).filter (!·.isNull) with
  | some v =>
    have hv := (Option.filter_eq_some_iff.mp hvalue).2
    simp [a.type.isNull_fill (by simpa using hv)]
  | none =>
    cases hd : a.traits.default with
    | some d => simp [Json.isNull_of_isScalar (default_isScalar hplain ha hd)]
    | none => simp [hvalue]

theorem setValue?_fillAll_of_isFlat (hplain : plainAll attributes = true)
    (ha : Keyed.get? name attributes = some a) (hflat : a.type.isFlat = true) (members : Keyed Json) :
    setValue? name (fillAll attributes members) = saidOf attributes members name := by
  have hfill : a.type.fill = id := funext (AttrType.fill_of_isFlat hflat)
  rw [setValue?_fillAll hplain ha, hfill, Option.map_id, saidOf, ha]
  rfl

/-- Members that are not null and give every attribute that has a default. -/
structure Explicit (attributes : Keyed Attribute) (members : Keyed Json) : Prop where
  set : ∀ name v, members.get? name = some v → v.isNull = false
  given : ∀ name a, attributes.get? name = some a → a.traits.default.isSome = true →
    (members.get? name).isSome = true

theorem Explicit.said_eq (h : Explicit attributes members) (name : String) :
    saidOf attributes members name = members.get? name := by
  rw [saidOf, setValue?]
  cases hvalue : members.get? name with
  | some v => simp [h.set name v hvalue]
  | none =>
    cases ha : Keyed.get? name attributes with
    | none => simp
    | some a =>
      cases hd : a.traits.default with
      | none => simp [hd]
      | some d =>
        have hgiven := h.given name a ha (by rw [hd]; rfl)
        rw [hvalue] at hgiven
        cases hgiven

theorem eq_of_said {members' : Keyed Json} (h : Explicit attributes members)
    (h' : Explicit attributes members') (hordered : Keyed.Ordered members)
    (hordered' : Keyed.Ordered members')
    (hsame : ∀ name, saidOf attributes members name = saidOf attributes members' name) :
    members = members' := by
  refine hordered.ext hordered' fun name => ?_
  rw [← h.said_eq, ← h'.said_eq, hsame]

/-! ## Sets without errors -/

/-- The elements of a set of objects without errors are objects, each without errors, and no two of
them are written in the same way. -/
theorem elements_of_errors {t : Traits} {v : Json} {path : String}
    (h : (AttrType.set (.object attributes)).errors t v path = []) :
    ∃ elements : List (Keyed Json), v = .array (elements.map .object) ∧
      elements.Pairwise (fun a b => (Json.object a).same (.object b) = false) ∧
      ∀ element ∈ elements, ∃ path, path ≠ "" ∧ unsupported attributes path element = [] ∧
        attributeErrors attributes element path = [] := by
  cases v with
  | array items =>
    obtain ⟨hset, hitems⟩ := List.append_eq_nil_iff.mp h
    have hdistinct := (repeatedItems_eq_nil_iff.mp (List.append_eq_nil_iff.mp hset).2).1
    have hall := error_free_of_atItems hitems
    have hobjects : ∃ elements : List (Keyed Json), items = elements.map .object := by
      clear h hset hitems hdistinct
      induction items with
      | nil => exact ⟨[], rfl⟩
      | cons item rest ih =>
        obtain ⟨elements, helements⟩ := ih fun w hw => hall w (List.mem_cons_of_mem _ hw)
        obtain ⟨i, hi⟩ := hall item (List.mem_cons_self ..)
        cases item with
        | object members => exact ⟨members :: elements, by rw [helements]; rfl⟩
        | _ => simp [AttrType.errors, AttrType.admits] at hi
    obtain ⟨elements, rfl⟩ := hobjects
    refine ⟨elements, rfl, List.pairwise_map.mp hdistinct, fun element helement => ?_⟩
    obtain ⟨i, hi⟩ := hall _ (List.mem_map_of_mem helement)
    rw [AttrType.errors] at hi
    exact ⟨itemPath path i, itemPath_ne path i, List.append_eq_nil_iff.mp hi⟩
  | _ => simp [AttrType.errors, AttrType.admits] at h

theorem Json.SortedItems.of_mem {items : List Json} {v : Json} (h : SortedItems items) (hv : v ∈ items) :
    v.Sorted := by
  induction items with
  | nil => cases hv
  | cons item rest ih =>
    rcases List.mem_cons.mp hv with rfl | hv
    · exact h.1
    · exact ih h.2 hv

theorem fill_elements (attributes : List (String × Attribute)) (elements : List (Keyed Json)) :
    (AttrType.set (.object attributes)).fill (.array (elements.map .object)) =
      .array (elements.map fun element => .object (fillAll attributes element)) := by
  rw [AttrType.fill, Json.mapObjects, List.map_map]
  rfl

/-! ## Elements that are read -/

section Reading

open Json

variable {α β : Type} {decode : Decoder α} {items : List Json} {as : List α}

theorem mem_of_items (h : Decode.items decode items = .ok as) :
    (∀ a ∈ as, ∃ v ∈ items, decode v = .ok a) ∧ ∀ v ∈ items, ∃ a ∈ as, decode v = .ok a := by
  induction items generalizing as with
  | nil =>
    obtain rfl := Except.ok.inj h
    simp
  | cons item rest ih =>
    obtain ⟨first, hfirst, h⟩ := bind_ok.mp h
    obtain ⟨later, hlater, h⟩ := bind_ok.mp h
    obtain rfl := Except.ok.inj h
    obtain ⟨hread, hgiven⟩ := ih hlater
    refine ⟨fun a ha => ?_, fun v hv => ?_⟩
    · rcases List.mem_cons.mp ha with rfl | ha
      · exact ⟨item, List.mem_cons_self .., hfirst⟩
      · obtain ⟨v, hv, hva⟩ := hread a ha
        exact ⟨v, List.mem_cons_of_mem _ hv, hva⟩
    · rcases List.mem_cons.mp hv with rfl | hv
      · exact ⟨first, List.mem_cons_self .., hfirst⟩
      · obtain ⟨a, ha, hva⟩ := hgiven v hv
        exact ⟨a, List.mem_cons_of_mem _ ha, hva⟩

/-- If two elements are read as one value exactly when they are related, all values are different exactly
when no two elements are related. -/
theorem nodup_of_items {write : β → Json} {related : β → β → Prop} {xs : List β}
    (h : Decode.items decode (xs.map write) = .ok as)
    (hrelated : ∀ x ∈ xs, ∀ y ∈ xs, ∀ a b, decode (write x) = .ok a → decode (write y) = .ok b →
      (a = b ↔ related x y)) :
    as.Nodup ↔ xs.Pairwise fun x y => ¬ related x y := by
  induction xs generalizing as with
  | nil =>
    obtain rfl := Except.ok.inj h
    simp
  | cons x rest ih =>
    obtain ⟨a, ha, h⟩ := bind_ok.mp h
    obtain ⟨later, hlater, h⟩ := bind_ok.mp h
    obtain rfl := Except.ok.inj h
    have htail := ih hlater fun y hy z hz =>
      hrelated y (List.mem_cons_of_mem _ hy) z (List.mem_cons_of_mem _ hz)
    have hfirst (y : β) (hy : y ∈ rest) := hrelated x (List.mem_cons_self ..) y (List.mem_cons_of_mem _ hy)
    obtain ⟨hread, hgiven⟩ := mem_of_items hlater
    have hhead : a ∉ later ↔ ∀ y ∈ rest, ¬ related x y := by
      constructor
      · intro hnot y hy hxy
        obtain ⟨b, hb, hyb⟩ := hgiven (write y) (List.mem_map_of_mem hy)
        obtain rfl := (hfirst y hy a b ha hyb).mpr hxy
        exact hnot hb
      · intro hnot hmem
        obtain ⟨_, hv, hva⟩ := hread a hmem
        obtain ⟨y, hy, rfl⟩ := List.mem_map.mp hv
        exact hnot y hy ((hfirst y hy a a ha hva).mp rfl)
    rw [List.nodup_cons, List.pairwise_cons, hhead, htail]

end Reading

end CloudProvider
