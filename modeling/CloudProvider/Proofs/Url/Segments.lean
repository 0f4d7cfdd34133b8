import CloudProvider.Proofs.Url.Encode
import CloudProvider.Url.Basic
import Mathlib.Data.List.Induction

/-!
# Segments that are added to a path

Most segments become one component of the path, which stands for the segment. A dot and two dots add
nothing, some characters are left out, and what is one or two dots without them leads to the path itself
or to the level above.

* `Url.root`: the path to which segments are added.
* `Url.Plain`: a segment that becomes one component.
* `Url.Spells`: components that stand for segments, one for each.
* `Url.root_foldl_of_plain`, `Url.plain_of_spells`: paths spell plain segments, and no others.
* `Url.Addresses`, `Url.addresses_extend`: a path with one component for each segment behind a base.
* `Url.extend_dot`, `Url.extend_dropped`, `Url.extend_level`, `Url.extend_above`: what other segments
  address.
-/

namespace CloudProvider.Url
set_option autoImplicit false

/-- The path to which segments are added: the root has none. -/
def root (path : List (List Char)) : List (List Char) :=
  if path = [[]] then [] else path

/-- The component that a plain segment becomes. -/
def component (special : Bool) (segment : String) : List Char :=
  encode (inSegment special) segment.toList

variable {special : Bool} {path front : List (List Char)} {segment : String} {last : List Char}

/-! ## Roots -/

theorem push_eq (path : List (List Char)) (last : List Char) : push path last = root path ++ [last] := by
  rw [push, root]
  split <;> rfl

theorem root_concat (hlast : last ≠ []) (front : List (List Char)) :
    root (front ++ [last]) = front ++ [last] := by
  refine if_neg fun heq => ?_
  obtain ⟨-, hnil⟩ := List.append_inj' (heq.trans (List.nil_append [[]]).symm) rfl
  exact hlast (List.singleton_inj.mp hnil)

theorem eq_of_root {path' : List (List Char)} (h : root path = path') (hne : path' ≠ []) :
    path = path' := by
  rw [root] at h
  split at h
  · exact absurd h.symm hne
  · exact h

theorem length_root_le (path : List (List Char)) : (root path).length ≤ path.length := by
  rw [root]
  split
  · exact Nat.zero_le _
  · exact Nat.le_refl _

theorem length_le_root (path : List (List Char)) : path.length ≤ (root path).length + 1 := by
  rw [root]
  split
  · next hroot => simp [hroot]
  · exact Nat.le_succ _

/-- A path that ends with an empty segment does not end with anything else, even without its root. -/
theorem root_concat_nil (hlast : last ≠ []) (path : List (List Char)) :
    root (path ++ [[]]) ≠ front ++ [last] := by
  intro heq
  have hpath := eq_of_root heq (by simp)
  exact hlast (List.singleton_inj.mp (List.append_inj' hpath rfl).2).symm

/-! ## Plain segments -/

/-- The segment is not empty, not one or two dots, and has no characters that do not count. -/
def Plain (segment : String) : Prop :=
  segment ≠ "" ∧ segment ≠ "." ∧ segment ≠ ".." ∧ ∀ c ∈ segment.toList, isDropped c = false

instance (segment : String) : Decidable (Plain segment) :=
  have : Decidable (∀ c ∈ segment.toList, isDropped c = false) := List.decidableBAll _ _
  inferInstanceAs (Decidable (_ ∧ _ ∧ _ ∧ _))

/-- The component is not empty, has no character that ends a component, and stands for the segment. -/
structure Component (segment : String) (component : List Char) : Prop where
  nonempty : component ≠ []
  free : ∀ d ∈ ['/', '?', '#'], d ∉ component
  decodes : decode component = Text.utf8OfText segment.toList

theorem Plain.filter_eq (h : Plain segment) :
    segment.toList.filter (!isDropped ·) = segment.toList :=
  List.filter_eq_self.mpr fun c hc => by simp [h.2.2.2 c hc]

theorem Plain.toList_ne (h : Plain segment) :
    segment.toList ≠ ['.'] ∧ segment.toList ≠ ['.', '.'] :=
  ⟨fun heq => h.2.1 (String.toList_inj.mp heq), fun heq => h.2.2.1 (String.toList_inj.mp heq)⟩

theorem addSegment_of_plain (h : Plain segment) (path : List (List Char)) :
    addSegment special path segment = push path (component special segment) := by
  simp [addSegment, component, h.2.1, h.2.2.1, h.filter_eq, h.toList_ne]

theorem component_of_plain (h : Plain segment) : Component segment (component special segment) where
  nonempty := encode_ne_nil (by cases special <;> rfl) fun hnil => h.1 (String.toList_inj.mp hnil)
  free d hd := by
    refine free_of_encode hd ?_ _
    simp only [List.mem_cons, List.not_mem_nil, or_false] at hd
    rcases hd with rfl | rfl | rfl <;> cases special <;> rfl
  decodes := decode_encode (by cases special <;> rfl) _

theorem root_addSegment_of_plain (h : Plain segment) (path : List (List Char)) :
    root (addSegment special path segment) = root path ++ [component special segment] := by
  rw [addSegment_of_plain h, push_eq, root_concat (component_of_plain h).nonempty]

/-! ## One segment -/

/-- What becomes of a segment, whatever it is. Only a component that is pushed may stand for it. -/
theorem addSegment_cases (special : Bool) (path : List (List Char)) (segment : String) :
    addSegment special path segment = path ∨
      (∃ path', addSegment special path segment = path' ++ [[]] ∧
        path'.length ≤ (root path).length) ∨
      segment ≠ "." ∧ segment ≠ ".." ∧ addSegment special path segment =
        push path (encode (inSegment special) (segment.toList.filter (!isDropped ·))) := by
  unfold addSegment
  split
  · exact .inl rfl
  · next hdots =>
    simp only [Bool.or_eq_true, decide_eq_true_eq, not_or] at hdots
    dsimp only
    split
    · exact .inr (.inl ⟨root path, push_eq path [], Nat.le_refl _⟩)
    · split
      · refine .inr (.inl ⟨path.dropLast, rfl, ?_⟩)
        have hlength := length_le_root path
        rw [List.length_dropLast]
        omega
      · exact .inr (.inr ⟨hdots.1, hdots.2, rfl⟩)

variable (special) in
theorem length_root_addSegment_le (path : List (List Char)) (segment : String) :
    (root (addSegment special path segment)).length ≤ (root path).length + 1 := by
  rcases addSegment_cases special path segment with heq | ⟨path', heq, hlength⟩ | ⟨-, -, heq⟩
  · rw [heq]
    exact Nat.le_succ _
  · have hroot := length_root_le (path' ++ [[]])
    rw [List.length_append, List.length_singleton] at hroot
    rw [heq]
    omega
  · rw [heq, push_eq]
    exact Nat.le_trans (length_root_le _) (by simp)

/-- A segment that adds a component that stands for it is plain. -/
theorem plain_of_addSegment (hlength : (root path).length ≤ front.length)
    (hroot : root (addSegment special path segment) = front ++ [last]) (h : Component segment last) :
    Plain segment ∧ root path = front := by
  rcases addSegment_cases special path segment with heq | ⟨path', heq, -⟩ | ⟨hdot, hdots, heq⟩
  · rw [heq] at hroot
    rw [hroot, List.length_append, List.length_singleton] at hlength
    omega
  · rw [heq] at hroot
    exact absurd hroot (root_concat_nil h.nonempty _)
  · rw [heq, push_eq] at hroot
    obtain ⟨hfront, hlast⟩ := List.append_inj' (eq_of_root hroot (by simp)) rfl
    refine ⟨?_, hfront⟩
    obtain rfl := List.singleton_inj.mp hlast
    have hkept := keep_of_utf8 ((decode_encode (by cases special <;> rfl) _).symm.trans h.decodes)
    refine ⟨?_, hdot, hdots, fun c hc => by simpa using hkept c hc⟩
    rintro rfl
    exact h.nonempty rfl

/-! ## Paths that spell segments -/

/-- The components stand for the segments, one for each. -/
def Spells : List String → List (List Char) → Prop
  | [], [] => True
  | segment :: segments, component :: components => Component segment component ∧ Spells segments components
  | _, _ => False

theorem Spells.length {segments : List String} {components : List (List Char)}
    (h : Spells segments components) : components.length = segments.length := by
  induction segments generalizing components with
  | nil =>
    cases components with
    | nil => rfl
    | cons => exact h.elim
  | cons segment segments ih =>
    cases components with
    | nil => exact h.elim
    | cons component components => exact congrArg (· + 1) (ih h.2)

theorem Spells.of_plain {segments : List String} (h : ∀ segment ∈ segments, Plain segment) :
    Spells segments (segments.map (component special)) := by
  induction segments with
  | nil => trivial
  | cons segment segments ih =>
    obtain ⟨hsegment, hrest⟩ := List.forall_mem_cons.mp h
    exact ⟨component_of_plain hsegment, ih hrest⟩

theorem Spells.of_concat {segments : List String} {components : List (List Char)}
    (h : Spells (segments ++ [segment]) components) :
    ∃ front last, components = front ++ [last] ∧ Spells segments front ∧ Component segment last := by
  induction segments generalizing components with
  | nil =>
    match components, h with
    | [last], h => exact ⟨[], last, rfl, trivial, h.1⟩
  | cons first segments ih =>
    match components, h with
    | component :: components, h =>
      obtain ⟨front, last, rfl, hfront, hlast⟩ := ih h.2
      exact ⟨component :: front, last, rfl, ⟨h.1, hfront⟩, hlast⟩

variable (special) in
theorem root_foldl_of_plain {segments : List String} (h : ∀ segment ∈ segments, Plain segment)
    (path : List (List Char)) :
    root (segments.foldl (addSegment special) path) = root path ++ segments.map (component special) := by
  induction segments generalizing path with
  | nil => rw [List.map_nil, List.append_nil, List.foldl_nil]
  | cons segment segments ih =>
    obtain ⟨hsegment, hrest⟩ := List.forall_mem_cons.mp h
    rw [List.foldl_cons, ih hrest, root_addSegment_of_plain hsegment, List.map_cons, List.append_assoc]
    rfl

variable (special) in
theorem length_root_foldl_le (segments : List String) (path : List (List Char)) :
    (root (segments.foldl (addSegment special) path)).length ≤ (root path).length + segments.length := by
  induction segments generalizing path with
  | nil => exact Nat.le_refl _
  | cons segment segments ih =>
    have hfirst := length_root_addSegment_le special path segment
    have hrest := ih (addSegment special path segment)
    rw [List.foldl_cons, List.length_cons]
    omega

/-- Only plain segments are spelled behind a path. By induction from the last segment: each adds one
component at most, so that none of them can have added nothing or left the path again. -/
theorem plain_of_spells {segments : List String} {components : List (List Char)}
    (hroot : root (segments.foldl (addSegment special) path) = root path ++ components)
    (h : Spells segments components) : ∀ segment ∈ segments, Plain segment := by
  induction segments using List.reverseRecOn generalizing components with
  | nil => simp
  | append_singleton segments segment ih =>
    obtain ⟨front, last, rfl, hfront, hlast⟩ := h.of_concat
    rw [List.foldl_append, List.foldl_cons, List.foldl_nil, ← List.append_assoc] at hroot
    have hlength : (root (segments.foldl (addSegment special) path)).length ≤
        (root path ++ front).length := by
      rw [List.length_append, hfront.length]
      exact length_root_foldl_le special segments path
    obtain ⟨hplain, hrest⟩ := plain_of_addSegment hlength hroot hlast
    rw [List.forall_mem_append, List.forall_mem_singleton]
    exact ⟨ih hrest hfront, hplain⟩

/-! ## URLs -/

theorem extend_path {u : Url} (hpath : u.path = .segments path) (segments : List String) :
    (u.extend segments).path = .segments (segments.foldl (addSegment (isSpecial u.scheme)) path) := by
  rw [extend, hpath]

theorem extend_plain {u : Url} (hpath : u.path = .segments path) {segments : List String}
    (hne : segments ≠ []) (h : ∀ segment ∈ segments, Plain segment) :
    (u.extend segments).path =
      .segments (root path ++ segments.map (component (isSpecial u.scheme))) := by
  rw [extend_path hpath, eq_of_root (root_foldl_of_plain _ h path) (by simp [hne])]

/-- The path has one component for each segment behind the base, which stands for the segment. -/
def Addresses (base : List (List Char)) (segments : List String) (u : Url) : Prop :=
  ∃ components, u.path = .segments (base ++ components) ∧ Spells segments components

/-- A URL with more segments addresses them exactly if all of them are plain. -/
theorem addresses_extend {u : Url} (hpath : u.path = .segments path) {segments : List String}
    (hne : segments ≠ []) :
    Addresses (root path) segments (u.extend segments) ↔ ∀ segment ∈ segments, Plain segment := by
  constructor
  · rintro ⟨components, heq, hspells⟩
    rw [extend_path hpath] at heq
    have hroot : root (segments.foldl (addSegment (isSpecial u.scheme)) path) =
        root path ++ components := by
      rw [UrlPath.segments.inj heq]
      obtain ⟨segments, segment, rfl⟩ := (List.eq_nil_or_concat segments).resolve_left hne
      rw [List.concat_eq_append] at hspells
      obtain ⟨front, last, rfl, -, hlast⟩ := hspells.of_concat
      rw [← List.append_assoc, root_concat hlast.nonempty]
    exact plain_of_spells hroot hspells
  · intro h
    exact ⟨_, extend_plain hpath hne h, .of_plain h⟩

/-! ## Segments that are not plain -/

theorem extend_congr {u : Url} {segments : List String} {added : String}
    (h : ∀ special path, addSegment special (segments.foldl (addSegment special) path) segment =
      addSegment special (segments.foldl (addSegment special) path) added) :
    u.extend (segments ++ [segment]) = u.extend (segments ++ [added]) := by
  simp only [extend, List.foldl_append, List.foldl_cons, List.foldl_nil, h]

/-- A dot and two dots add nothing to a URL. -/
theorem extend_dot {u : Url} (hdot : segment = "." ∨ segment = "..") (segments : List String) :
    u.extend (segments ++ [segment]) = u.extend segments := by
  have hsame (path : List (List Char)) (special : Bool) : addSegment special path segment = path := by
    rcases hdot with rfl | rfl <;> rfl
  simp only [extend, List.foldl_append, List.foldl_cons, List.foldl_nil, hsame]

/-- A segment adds the same as the plain one that is left of it without the characters that do not
count. -/
theorem extend_dropped {u : Url} {left : String} (hleft : Plain left)
    (hsame : left.toList = segment.toList.filter (!isDropped ·)) (segments : List String) :
    u.extend (segments ++ [segment]) = u.extend (segments ++ [left]) := by
  have hdot : segment ≠ "." ∧ segment ≠ ".." := by
    refine ⟨?_, ?_⟩ <;> rintro rfl
    · exact hleft.toList_ne.1 hsame
    · exact hleft.toList_ne.2 hsame
  refine extend_congr fun special path => ?_
  rw [addSegment_of_plain hleft]
  simp [addSegment, component, hdot, ← hsame, hleft.toList_ne]

/-- A segment of which nothing or a dot is left adds an empty one. -/
theorem extend_level {u : Url} (hdot : segment ≠ ".")
    (hkept : segment.toList.filter (!isDropped ·) ∈ [[], ['.']]) (segments : List String) :
    u.extend (segments ++ [segment]) = u.extend (segments ++ [""]) := by
  have hdots : segment ≠ ".." := by
    rintro rfl
    revert hkept
    decide
  refine extend_congr fun special path => ?_
  rw [show addSegment special _ "" = push _ [] from rfl]
  simp only [List.mem_cons, List.not_mem_nil, or_false] at hkept
  rcases hkept with hkept | hkept <;> simp [addSegment, hdot, hdots, hkept, encode]

/-- A segment of which two dots are left takes the one before it away. -/
theorem extend_above {u : Url} (hdots : segment ≠ "..")
    (hkept : segment.toList.filter (!isDropped ·) = ['.', '.']) {name : String} (hname : Plain name)
    (segments : List String) :
    u.extend (segments ++ [name] ++ [segment]) = u.extend (segments ++ [""]) := by
  have hdot : segment ≠ "." := by
    rintro rfl
    revert hkept
    decide
  have habove (special : Bool) (path : List (List Char)) :
      addSegment special (addSegment special path name) segment = addSegment special path "" := by
    rw [show addSegment special path "" = push path [] from rfl, addSegment_of_plain hname, push_eq,
      push_eq]
    simp [addSegment, hdot, hdots, hkept, climb]
  simp only [extend, List.foldl_append, List.foldl_cons, List.foldl_nil, habove]

example : ((parse "https://api.test/clusters/c/pools").toOption.map fun u => (u.extend [".\t."]).text) =
    some "https://api.test/clusters/c/" := by
  decide +kernel

end CloudProvider.Url
