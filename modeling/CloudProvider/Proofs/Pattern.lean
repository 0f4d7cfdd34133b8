import CloudProvider.Schema.Validation

/-!
# Texts that fit patterns

What is known of a text that fits a pattern.

* `Pattern.Matches`: the characters that a pattern stands for, assertions aside.
* `Pattern.matches_of_reach`: what lies between a place and one that it leads to is matched.
* `Pattern.Passes`: the pattern passes one character of each class, in turn.
* `Pattern.ToEnd`: the pattern leads to the end of the text only.
* `fits_of_occursIn`: a text that fits such a pattern from its start has one character of each class.
-/

namespace CloudProvider
set_option autoImplicit false

namespace CharClass

/-- The characters are one of each class, in turn. -/
def Fits : List CharClass → List Char → Prop
  | [], [] => True
  | k :: ks, c :: cs => k.has c = true ∧ Fits ks cs
  | _, _ => False

theorem Fits.append {ks ls : List CharClass} {cs ds : List Char} (hks : Fits ks cs)
    (hls : Fits ls ds) : Fits (ks ++ ls) (cs ++ ds) := by
  induction ks generalizing cs with
  | nil =>
    cases cs with
    | nil => exact hls
    | cons c cs => exact hks.elim
  | cons k ks ih =>
    cases cs with
    | nil => exact hks.elim
    | cons c cs => exact ⟨hks.1, ih hks.2⟩

end CharClass

namespace Pattern

/-! ## Matched characters -/

/-- The characters that a pattern stands for, assertions aside. -/
inductive Matches : Pattern → List Char → Prop where
  | empty : Matches .empty []
  | char {k : CharClass} {c : Char} (h : k.has c = true) : Matches (.char k) [c]
  | assert (a : Assertion) : Matches (.assert a) []
  | seq {p q : Pattern} {cs ds : List Char} (hp : Matches p cs) (hq : Matches q ds) :
    Matches (.seq p q) (cs ++ ds)
  | left {p q : Pattern} {cs : List Char} (h : Matches p cs) : Matches (.alt p q) cs
  | right {p q : Pattern} {cs : List Char} (h : Matches q cs) : Matches (.alt p q) cs
  | stop (p : Pattern) : Matches (.star p) []
  | again {p : Pattern} {cs ds : List Char} (h : Matches (.star p) cs) (hp : Matches p ds) :
    Matches (.star p) (cs ++ ds)

/-- The place lies behind one of these, with such characters between them. -/
def Behind (language : List Char → Prop) (spots : List Spot) (t : Spot) : Prop :=
  ∃ s ∈ spots, ∃ cs, s.after = cs ++ t.after ∧ language cs

theorem mem_join {seen more : List Spot} {t : Spot} (h : t ∈ join seen more) : t ∈ seen ∨ t ∈ more := by
  induction more generalizing seen with
  | nil => exact .inl h
  | cons s rest ih =>
    rw [join, List.foldl_cons] at h
    rcases ih h with hseen | hrest
    · split at hseen
      · exact .inl hseen
      · rcases List.mem_append.mp hseen with hseen | hs
        · exact .inl hseen
        · exact .inr (List.mem_cons.mpr (.inl (List.mem_singleton.mp hs)))
    · exact .inr (List.mem_cons_of_mem _ hrest)

/-- What holds of the places that repeating starts from, and is kept by a step, holds of all that are
reached. -/
theorem repeated_induction {P : Spot → Prop} {step : List Spot → List Spot}
    (hstep : ∀ front, (∀ s ∈ front, P s) → ∀ t ∈ step front, P t) (fuel : Nat) {seen front : List Spot}
    (hseen : ∀ s ∈ seen, P s) (hfront : ∀ s ∈ front, P s) : ∀ t ∈ repeated step fuel seen front, P t := by
  induction fuel generalizing seen front with
  | zero => exact hseen
  | succ fuel ih =>
    rw [repeated]
    have hfresh : ∀ t ∈ (step front).filter fun s => !seen.any (·.index == s.index), P t :=
      fun t ht => hstep front hfront t (List.mem_filter.mp ht).1
    split
    · exact hseen
    · refine ih (fun t ht => ?_) hfresh
      exact (mem_join ht).elim (hseen t) (hfresh t)

theorem matches_of_reach (p : Pattern) (spots : List Spot) :
    ∀ t ∈ p.reach spots, Behind p.Matches spots t := by
  induction p generalizing spots with
  | empty => exact fun t ht => ⟨t, ht, [], rfl, .empty⟩
  | char k =>
    intro t ht
    obtain ⟨s, hs, hstep⟩ := List.mem_filterMap.mp ht
    refine ⟨s, hs, ?_⟩
    split at hstep
    · cases hstep
    · next c rest hafter =>
      split at hstep
      · next hk =>
        obtain rfl := Option.some.inj hstep
        exact ⟨[c], hafter, .char hk⟩
      · cases hstep
  | assert a => exact fun t ht => ⟨t, (List.mem_filter.mp ht).1, [], rfl, .assert a⟩
  | seq p q ihp ihq =>
    intro t ht
    obtain ⟨s, hs, ds, hds, hq⟩ := ihq (p.reach spots) t ht
    obtain ⟨r, hr, cs, hcs, hp⟩ := ihp spots s hs
    exact ⟨r, hr, cs ++ ds, by rw [hcs, hds, List.append_assoc], .seq hp hq⟩
  | alt p q ihp ihq =>
    intro t ht
    rcases mem_join ht with ht | ht
    · obtain ⟨s, hs, cs, hcs, hp⟩ := ihp spots t ht
      exact ⟨s, hs, cs, hcs, .left hp⟩
    · obtain ⟨s, hs, cs, hcs, hq⟩ := ihq spots t ht
      exact ⟨s, hs, cs, hcs, .right hq⟩
  | star p ih =>
    -- Every place that the loop has seen lies behind a start, with repeated matches between them.
    have hstart : ∀ s ∈ spots, Behind (star p).Matches spots s := fun s hs => ⟨s, hs, [], rfl, .stop p⟩
    refine repeated_induction (fun front hfront t ht => ?_) _ hstart hstart
    obtain ⟨s, hs, ds, hds, hp⟩ := ih front t ht
    obtain ⟨r, hr, cs, hcs, hstar⟩ := hfront s hs
    exact ⟨r, hr, cs ++ ds, by rw [hcs, hds, List.append_assoc], .again hstar hp⟩

/-! ## Characters of given classes -/

variable {p q : Pattern} {ks ls : List CharClass}

/-- The pattern passes one character of each class, in turn. -/
def Passes (p : Pattern) (ks : List CharClass) : Prop :=
  ∀ spots, ∀ t ∈ p.reach spots, ∃ s ∈ spots, ∃ cs, s.after = cs ++ t.after ∧ CharClass.Fits ks cs

theorem passes_empty : empty.Passes [] :=
  fun _ t ht => ⟨t, ht, [], rfl, trivial⟩

theorem passes_assert (a : Assertion) : (assert a).Passes [] :=
  fun _ t ht => ⟨t, (List.mem_filter.mp ht).1, [], rfl, trivial⟩

theorem passes_char (k : CharClass) : (char k).Passes [k] := by
  intro spots t ht
  obtain ⟨s, hs, hstep⟩ := List.mem_filterMap.mp ht
  refine ⟨s, hs, ?_⟩
  split at hstep
  · cases hstep
  · next c rest hafter =>
    split at hstep
    · next hk =>
      obtain rfl := Option.some.inj hstep
      exact ⟨[c], hafter, hk, trivial⟩
    · cases hstep

theorem Passes.seq (hp : p.Passes ks) (hq : q.Passes ls) : (seq p q).Passes (ks ++ ls) := by
  intro spots t ht
  obtain ⟨s, hs, cs, hcs, hfits⟩ := hq (p.reach spots) t ht
  obtain ⟨r, hr, ds, hds, hfits'⟩ := hp spots s hs
  exact ⟨r, hr, ds ++ cs, by rw [hds, hcs, List.append_assoc], hfits'.append hfits⟩

/-- The pattern leads to the end of the text only. -/
def ToEnd (p : Pattern) : Prop :=
  ∀ spots, ∀ t ∈ p.reach spots, t.after = []

theorem toEnd_textEnd : (assert .textEnd).ToEnd := by
  intro spots t ht
  simpa [Spot.satisfies] using (List.mem_filter.mp ht).2

theorem ToEnd.seq (p : Pattern) (hq : q.ToEnd) : (seq p q).ToEnd :=
  fun spots => hq (p.reach spots)

theorem eq_of_mem_allFrom {i : Nat} {before : Option Char} {cs : List Char} {s : Spot}
    (hs : s ∈ Spot.allFrom i before cs) (hbefore : s.before = none) : s.after = cs := by
  induction cs generalizing i before with
  | nil =>
    obtain rfl := List.mem_singleton.mp hs
    rfl
  | cons c rest ih =>
    rcases List.mem_cons.mp hs with rfl | hs
    · rfl
    · -- Behind the first place there is a character before each place.
      have hsome : ∀ (i : Nat) (d : Char) (ds : List Char), ∀ s ∈ Spot.allFrom i (some d) ds,
          s.before ≠ none := by
        intro i d ds
        induction ds generalizing i d with
        | nil => simp [Spot.allFrom]
        | cons e es ihs =>
          intro s hs
          rcases List.mem_cons.mp hs with rfl | hs
          · simp
          · exact ihs _ _ s hs
      exact absurd hbefore (hsome _ _ _ s hs)

/-- A text in which a pattern occurs that goes from its start to its end belongs to every language that
the pattern stays in. -/
theorem language_of_occursIn {text : String} {language : List Char → Prop}
    (hp : ∀ spots, ∀ t ∈ p.reach spots, Behind language spots t) (hend : p.ToEnd)
    (h : (seq (assert .textStart) p).occursIn text = true) : language text.toList := by
  simp only [occursIn, Bool.not_eq_true', List.isEmpty_eq_false_iff_exists_mem] at h
  obtain ⟨t, ht⟩ := h
  obtain ⟨s, hs, cs, hcs, hlanguage⟩ := hp _ t ht
  obtain ⟨hall, hstart⟩ := List.mem_filter.mp hs
  have hafter := eq_of_mem_allFrom hall (by simpa [Spot.satisfies] using hstart)
  rw [hend _ t ht, List.append_nil, hafter] at hcs
  rwa [hcs]

theorem fits_of_occursIn {text : String} (hp : p.Passes ks) (hend : p.ToEnd)
    (h : (seq (assert .textStart) p).occursIn text = true) : CharClass.Fits ks text.toList :=
  language_of_occursIn hp hend h

theorem occursIn_of_checkPattern {pattern text : String} (hp : parse pattern = .ok p)
    (h : Validation.checkPattern pattern text = none) : p.occursIn text = true := by
  rw [Validation.checkPattern, hp] at h
  dsimp only at h
  split at h
  · assumption
  · cases h

theorem matches_of_occursIn {text : String} (hend : p.ToEnd)
    (h : (seq (assert .textStart) p).occursIn text = true) : p.Matches text.toList :=
  language_of_occursIn p.matches_of_reach hend h

end Pattern

end CloudProvider
