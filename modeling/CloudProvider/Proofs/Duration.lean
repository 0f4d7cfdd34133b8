import CloudProvider.Duration
import CloudProvider.Proofs.TimeOfDay

/-!
# Durations that fit their pattern

The pattern of durations and the parser describe the same texts, but for two things: the pattern allows
decimal digits of every script, and the parser has a limit for each number and for their sum.

* `Duration.Part`: a run of digits and the unit behind it.
* `Duration.parts_of_matches`: a text that fits the pattern consists of such parts.
* `Duration.parse_parts`: what is read of parts with ASCII digits.
* `Duration.InRange`, `Duration.parse_iff_inRange`: a text that fits is read exactly if its numbers and
  their sum are within the limits.
-/

namespace CloudProvider
set_option autoImplicit false

namespace Text

theorem isDecimalDigit_of_isDigit {c : Char} (h : isDigit c = true) : isDecimalDigit c = true := by
  simp only [isDigit, Bool.and_eq_true, decide_eq_true_eq, Char.le_def, UInt32.le_iff_toNat_le] at h
  exact (Ranges.has_iff _ _).mpr ⟨(0x30, 0x39), List.mem_cons_self .., h⟩

theorem trim_of_not_blank {s : String} (h : ∀ c ∈ s.toList, isBlank c = false) : trim s = s := by
  have hkeep (cs : List Char) (hcs : ∀ c ∈ cs, isBlank c = false) : cs.dropWhile isBlank = cs := by
    cases cs with
    | nil => rfl
    | cons c rest => rw [List.dropWhile_cons, hcs c (List.mem_cons_self ..)]; rfl
  rw [trim, trimStart, hkeep _ h, trimEnd, hkeep _ fun c hc => h c (List.mem_reverse.mp hc),
    List.reverse_reverse, String.ofList_toList]

end Text

def TimeUnit.letters : TimeUnit → List Char
  | hour => ['h']
  | minute => ['m']
  | second => ['s']
  | millisecond => ['m', 's']

namespace Duration

/-- A run of digits and the unit behind it. -/
structure Part where
  digits : List Char
  unit : TimeUnit

namespace Part

def chars (p : Part) : List Char := p.digits ++ p.unit.letters

def count (p : Part) : Nat := Text.natOfDigits 0 p.digits

def component (p : Part) : Component := ⟨p.count, p.unit⟩

/-- There are digits, of whatever script. -/
def Decimal (p : Part) : Prop :=
  p.digits ≠ [] ∧ ∀ c ∈ p.digits, Text.isDecimalDigit c = true

end Part

def charsOf (parts : List Part) : List Char := parts.flatMap Part.chars

def totalOf (parts : List Part) : Nat := total (parts.map Part.component)

/-- Each number and the sum of all parts fit 64 bits, the sum in milliseconds. -/
def Fits (parts : List Part) : Prop :=
  (∀ p ∈ parts, p.count < UInt64.size) ∧ totalOf parts < UInt64.size

instance (parts : List Part) : Decidable (Fits parts) :=
  inferInstanceAs (Decidable (_ ∧ _))

/-! ## The pattern -/

open Pattern

def digitPattern : Pattern := char .digit

def digitsPattern : Pattern := seq digitPattern (star digitPattern)

def letterPattern (c : Char) : Pattern := char (.single c)

def unitPattern : Pattern :=
  alt (letterPattern 'h')
    (alt (seq (letterPattern 'm') (letterPattern 's')) (alt (letterPattern 'm') (letterPattern 's')))

def partPattern : Pattern := seq digitsPattern unitPattern

theorem digits_of_matches {cs : List Char} (h : Matches digitsPattern cs) :
    cs ≠ [] ∧ ∀ c ∈ cs, Text.isDecimalDigit c = true := by
  have hmore {cs : List Char} (h : Matches (.star digitPattern) cs) :
      ∀ c ∈ cs, Text.isDecimalDigit c = true := by
    generalize hp : star digitPattern = p at h
    induction h with
    | stop p => simp
    | again hs hd ihs ihd =>
      obtain rfl := star.inj hp
      intro c hc
      rcases List.mem_append.mp hc with hc | hc
      · exact ihs rfl c hc
      · cases hd with
        | char hk =>
          obtain rfl := List.mem_singleton.mp hc
          exact hk
    | _ => cases hp
  cases h with
  | seq hfirst hrest =>
    cases hfirst with
    | char hk => exact ⟨by simp, List.forall_mem_cons.mpr ⟨hk, hmore hrest⟩⟩

theorem letter_of_matches {k : Char} {cs : List Char} (h : Matches (letterPattern k) cs) : cs = [k] := by
  cases h with
  | @char _ c hk =>
    simp only [CharClass.single, CharClass.has, Bool.and_eq_true, decide_eq_true_eq] at hk
    rw [Char.le_antisymm hk.2 hk.1]

theorem unit_of_matches {cs : List Char} (h : Matches unitPattern cs) : ∃ u : TimeUnit, cs = u.letters := by
  cases h with
  | left h => exact ⟨.hour, letter_of_matches h⟩
  | right h =>
    cases h with
    | left h =>
      cases h with
      | seq hm hs =>
        obtain rfl := letter_of_matches hm
        obtain rfl := letter_of_matches hs
        exact ⟨.millisecond, rfl⟩
    | right h =>
      cases h with
      | left h => exact ⟨.minute, letter_of_matches h⟩
      | right h => exact ⟨.second, letter_of_matches h⟩

theorem part_of_matches {cs : List Char} (h : Matches partPattern cs) :
    ∃ p : Part, cs = p.chars ∧ p.Decimal := by
  cases h with
  | seq hdigits hunit =>
    obtain ⟨u, rfl⟩ := unit_of_matches hunit
    exact ⟨⟨_, u⟩, rfl, digits_of_matches hdigits⟩

theorem parts_of_matches {cs : List Char} (h : Matches (.star partPattern) cs) :
    ∃ parts, cs = charsOf parts ∧ ∀ p ∈ parts, p.Decimal := by
  generalize hp : star partPattern = q at h
  induction h with
  | stop q => exact ⟨[], rfl, by simp⟩
  | again hs hd ihs ihd =>
    obtain rfl := star.inj hp
    obtain ⟨parts, rfl, hparts⟩ := ihs rfl
    obtain ⟨p, rfl, hp⟩ := part_of_matches hd
    refine ⟨parts ++ [p], by simp [charsOf], fun r hr => ?_⟩
    rcases List.mem_append.mp hr with hr | hr
    · exact hparts r hr
    · obtain rfl := List.mem_singleton.mp hr
      exact hp
  | _ => cases hp

theorem parse_durationPattern : Pattern.parse Validation.durationPattern =
    .ok (seq (.assert .textStart) (seq (seq partPattern (star partPattern)) (.assert .textEnd))) := by
  rfl

theorem check_duration (text : String) : Validation.duration.check (.string text) =
    Validation.checkPattern Validation.durationPattern text :=
  rfl

theorem parts_of_accepted {text : String} (h : Validation.duration.check (.string text) = none) :
    ∃ parts, parts ≠ [] ∧ text.toList = charsOf parts ∧ ∀ p ∈ parts, p.Decimal := by
  rw [check_duration] at h
  have hoccurs := occursIn_of_checkPattern parse_durationPattern h
  have hmatches := matches_of_occursIn (toEnd_textEnd.seq _) hoccurs
  generalize text.toList = cs at hmatches
  cases hmatches with
  | seq hbody hend =>
    cases hend with
    | assert =>
      cases hbody with
      | seq hfirst hrest =>
        obtain ⟨p, rfl, hp⟩ := part_of_matches hfirst
        obtain ⟨parts, rfl, hparts⟩ := parts_of_matches hrest
        exact ⟨p :: parts, by simp, by simp [charsOf], List.forall_mem_cons.mpr ⟨hp, hparts⟩⟩

/-! ## The parser -/

/-- There are digits, of the kind that numbers are read from. -/
def Part.Plain (p : Part) : Prop :=
  p.digits ≠ [] ∧ ∀ c ∈ p.digits, Text.isDigit c = true

theorem componentsFrom_digits {before digits rest : List Char}
    (h : ∀ c ∈ digits, Text.isDigit c = true) :
    componentsFrom before (digits ++ rest) = componentsFrom (before ++ digits) rest := by
  induction digits generalizing before with
  | nil => rw [List.append_nil, List.nil_append]
  | cons c cs ih =>
    obtain ⟨hc, hcs⟩ := List.forall_mem_cons.mp h
    have hm : c ≠ 'm' := by
      rintro rfl
      cases hc
    rw [List.cons_append, componentsFrom, if_pos hc, ih hcs, List.append_assoc]
    · rfl
    · rintro tail rfl
      exact absurd rfl hm

theorem componentsFrom_unit (digits : List Char) (u : TimeUnit) {rest : List Char}
    (h : rest.head? ≠ some 's') :
    componentsFrom digits (u.letters ++ rest) = withCount digits u (componentsFrom [] rest) := by
  cases u with
  | hour => rfl
  | second => rfl
  | millisecond => rfl
  | minute =>
    change componentsFrom digits ('m' :: rest) = _
    rw [componentsFrom]
    · rfl
    · rintro tail - rfl
      exact h rfl

theorem head_charsOf {parts : List Part} (h : ∀ p ∈ parts, p.Plain) {c : Char}
    (hc : (charsOf parts).head? = some c) : Text.isDigit c = true := by
  cases parts with
  | nil => cases hc
  | cons p rest =>
    obtain ⟨hne, hdigits⟩ := h p (List.mem_cons_self ..)
    obtain ⟨d, ds, hds⟩ := List.exists_cons_of_ne_nil hne
    have hd : c = d := by
      simpa [charsOf, Part.chars, hds] using hc.symm
    exact hd ▸ hdigits d (hds ▸ List.mem_cons_self ..)

theorem readCount?_eq {p : Part} (h : p.Plain) :
    readCount? p.digits = if p.count < UInt64.size then some p.count else none := by
  have hread : Text.readNat? p.digits = some p.count := by
    rw [Text.readNat?, if_pos]
    · rfl
    · simpa [List.isEmpty_iff] using (⟨h.1, h.2⟩ : p.digits ≠ [] ∧ _)
  rw [readCount?, hread, Option.filter_some]
  simp

/-- Parts are read as they are, up to the first whose number is too large. -/
theorem components_charsOf {parts : List Part} (h : ∀ p ∈ parts, p.Plain) :
    if ∀ p ∈ parts, p.count < UInt64.size then
      components (charsOf parts) = (parts.map Part.component, true)
    else (components (charsOf parts)).2 = false := by
  induction parts with
  | nil => simp [charsOf, components, componentsFrom]
  | cons p rest ih =>
    obtain ⟨hp, hrest⟩ := List.forall_mem_cons.mp h
    -- The next part starts with a digit, so that no `m` before it is taken for `ms`.
    have hhead : (charsOf rest).head? ≠ some 's' := fun hs => by cases head_charsOf hrest hs
    have hread : components (charsOf (p :: rest)) =
        withCount p.digits p.unit (components (charsOf rest)) := by
      rw [components, charsOf, List.flatMap_cons, Part.chars, List.append_assoc,
        componentsFrom_digits hp.2, List.nil_append]
      exact componentsFrom_unit p.digits p.unit hhead
    rw [hread, withCount, readCount?_eq hp]
    by_cases hcount : p.count < UInt64.size
    · simp only [hcount, if_true, List.forall_mem_cons, true_and]
      split
      · next hall =>
        have hcomponents := ih hrest
        rw [if_pos hall] at hcomponents
        rw [hcomponents]
        rfl
      · next hnot =>
        have hfalse := ih hrest
        rwa [if_neg hnot] at hfalse
    · simp [hcount]

/-- No character of a part is blank, so that nothing is trimmed. -/
theorem isBlank_charsOf {parts : List Part} (h : ∀ p ∈ parts, p.Plain) :
    ∀ c ∈ charsOf parts, Text.isBlank c = false := by
  intro c hc
  obtain ⟨p, hp, hc⟩ := List.mem_flatMap.mp hc
  rcases List.mem_append.mp hc with hc | hc
  · exact Text.isBlank_of_isDecimalDigit (Text.isDecimalDigit_of_isDigit ((h p hp).2 c hc))
  · cases hu : p.unit <;> rw [hu] at hc <;>
      simp only [TimeUnit.letters, List.mem_cons, List.not_mem_nil, or_false] at hc
    case millisecond => rcases hc with rfl | rfl <;> rfl
    all_goals (subst hc; rfl)

theorem parse_trimmed {text : String} {parts : List Part} (hne : parts ≠ [])
    (htrim : (Text.trim text).toList = charsOf parts) (hplain : ∀ p ∈ parts, p.Plain) :
    if Fits parts then parse text = .ok (.ofMillis (totalOf parts))
    else ∃ reason, parse text = .error (.invalidConfig reason) := by
  have hcomponents := components_charsOf hplain
  by_cases hcounts : ∀ p ∈ parts, p.count < UInt64.size
  · rw [if_pos hcounts] at hcomponents
    have hsum : total (parts.map Part.component) = totalOf parts := rfl
    simp only [parse, htrim, hcomponents, hsum]
    by_cases htotal : totalOf parts < UInt64.size
    · have hempty : (parts.map Part.component).isEmpty = false := by simpa using hne
      rw [if_pos ⟨hcounts, htotal⟩, if_neg (Nat.not_le.mpr htotal), hempty]
      rfl
    · rw [if_neg fun hfits => htotal hfits.2, if_pos (Nat.le_of_not_lt htotal)]
      exact ⟨_, rfl⟩
  · rw [if_neg hcounts] at hcomponents
    rw [if_neg fun hfits => hcounts hfits.1]
    simp only [parse, htrim, hcomponents]
    split
    · exact ⟨_, rfl⟩
    · exact ⟨_, if_pos (Bool.or_true _)⟩

theorem parse_parts {text : String} {parts : List Part} (hne : parts ≠ [])
    (htext : text.toList = charsOf parts) (hplain : ∀ p ∈ parts, p.Plain) :
    if Fits parts then parse text = .ok (.ofMillis (totalOf parts))
    else ∃ reason, parse text = .error (.invalidConfig reason) := by
  have htrim : Text.trim text = text := Text.trim_of_not_blank (htext ▸ isBlank_charsOf hplain)
  exact parse_trimmed hne (htrim.symm ▸ htext) hplain

/-! ## Texts within the limits -/

/-- The decimal digits of the text are those that numbers are read from. -/
def AsciiDigits (text : String) : Prop :=
  ∀ c ∈ text.toList, Text.isDecimalDigit c = true → Text.isDigit c = true

/-- The text consists of numbers with units that fit, and so does their sum. -/
def InRange (text : String) : Prop :=
  ∃ parts, parts ≠ [] ∧ text.toList = charsOf parts ∧ (∀ p ∈ parts, p.Plain) ∧ Fits parts

theorem parse_of_inRange {text : String} (h : InRange text) : ∃ d, parse text = .ok d := by
  obtain ⟨parts, hne, htext, hplain, hfits⟩ := h
  have hparse := parse_parts hne htext hplain
  rw [if_pos hfits] at hparse
  exact ⟨_, hparse⟩

/-- A text that validation accepts, with ASCII digits, is read if it is in range, and refused if not. -/
theorem parse_accepted {text : String} (h : Validation.duration.check (.string text) = none)
    (hascii : AsciiDigits text) :
    (∃ d, parse text = .ok d) ∧ InRange text ∨
      (∃ reason, parse text = .error (.invalidConfig reason)) ∧ ¬ InRange text := by
  obtain ⟨parts, hne, htext, hdecimal⟩ := parts_of_accepted h
  have hplain : ∀ p ∈ parts, p.Plain := by
    intro p hp
    refine ⟨(hdecimal p hp).1, fun c hc => hascii c ?_ ((hdecimal p hp).2 c hc)⟩
    rw [htext]
    exact List.mem_flatMap.mpr ⟨p, hp, List.mem_append_left _ hc⟩
  have hparse := parse_parts hne htext hplain
  by_cases hfits : Fits parts
  · rw [if_pos hfits] at hparse
    exact .inl ⟨⟨_, hparse⟩, parts, hne, htext, hplain, hfits⟩
  · rw [if_neg hfits] at hparse
    obtain ⟨reason, hreason⟩ := hparse
    refine .inr ⟨⟨reason, hreason⟩, fun hrange => ?_⟩
    obtain ⟨d, hd⟩ := parse_of_inRange hrange
    cases hreason.symm.trans hd

theorem parse_iff_inRange {text : String} (h : Validation.duration.check (.string text) = none)
    (hascii : AsciiDigits text) : (∃ d, parse text = .ok d) ↔ InRange text := by
  refine ⟨fun ⟨d, hd⟩ => ?_, parse_of_inRange⟩
  rcases parse_accepted h hascii with ⟨-, hrange⟩ | ⟨⟨reason, hreason⟩, -⟩
  · exact hrange
  · cases hd.symm.trans hreason

theorem refused_of_not_inRange {text : String} (h : Validation.duration.check (.string text) = none)
    (hascii : AsciiDigits text) (hnot : ¬ InRange text) :
    ∃ reason, parse text = .error (.invalidConfig reason) := by
  rcases parse_accepted h hascii with ⟨-, hrange⟩ | ⟨hreason, -⟩
  · exact absurd hrange hnot
  · exact hreason

end Duration

end CloudProvider
