import CloudProvider.Proofs.Duration

/-!
# The texts that stand for durations

A duration is written as parts, one after another, with blanks around them only.

* `Duration.Spells`: the parts that a text is written with.
* `Duration.charsOf_injective`: no text is written in two ways.
* `Duration.parts_of_componentsFrom`: the parts behind the components that are read.
* `Duration.parse_iff_spells`: the texts that are read, and what they stand for.
-/

namespace CloudProvider
set_option autoImplicit false

namespace Text

theorem dropWhile_blanks {blanks rest : List Char} (h : ∀ c ∈ blanks, isBlank c = true) :
    (blanks ++ rest).dropWhile isBlank = rest.dropWhile isBlank := by
  induction blanks with
  | nil => rfl
  | cons c cs ih =>
    obtain ⟨hc, hcs⟩ := List.forall_mem_cons.mp h
    rw [List.cons_append, List.dropWhile_cons, if_pos hc, ih hcs]

theorem dropWhile_of_not_blank {core rest : List Char} (hne : core ≠ [])
    (h : ∀ c ∈ core, isBlank c = false) : (core ++ rest).dropWhile isBlank = core ++ rest := by
  cases core with
  | nil => exact absurd rfl hne
  | cons c cs =>
    have hc := h c (List.mem_cons_self ..)
    rw [List.cons_append, List.dropWhile_cons, if_neg (by simp [hc])]

theorem trim_of_surrounded {s : String} {before core after : List Char} (hne : core ≠ [])
    (hcore : ∀ c ∈ core, isBlank c = false) (hbefore : ∀ c ∈ before, isBlank c = true)
    (hafter : ∀ c ∈ after, isBlank c = true) (hs : s.toList = before ++ core ++ after) :
    (trim s).toList = core := by
  have hstart : trimStart s.toList = core ++ after := by
    rw [trimStart, hs, List.append_assoc, dropWhile_blanks hbefore, dropWhile_of_not_blank hne hcore]
  have hend : trimEnd (core ++ after) = core := by
    have hblank : ∀ c ∈ after.reverse, isBlank c = true := by
      intro c hc
      exact hafter c (List.mem_reverse.mp hc)
    have hkeep : (core.reverse ++ []).dropWhile isBlank = core.reverse ++ [] := by
      apply dropWhile_of_not_blank (List.reverse_ne_nil_iff.mpr hne)
      intro c hc
      exact hcore c (List.mem_reverse.mp hc)
    rw [List.append_nil] at hkeep
    rw [trimEnd, List.reverse_append, dropWhile_blanks hblank, hkeep, List.reverse_reverse]
  rw [trim, hstart, hend, String.toList_ofList]

theorem surrounded_trim (s : String) : ∃ before after : List Char,
    (∀ c ∈ before, isBlank c = true) ∧ (∀ c ∈ after, isBlank c = true) ∧
      s.toList = before ++ (trim s).toList ++ after := by
  have hend (cs : List Char) : cs = trimEnd cs ++ (cs.reverse.takeWhile isBlank).reverse := by
    rw [trimEnd, ← List.reverse_append, List.takeWhile_append_dropWhile, List.reverse_reverse]
  have hblank (cs : List Char) : ∀ c ∈ cs.takeWhile isBlank, isBlank c = true :=
    List.all_eq_true.mp List.all_takeWhile
  refine ⟨s.toList.takeWhile isBlank, ((trimStart s.toList).reverse.takeWhile isBlank).reverse,
    hblank _, fun c hc => ?_, ?_⟩
  · exact hblank _ c (List.mem_reverse.mp hc)
  · rw [trim, String.toList_ofList, List.append_assoc, ← hend, trimStart,
      List.takeWhile_append_dropWhile]

end Text

namespace Duration

/-- The text consists of the parts, of which there is at least one, and of blanks around them. -/
structure Spells (text : String) (parts : List Part) : Prop where
  nonempty : parts ≠ []
  plain : ∀ p ∈ parts, p.Plain
  chars : ∃ before after : List Char, (∀ c ∈ before, Text.isBlank c = true) ∧
    (∀ c ∈ after, Text.isBlank c = true) ∧ text.toList = before ++ charsOf parts ++ after

theorem charsOf_cons (p : Part) (rest : List Part) :
    charsOf (p :: rest) = p.digits ++ (p.unit.letters ++ charsOf rest) := by
  rw [charsOf, List.flatMap_cons, Part.chars, List.append_assoc]
  rfl

theorem charsOf_ne_nil {parts : List Part} (hne : parts ≠ []) (h : ∀ p ∈ parts, p.Plain) :
    charsOf parts ≠ [] := by
  cases parts with
  | nil => exact absurd rfl hne
  | cons p rest =>
    have hdigits := (h p (List.mem_cons_self ..)).1
    rw [charsOf_cons]
    simp [hdigits]

theorem Spells.trim_eq {text : String} {parts : List Part} (h : Spells text parts) :
    (Text.trim text).toList = charsOf parts := by
  obtain ⟨before, after, hbefore, hafter, htext⟩ := h.chars
  exact Text.trim_of_surrounded (charsOf_ne_nil h.nonempty h.plain) (isBlank_charsOf h.plain)
    hbefore hafter htext

/-! ## One way to write a text -/

theorem letters_head (u : TimeUnit) (rest : List Char) :
    ∃ c more, u.letters ++ rest = c :: more ∧ Text.isDigit c = false := by
  cases u <;> exact ⟨_, _, rfl, rfl⟩

theorem takeWhile_digits {digits : List Char} (u : TimeUnit) (rest : List Char)
    (h : ∀ c ∈ digits, Text.isDigit c = true) :
    (digits ++ (u.letters ++ rest)).takeWhile Text.isDigit = digits := by
  obtain ⟨c, more, hletters, hc⟩ := letters_head u rest
  rw [hletters, List.takeWhile_append_of_pos h, List.takeWhile_cons, if_neg (by simp [hc]),
    List.append_nil]

/-- After the digits, `m` is a unit of its own only if no `s` follows. -/
theorem letters_injective {u u' : TimeUnit} {rest rest' : List Char} (hrest : rest.head? ≠ some 's')
    (hrest' : rest'.head? ≠ some 's') (h : u.letters ++ rest = u'.letters ++ rest') :
    u = u' ∧ rest = rest' := by
  cases u <;> cases u' <;> simp [TimeUnit.letters] at h ⊢
  case minute.millisecond => exact hrest (h ▸ rfl)
  case millisecond.minute => exact hrest' (h ▸ rfl)
  all_goals exact h

theorem charsOf_injective {parts parts' : List Part} (h : ∀ p ∈ parts, p.Plain)
    (h' : ∀ p ∈ parts', p.Plain) (hchars : charsOf parts = charsOf parts') : parts = parts' := by
  induction parts generalizing parts' with
  | nil =>
    cases parts' with
    | nil => rfl
    | cons q rest' => exact absurd hchars.symm (charsOf_ne_nil (List.cons_ne_nil q rest') h')
  | cons p rest ih =>
    cases parts' with
    | nil => exact absurd hchars (charsOf_ne_nil (List.cons_ne_nil p rest) h)
    | cons q rest' =>
      obtain ⟨hp, hrest⟩ := List.forall_mem_cons.mp h
      obtain ⟨hq, hrest'⟩ := List.forall_mem_cons.mp h'
      rw [charsOf_cons, charsOf_cons] at hchars
      have hdigits : p.digits = q.digits := by
        have htake := congrArg (List.takeWhile Text.isDigit) hchars
        rwa [takeWhile_digits _ _ hp.2, takeWhile_digits _ _ hq.2] at htake
      rw [hdigits] at hchars
      have hs (ps : List Part) (hps : ∀ p ∈ ps, p.Plain) : (charsOf ps).head? ≠ some 's' :=
        fun hs => by cases head_charsOf hps hs
      obtain ⟨hunit, hmore⟩ :=
        letters_injective (hs _ hrest) (hs _ hrest') (List.append_cancel_left hchars)
      have hpq : p = q := by
        cases p
        cases q
        simp_all
      rw [hpq, ih hrest hrest' hmore]

theorem Spells.unique {text : String} {parts parts' : List Part} (h : Spells text parts)
    (h' : Spells text parts') : parts = parts' :=
  charsOf_injective h.plain h'.plain (h.trim_eq.symm.trans h'.trim_eq)

/-! ## What is read -/

/-- The characters are those of parts, which are read as the components. -/
structure Reads (cs : List Char) (read : List Component) (parts : List Part) : Prop where
  chars : cs = charsOf parts
  plain : ∀ p ∈ parts, p.Plain
  counts : ∀ p ∈ parts, p.count < UInt64.size
  components : read = parts.map Part.component

theorem letters_of_ofLetter? {c : Char} {u : TimeUnit} (h : TimeUnit.ofLetter? c = some u) :
    u.letters = [c] := by
  unfold TimeUnit.ofLetter? at h
  split at h
  · cases h
    rfl
  · cases h
    rfl
  · cases h
    rfl
  · cases h

theorem plain_of_readCount? {digits : List Char} {count : Nat} (h : readCount? digits = some count) :
    (digits ≠ [] ∧ ∀ c ∈ digits, Text.isDigit c = true) ∧ Text.natOfDigits 0 digits = count ∧
      count < UInt64.size := by
  obtain ⟨hread, hsize⟩ := Option.filter_eq_some_iff.mp h
  unfold Text.readNat? at hread
  split at hread
  · next hdigits =>
    have hplain : digits ≠ [] ∧ ∀ c ∈ digits, Text.isDigit c = true := by
      simpa [List.isEmpty_iff] using hdigits
    exact ⟨hplain, Option.some.inj hread, by simpa using hsize⟩
  · cases hread

theorem reads_of_withCount {digits cs : List Char} {u : TimeUnit} {more : List Component × Bool}
    {read : List Component} (h : withCount digits u more = (read, true))
    (hmore : ∀ later, more = (later, true) → ∃ parts, Reads cs later parts) :
    ∃ parts, Reads (digits ++ (u.letters ++ cs)) read parts := by
  unfold withCount at h
  split at h
  · next count hcount =>
    obtain ⟨hread, hcomplete⟩ := Prod.mk.inj h
    obtain ⟨parts, hreads⟩ := hmore more.1 (Prod.ext rfl hcomplete)
    obtain ⟨hplain, hvalue, hsize⟩ := plain_of_readCount? hcount
    have hcount' : (Part.mk digits u).count = count := hvalue
    refine ⟨⟨digits, u⟩ :: parts, ?_, ?_, ?_, ?_⟩
    · rw [charsOf_cons, hreads.chars]
    · exact List.forall_mem_cons.mpr ⟨hplain, hreads.plain⟩
    · exact List.forall_mem_cons.mpr ⟨hcount'.symm ▸ hsize, hreads.counts⟩
    · rw [← hread, hreads.components, ← hcount']
      rfl
  · cases h

-- By recursion on the characters, the digits before them being kept aside.

theorem parts_of_componentsFrom (digits cs : List Char) : ∀ read : List Component,
    componentsFrom digits cs = (read, true) → ∃ parts, Reads (digits ++ cs) read parts := by
  fun_induction componentsFrom digits cs with
  | case1 digits =>
    intro read h
    obtain ⟨rfl, hempty⟩ := Prod.mk.inj h
    obtain rfl := List.isEmpty_iff.mp hempty
    exact ⟨[], rfl, by simp, by simp, rfl⟩
  | case2 digits rest ih =>
    intro read h
    exact reads_of_withCount (u := .millisecond) h ih
  | case3 digits c rest _ _ ih =>
    intro read h
    obtain ⟨parts, hreads⟩ := ih read h
    rw [List.append_assoc] at hreads
    exact ⟨parts, hreads⟩
  | case4 digits c rest _ _ u hu ih =>
    intro read h
    have hparts := reads_of_withCount h ih
    rwa [letters_of_ofLetter? hu] at hparts
  | case5 digits c rest =>
    intro read h
    cases h

/-! ## The texts that are read -/

theorem spells_of_parse {text : String} {d : Duration} (h : parse text = .ok d) :
    ∃ parts, Spells text parts ∧ Fits parts ∧ d = .ofMillis (totalOf parts) := by
  unfold parse at h
  dsimp only at h
  generalize hread : components (Text.trim text).toList = result at h
  obtain ⟨read, complete⟩ := result
  split at h
  · cases h
  · next hsize =>
    split at h
    · cases h
    · next hfault =>
      simp only [Bool.or_eq_true, List.isEmpty_iff, Bool.not_eq_true', not_or,
        Bool.not_eq_false] at hfault
      obtain ⟨hsome, rfl⟩ := hfault
      obtain ⟨parts, hreads⟩ := parts_of_componentsFrom [] _ _ hread
      have hchars := hreads.chars
      rw [List.nil_append] at hchars
      have hsum : total read = totalOf parts := by
        rw [hreads.components]
        rfl
      rw [hsum] at hsize h
      have hfits : Fits parts := ⟨hreads.counts, Nat.lt_of_not_le hsize⟩
      have hne : parts ≠ [] := by
        rintro rfl
        exact hsome hreads.components
      obtain ⟨before, after, hbefore, hafter, htext⟩ := Text.surrounded_trim text
      rw [hchars] at htext
      have hspells : Spells text parts :=
        ⟨hne, hreads.plain, before, after, hbefore, hafter, htext⟩
      exact ⟨parts, hspells, hfits, (Except.ok.inj h).symm⟩

theorem parse_of_spells {text : String} {parts : List Part} (h : Spells text parts) :
    if Fits parts then parse text = .ok (.ofMillis (totalOf parts))
    else ∃ reason, parse text = .error (.invalidConfig reason) :=
  parse_trimmed h.nonempty h.trim_eq h.plain

theorem invalidConfig_of_parse_error {text : String} {e : ProviderError}
    (h : parse text = .error e) : ∃ reason, e = .invalidConfig reason := by
  unfold parse at h
  dsimp only at h
  split at h
  · exact ⟨_, (Except.error.inj h).symm⟩
  · split at h
    · exact ⟨_, (Except.error.inj h).symm⟩
    · cases h

/-- A text is read exactly if it consists of numbers with units, each number and their sum within 64
bits. It consists of them in one way only, and stands for their sum. -/
theorem parse_iff_spells (text : String) :
    (∀ d, parse text = .ok d ↔
      ∃ parts, Spells text parts ∧ Fits parts ∧ d = .ofMillis (totalOf parts)) ∧
    (∀ parts parts', Spells text parts → Spells text parts' → parts = parts') ∧
    ((¬ ∃ parts, Spells text parts ∧ Fits parts) →
      ∃ reason, parse text = .error (.invalidConfig reason)) := by
  refine ⟨fun d => ⟨spells_of_parse, ?_⟩, fun parts parts' => Spells.unique, fun hnone => ?_⟩
  · rintro ⟨parts, hspells, hfits, rfl⟩
    have hparse := parse_of_spells hspells
    rwa [if_pos hfits] at hparse
  · cases hparse : parse text with
    | ok d =>
      obtain ⟨parts, hspells, hfits, -⟩ := spells_of_parse hparse
      exact absurd ⟨parts, hspells, hfits⟩ hnone
    | error e =>
      obtain ⟨reason, rfl⟩ := invalidConfig_of_parse_error hparse
      exact ⟨reason, rfl⟩

theorem parse_iff_spells_minute :
    Spells " 1m5ms\n" [⟨['1'], .minute⟩, ⟨['5'], .millisecond⟩] ∧
    Fits [⟨['1'], .minute⟩, ⟨['5'], .millisecond⟩] ∧
    parse " 1m5ms\n" = .ok (.ofMillis 60005) := by
  have hblank {c : Char} (h : Text.isBlank c = true) : ∀ d ∈ [c], Text.isBlank d = true :=
    List.forall_mem_singleton.mpr h
  have hspells : Spells " 1m5ms\n" [⟨['1'], .minute⟩, ⟨['5'], .millisecond⟩] :=
    ⟨by simp, by simp [Part.Plain, Text.isDigit], [' '], ['\n'], hblank rfl, hblank rfl, rfl⟩
  have hfits : Fits [⟨['1'], .minute⟩, ⟨['5'], .millisecond⟩] := by decide
  exact ⟨hspells, hfits, ((parse_iff_spells _).1 _).mpr ⟨_, hspells, hfits, rfl⟩⟩

end Duration

end CloudProvider
