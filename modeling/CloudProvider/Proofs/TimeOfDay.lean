import CloudProvider.Proofs.Json.Decode
import CloudProvider.Proofs.Pattern
import CloudProvider.TimeOfDay

/-!
# Times in two digits each

A time that is written with two digits for each number is printed as it was written.

* `TimeOfDay.number_two`: reading a number that has two digits.
* `TimeOfDay.text_of_parse`: the text of a time in two digits each.
* `TimeOfDay.fits_clock`, `TimeOfDay.text_of_fits`: texts that fit the pattern of times are of this kind.
-/

namespace CloudProvider
set_option autoImplicit false

open Text

theorem Text.isBlank_of_isDecimalDigit {c : Char} (h : isDecimalDigit c = true) :
    isBlank c = false := by
  have hdisjoint : ∀ r ∈ decimalDigitRanges, ∀ q ∈ blankRanges, r.2 < q.1 ∨ q.2 < r.1 := by
    decide +kernel
  obtain ⟨r, hr, hlow, hhigh⟩ := (Ranges.has_iff _ _).mp h
  refine Bool.eq_false_iff.mpr fun hblank => ?_
  obtain ⟨q, hq, hlow', hhigh'⟩ := (Ranges.has_iff _ _).mp hblank
  rcases hdisjoint r hr q hq with hlt | hlt <;> omega

theorem Text.eq_ofNat_of_isDigit {c : Char} (h : isDigit c = true) :
    digitValue c < 10 ∧ c = Char.ofNat (48 + digitValue c) := by
  simp only [isDigit, Bool.and_eq_true, decide_eq_true_eq, Char.le_def, UInt32.le_iff_toNat_le] at h
  have hlow : 48 ≤ c.toNat := h.1
  have hhigh : c.toNat ≤ 57 := h.2
  refine ⟨by rw [digitValue]; omega, ?_⟩
  rw [digitValue, Nat.add_sub_cancel' hlow, Char.ofNat_toNat]

namespace TimeOfDay

theorem twoDigits_eq : ∀ m < 10, ∀ n < 10,
    (twoDigits (10 * m + n)).toList = [Char.ofNat (48 + m), Char.ofNat (48 + n)] := by
  decide +kernel

/-- Two decimal digits are read as a number that is written in the same way, or only the first of
them is read. -/
theorem number_two {bound : Nat} {a b : Char} {rest cs : List Char} {n : Fin bound}
    (ha : isDecimalDigit a = true) (h : number bound (a :: b :: rest) = .ok (n, cs)) :
    cs = b :: rest ∨ cs = rest ∧ (twoDigits n).toList = [a, b] := by
  have htrim : trimStart (a :: b :: rest) = a :: b :: rest := by
    rw [trimStart, List.dropWhile_cons, isBlank_of_isDecimalDigit ha]
    rfl
  have hnumber : ∃ m, digits (a :: b :: rest) = .ok (m, cs) ∧ n.val = m := by
    simp only [number, bind, Except.bind] at h
    split at h
    · cases h
    · next v hdigits =>
      split at h
      · obtain ⟨hn, hcs⟩ := Prod.mk.inj (Except.ok.inj h)
        exact ⟨v.1, hcs ▸ hdigits, (congrArg Fin.val hn).symm⟩
      · cases h
  obtain ⟨m, hdigits, hm⟩ := hnumber
  simp only [digits, htrim] at hdigits
  split at hdigits
  · next hdigit =>
    split at hdigits
    · next hdigit' =>
      obtain ⟨rfl, rfl⟩ := Prod.mk.inj (Except.ok.inj hdigits)
      obtain ⟨hlt, heq⟩ := eq_ofNat_of_isDigit hdigit
      obtain ⟨hlt', heq'⟩ := eq_ofNat_of_isDigit hdigit'
      refine .inr ⟨rfl, ?_⟩
      rw [hm, twoDigits_eq _ hlt _ hlt', ← heq, ← heq']
    · obtain ⟨-, rfl⟩ := Prod.mk.inj (Except.ok.inj hdigits)
      exact .inl rfl
  · cases hdigits

theorem number_of_bind {β : Type} {bound : Nat} {cs : List Char} {b : β}
    {f : Fin bound × List Char → Except Fault β} (h : (number bound cs >>= f) = .ok b) :
    ∃ n rest, number bound cs = .ok (n, rest) ∧ f (n, rest) = .ok b := by
  obtain ⟨⟨n, rest⟩, hnumber, hf⟩ := bind_ok.mp h
  exact ⟨n, rest, hnumber, hf⟩

theorem colon_of_bind {β : Type} {cs : List Char} {b : β} {f : List Char → Except Fault β}
    (h : (colon cs >>= f) = .ok b) : ∃ rest, cs = ':' :: rest ∧ f rest = .ok b := by
  obtain ⟨rest, hcolon, hf⟩ := bind_ok.mp h
  cases cs with
  | nil => cases hcolon
  | cons c cs =>
    simp only [colon] at hcolon
    split at hcolon
    · next hc =>
      obtain rfl := Except.ok.inj hcolon
      exact ⟨cs, by rw [hc], hf⟩
    · cases hcolon

theorem text_of_parse {s : String} {t : TimeOfDay} {a b c d e f : Char}
    (hs : s.toList = [a, b, ':', c, d, ':', e, f]) (ha : isDecimalDigit a = true)
    (hb : isDecimalDigit b = true) (hc : isDecimalDigit c = true) (hd : isDecimalDigit d = true)
    (he : isDecimalDigit e = true) (h : parse s = .ok t) : t.text = s := by
  have hcolon {x : Char} (hx : isDecimalDigit x = true) : x ≠ ':' := by
    rintro rfl
    revert hx
    decide
  rw [parse, hs] at h
  obtain ⟨hour, rest, hhour, h⟩ := number_of_bind h
  obtain ⟨rest', hrest, h⟩ := colon_of_bind h
  rcases number_two ha hhour with rfl | ⟨rfl, hab⟩
  · exact absurd (List.cons.inj hrest).1 (hcolon hb)
  obtain rfl := (List.cons.inj hrest).2
  obtain ⟨minute, rest, hminute, h⟩ := number_of_bind h
  obtain ⟨rest', hrest, h⟩ := colon_of_bind h
  rcases number_two hc hminute with rfl | ⟨rfl, hcd⟩
  · exact absurd (List.cons.inj hrest).1 (hcolon hd)
  obtain rfl := (List.cons.inj hrest).2
  obtain ⟨second, rest, hsecond, h⟩ := number_of_bind h
  rcases number_two he hsecond with rfl | ⟨rfl, hef⟩
  · cases h
  obtain rfl := Except.ok.inj h
  have htoString (u : String) : toString u = u := rfl
  refine String.toList_inj.mp ?_
  simp only [text, htoString, String.toList_append, hab, hcd, hef, hs]
  rfl

/-- The classes of the characters of a time. -/
def clock : List CharClass :=
  [.digit, .digit, .single ':', .digit, .digit, .single ':', .digit, .digit]

/-- The pattern of times. -/
def clockPattern : String := "^\\d\x7b2\x7d:\\d\x7b2\x7d:\\d\x7b2\x7d$"

theorem fits_clock {s : String} (h : Validation.checkPattern clockPattern s = none) :
    CharClass.Fits clock s.toList := by
  let pair : Pattern := .counted (.char .digit) 2 (some 2)
  let body : Pattern :=
    .seq pair (.seq (.char (.single ':')) (.seq pair (.seq (.char (.single ':'))
      (.seq pair (.assert .textEnd)))))
  have hparse : Pattern.parse clockPattern = .ok (.seq (.assert .textStart) body) := rfl
  have hpair : pair.Passes [.digit, .digit] :=
    ((Pattern.passes_char _).seq ((Pattern.passes_char _).seq Pattern.passes_empty)).seq
      Pattern.passes_empty
  have hbody : body.Passes clock :=
    hpair.seq ((Pattern.passes_char _).seq (hpair.seq ((Pattern.passes_char _).seq
      (hpair.seq (Pattern.passes_assert _)))))
  have hend : body.ToEnd := ((((Pattern.toEnd_textEnd.seq _).seq _).seq _).seq _).seq _
  exact Pattern.fits_of_occursIn hbody hend (Pattern.occursIn_of_checkPattern hparse h)

/-- A time that fits the pattern of times is printed as it was written. -/
theorem text_of_fits {s : String} {t : TimeOfDay} (hfits : CharClass.Fits clock s.toList)
    (h : parse s = .ok t) : t.text = s := by
  have hcolon {x : Char} (hx : CharClass.has (.single ':') x = true) : x = ':' := by
    simp only [CharClass.single, CharClass.has, Bool.and_eq_true, decide_eq_true_eq] at hx
    exact Char.le_antisymm hx.2 hx.1
  match hs : s.toList, hfits with
  | [a, b, x, c, d, y, e, f], ⟨ha, hb, hx, hc, hd, hy, he, _, _⟩ =>
    obtain rfl := hcolon hx
    obtain rfl := hcolon hy
    exact text_of_parse hs ha hb hc hd he h

end TimeOfDay

end CloudProvider
