import CloudProvider.Url.Encode

/-!
# Percent encoding and back

* `Url.decode_encode`: an encoded text stands for the bytes of the text, if percent signs are encoded.
* `Url.free_of_encode`: a character that is encoded does not occur in the encoded text.
* `Url.keep_of_utf8`: characters cannot be left out of a text without changing its bytes.
-/

namespace CloudProvider.Url
set_option autoImplicit false

/-! ## Digits -/

theorem hexValue?_hexDigit : ∀ n < 16, Address.hexValue? (hexDigit n) = some n := by
  decide

theorem hexDigit_not_mem : ∀ n < 16, hexDigit n ∉ ['/', '?', '#'] := by
  decide

theorem byte_lt {c : Char} {b : Nat} (hb : b ∈ Text.utf8OfChar c) : b < 256 := by
  have hc : c.toNat < 0x110000 := by
    rcases c.valid with h | h
    · exact Nat.lt_of_lt_of_le h (by decide)
    · exact h.2
  simp only [Text.utf8OfChar] at hb
  split at hb
  · simp at hb
    omega
  · split at hb
    · simp at hb
      omega
    · split at hb <;> simp at hb <;> omega

/-! ## Decoding what was encoded -/

theorem decode_escapeByte {b : Nat} (hb : b < 256) (rest : List Char) :
    decode (escapeByte b ++ rest) = b :: decode rest := by
  have hhigh := hexValue?_hexDigit (b / 16) (by omega)
  have hlow := hexValue?_hexDigit (b % 16) (by omega)
  change decode ('%' :: hexDigit (b / 16) :: hexDigit (b % 16) :: rest) = _
  rw [decode, hhigh, hlow]
  dsimp only
  congr 1
  omega

theorem decode_escape (c : Char) (rest : List Char) :
    decode (escape c ++ rest) = Text.utf8OfChar c ++ decode rest := by
  have hbytes : ∀ bytes : List Nat, (∀ b ∈ bytes, b < 256) →
      decode (bytes.flatMap escapeByte ++ rest) = bytes ++ decode rest := by
    intro bytes hall
    induction bytes with
    | nil => rfl
    | cons b bytes ih =>
      obtain ⟨hb, hbytes⟩ := List.forall_mem_cons.mp hall
      rw [List.flatMap_cons, List.append_assoc, decode_escapeByte hb, ih hbytes, List.cons_append]
  exact hbytes _ fun b hb => byte_lt hb

theorem decode_plain {c : Char} (hc : c ≠ '%') (rest : List Char) :
    decode (c :: rest) = Text.utf8OfChar c ++ decode rest := by
  rw [decode]
  rintro a b more rfl
  exact absurd rfl hc

theorem decode_encode {must : Char → Bool} (hmust : must '%' = true) (cs : List Char) :
    decode (encode must cs) = Text.utf8OfText cs := by
  induction cs with
  | nil => rfl
  | cons c cs ih =>
    rw [encode, List.flatMap_cons, Text.utf8OfText, List.flatMap_cons]
    by_cases hc : (must c || 128 ≤ c.toNat) = true
    · rw [if_pos hc, decode_escape]
      exact congrArg _ ih
    · rw [if_neg hc, List.singleton_append, decode_plain]
      · exact congrArg _ ih
      · rintro rfl
        exact hc (by rw [hmust, Bool.true_or])

/-! ## Characters that do not occur -/

theorem free_of_escape {c d : Char} (hd : d ∈ ['/', '?', '#']) : d ∉ escape c := by
  intro hmem
  obtain ⟨b, hb, hmem⟩ := List.mem_flatMap.mp hmem
  have hbyte := byte_lt hb
  have hpercent : d ≠ '%' := by
    rintro rfl
    revert hd
    decide
  simp only [escapeByte, List.mem_cons, List.not_mem_nil, or_false] at hmem
  rcases hmem with hmem | hmem | hmem
  · exact hpercent hmem
  · exact hexDigit_not_mem (b / 16) (by omega) (hmem ▸ hd)
  · exact hexDigit_not_mem (b % 16) (by omega) (hmem ▸ hd)

theorem free_of_encode {must : Char → Bool} {d : Char} (hd : d ∈ ['/', '?', '#'])
    (hmust : must d = true) (cs : List Char) : d ∉ encode must cs := by
  intro hmem
  obtain ⟨c, -, hmem⟩ := List.mem_flatMap.mp hmem
  by_cases hc : (must c || 128 ≤ c.toNat) = true
  · rw [if_pos hc] at hmem
    exact free_of_escape hd hmem
  · rw [if_neg hc] at hmem
    obtain rfl := List.mem_singleton.mp hmem
    exact hc (by rw [hmust, Bool.true_or])

/-- Encoding brings in no character that ends a component. -/
theorem free_of_encode_of_not_mem {must : Char → Bool} {d : Char} (hd : d ∈ ['/', '?', '#'])
    {cs : List Char} (hcs : d ∉ cs) : d ∉ encode must cs := by
  intro hmem
  obtain ⟨c, hc, hmem⟩ := List.mem_flatMap.mp hmem
  split at hmem
  · exact free_of_escape hd hmem
  · exact hcs (List.mem_singleton.mp hmem ▸ hc)

/-! ## Characters that are left out -/

theorem utf8OfChar_ne_nil (c : Char) : Text.utf8OfChar c ≠ [] := by
  simp only [Text.utf8OfChar]
  split
  · simp
  · split
    · simp
    · split <;> simp

theorem encode_ne_nil {must : Char → Bool} (hmust : must '%' = true) {cs : List Char} (h : cs ≠ []) :
    encode must cs ≠ [] := by
  intro hnil
  obtain ⟨c, rest, rfl⟩ := List.exists_cons_of_ne_nil h
  have hdecode := decode_encode hmust (c :: rest)
  rw [hnil, Text.utf8OfText, List.flatMap_cons] at hdecode
  exact utf8OfChar_ne_nil c (List.append_eq_nil_iff.mp hdecode.symm).1

theorem length_utf8_filter (keep : Char → Bool) (cs : List Char) :
    (Text.utf8OfText (cs.filter keep)).length ≤ (Text.utf8OfText cs).length := by
  induction cs with
  | nil => exact Nat.le_refl _
  | cons c cs ih =>
    rw [List.filter_cons]
    split <;> simp only [Text.utf8OfText, List.flatMap_cons, List.length_append] at ih ⊢ <;> omega

theorem keep_of_utf8 {keep : Char → Bool} {cs : List Char}
    (h : Text.utf8OfText (cs.filter keep) = Text.utf8OfText cs) : ∀ c ∈ cs, keep c = true := by
  induction cs with
  | nil => simp
  | cons c cs ih =>
    rw [List.filter_cons] at h
    split at h
    · next hkeep =>
      exact List.forall_mem_cons.mpr ⟨hkeep, ih (List.append_cancel_left h)⟩
    · have hlength := congrArg List.length h
      have hle := length_utf8_filter keep cs
      have hpos := List.length_pos_iff.mpr (utf8OfChar_ne_nil c)
      simp only [Text.utf8OfText, List.flatMap_cons, List.length_append] at hlength hle
      omega

end CloudProvider.Url
