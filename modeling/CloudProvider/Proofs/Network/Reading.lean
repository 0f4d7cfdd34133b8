import CloudProvider.Network.Block
import Mathlib.Data.Nat.Digits.Defs

/-!
# Reading addresses and blocks as they are written

* `Address.number?_toDigits`: a number in front of what is no digit.
* `Address.quad?_quadChars`: the four numbers of a short address.
* `Address.groups_colons`: groups in front of what is no group.
* `Address.longestZeros_split`: what a double colon stands for.
* `Address.long?_compressed`, `Address.long?_mapped`: a long address, without points and with them.
* `Address.read?_chars`: an address in front of a length.
* `Block.parse?_text`: a block is read from its text.
-/

namespace CloudProvider
set_option autoImplicit false

namespace Address

/-! ## Numbers -/

/-- The digits that numbers of a base are written with are read as what they stand for. -/
structure Digits (digit? : Char → Option Nat) (base : Nat) : Prop where
  large : 1 < base
  reads : ∀ n < base, digit? n.digitChar = some n

theorem Digits.decimal : Digits decimalValue? 10 :=
  ⟨by decide, by decide⟩

theorem Digits.hex : Digits hexValue? 16 :=
  ⟨by decide, by decide⟩

/-- No digit comes next. -/
def Stops (digit? : Char → Option Nat) (rest : List Char) : Prop :=
  ∀ c, rest.head? = some c → digit? c = none

section Number
variable {digit? : Char → Option Nat} {base n : Nat} {rest : List Char}

theorem Digits.isSome_of_mem (h : Digits digit? base) :
    ∀ c ∈ Nat.toDigits base n, (digit? c).isSome = true := by
  induction n using Nat.strongRecOn with
  | ind n ih =>
    intro c hc
    by_cases hn : n < base
    · rw [Nat.toDigits_of_lt_base hn, List.mem_singleton] at hc
      rw [hc, h.reads n hn]
      rfl
    · have hbase := h.large
      have hless : n / base < n := Nat.div_lt_self (by omega) hbase
      rw [Nat.toDigits_of_base_le hbase (by omega), List.mem_append, List.mem_singleton] at hc
      rcases hc with hc | hc
      · exact ih (n / base) hless c hc
      · rw [hc, h.reads _ (Nat.mod_lt n (by omega))]
        rfl

theorem Digits.foldl_toDigits (h : Digits digit? base) :
    (Nat.toDigits base n).foldl (fun n c => base * n + (digit? c).getD 0) 0 = n := by
  induction n using Nat.strongRecOn with
  | ind n ih =>
    by_cases hn : n < base
    · rw [Nat.toDigits_of_lt_base hn, List.foldl_cons, List.foldl_nil, h.reads n hn]
      simp
    · have hbase := h.large
      have hless : n / base < n := Nat.div_lt_self (by omega) hbase
      rw [Nat.toDigits_of_base_le hbase (by omega), List.foldl_append, ih (n / base) hless,
        List.foldl_cons, List.foldl_nil, h.reads _ (Nat.mod_lt n (by omega))]
      exact Nat.div_add_mod n base

theorem Stops.takeWhile (h : Stops digit? rest) :
    rest.takeWhile (fun c => (digit? c).isSome) = [] := by
  cases rest with
  | nil => rfl
  | cons c cs => rw [List.takeWhile_cons, h c rfl]; rfl

theorem number?_of_stops (h : Stops digit? rest) (most : Nat) :
    number? digit? base most rest = none := by
  simp [number?, h.takeWhile]

theorem number?_toDigits (h : Digits digit? base) (hrest : Stops digit? rest) {most : Nat}
    (hmost : 0 < most) (hn : n < base ^ most) :
    number? digit? base most (Nat.toDigits base n ++ rest) = some (n, rest) := by
  have htake : (Nat.toDigits base n ++ rest).takeWhile (fun c => (digit? c).isSome) =
      Nat.toDigits base n := by
    rw [List.takeWhile_append_of_pos h.isSome_of_mem, hrest.takeWhile, List.append_nil]
  have hlength : ¬ most < (Nat.toDigits base n).length := by
    have hle := (Nat.length_toDigits_le_iff h.large hmost).mpr hn
    omega
  rw [number?]
  simp only [htake]
  rw [if_neg (by simp [hlength]), h.foldl_toDigits, List.drop_left]

theorem suffix_of_number? {most : Nat} {cs : List Char}
    (h : number? digit? base most cs = some (n, rest)) : rest <:+ cs := by
  unfold number? at h
  dsimp only at h
  split at h
  · cases h
  · cases h
    exact List.drop_suffix _ cs

end Number

/-! ## Short addresses -/

section Quad
variable {n : Nat} {cs rest : List Char} {spelling : Spelling}

theorem octet?_toDigits (hn : n < 256) (hrest : Stops decimalValue? rest) :
    octet? .inBlock (Nat.toDigits 10 n ++ rest) = some (n, rest) := by
  have hnumber : number? decimalValue? 10 3 (Nat.toDigits 10 n ++ rest) = some (n, rest) :=
    number?_toDigits .decimal hrest (by decide) (by omega)
  unfold octet?
  rw [hnumber]
  split
  · next heq =>
    cases heq
    simp [Spelling.inBlock, hn]
  · next heq _ =>
    cases heq
    simp [hn]
  · next heq => cases heq

theorem number?_of_octet? (h : octet? spelling cs = some (n, rest)) :
    number? decimalValue? 10 3 cs = some (n, rest) := by
  unfold octet? at h
  split at h
  · next heq =>
    rw [heq]
    split at h
    · cases h
    · split at h
      · exact h
      · cases h
  · next heq =>
    rw [heq]
    split at h
    · exact h
    · cases h
  · cases h

theorem quad?_of_stops (h : Stops decimalValue? cs) : quad? spelling cs = none := by
  have hoctet : octet? spelling cs = none := by
    rw [Option.eq_none_iff_forall_ne_some]
    rintro ⟨n, rest⟩ hsome
    have hnumber := number?_of_octet? hsome
    rw [number?_of_stops h] at hnumber
    cases hnumber
  rw [quad?, hoctet]
  rfl

theorem quad?_of_no_point (h : '.' ∉ cs) : quad? spelling cs = none := by
  rw [quad?]
  cases hoctet : octet? spelling cs with
  | none => rfl
  | some read =>
    obtain ⟨n, rest⟩ := read
    have hsuffix := suffix_of_number? (number?_of_octet? hoctet)
    have hafter : after? '.' rest = none := by
      cases rest with
      | nil => rfl
      | cons c more =>
        have hc : c ≠ '.' := by
          rintro rfl
          exact h (hsuffix.subset (List.mem_cons_self ..))
        exact if_neg hc
    simp [hafter]

theorem stops_point (more : List Char) : Stops decimalValue? ('.' :: more) := by
  rintro c ⟨⟩
  rfl

theorem quad?_quadChars (hn : n < 4294967296) (hrest : Stops decimalValue? rest) :
    quad? .inBlock (quadChars n ++ rest) = some (n, rest) := by
  have hchars : quadChars n ++ rest =
      Nat.toDigits 10 (n / 256 / 256 / 256 % 256) ++ '.' ::
        (Nat.toDigits 10 (n / 256 / 256 % 256) ++ '.' ::
          (Nat.toDigits 10 (n / 256 % 256) ++ '.' :: (Nat.toDigits 10 (n % 256) ++ rest))) := by
    simp [quadChars, joined, toGroups, List.intercalate_cons_cons]
  have hpoint (more : List Char) : after? '.' ('.' :: more) = some more := rfl
  have hsmall (k : Nat) : k % 256 < 256 := Nat.mod_lt k (by decide)
  rw [hchars, quad?]
  simp only [octet?_toDigits (hsmall _) (stops_point _), octet?_toDigits (hsmall _) hrest, hpoint,
    Option.bind_eq_bind, Option.bind_some, Option.pure_def, Option.some.injEq, Prod.mk.injEq,
    and_true]
  omega

end Quad

/-! ## Groups -/

section Groups
variable {n g limit : Nat} {gs : List Nat} {cs body more rest : List Char} {spelling : Spelling}

/-- No group comes next, neither at once nor behind a colon. -/
def NoGroup (rest : List Char) : Prop :=
  Stops hexValue? rest ∧ ∀ body, after? ':' rest = some body → Stops hexValue? body

theorem noGroup_gap (more : List Char) : NoGroup (':' :: ':' :: more) := by
  constructor
  · rintro c ⟨⟩
    rfl
  · rintro body ⟨⟩ c ⟨⟩
    rfl

theorem noGroup_slash (more : List Char) : NoGroup ('/' :: more) := by
  constructor
  · rintro c ⟨⟩
    rfl
  · rintro body ⟨⟩

theorem Stops.decimal (h : Stops hexValue? cs) : Stops decimalValue? cs := by
  intro c hc
  have hhex := h c hc
  unfold hexValue? at hhex
  split at hhex
  · cases hhex
  · next hdigit => exact if_neg hdigit

theorem groups_of_noGroup (h : NoGroup rest) (first : Bool) :
    groups spelling limit first rest = ([], false, rest) := by
  cases limit with
  | zero => rfl
  | succ limit =>
    have hstop {body : List Char} (hbody : Stops hexValue? body) :
        (if limit = 0 then none else quad? spelling body) = none ∧ group? body = none := by
      rw [quad?_of_stops hbody.decimal, ite_self]
      exact ⟨rfl, number?_of_stops hbody 4⟩
    cases first with
    | true =>
      obtain ⟨hquad, hgroup⟩ := hstop h.1
      simp [groups, hquad, hgroup]
    | false =>
      cases hafter : after? ':' rest with
      | none => simp [groups, hafter]
      | some body =>
        obtain ⟨hquad, hgroup⟩ := hstop (h.2 body hafter)
        simp [groups, hafter, hquad, hgroup]

theorem group?_hex (hg : g < 65536) (hrest : Stops hexValue? rest) :
    group? (hex g ++ rest) = some (g, rest) :=
  number?_toDigits .hex hrest (by decide) (by omega)

theorem groups_step {first : Bool} (hbody : (if first then some cs else after? ':' cs) = some body)
    (hquad : quad? spelling body = none) (hgroup : group? body = some (g, more)) :
    groups spelling (limit + 1) first cs =
      (g :: (groups spelling limit false more).1, (groups spelling limit false more).2) := by
  simp only [groups, hbody, hquad, ite_self, hgroup]

def afterColons (gs : List Nat) : List Char :=
  gs.flatMap fun g => ':' :: hex g

theorem colons_cons (g : Nat) (gs : List Nat) : colons (g :: gs) = hex g ++ afterColons gs := by
  induction gs generalizing g with
  | nil => simp [colons, joined, afterColons]
  | cons g' gs ih =>
    have hrest := ih g'
    rw [colons, joined, List.map_cons] at hrest
    rw [colons, joined, List.map_cons, List.map_cons, List.intercalate_cons_cons, hrest]
    simp [afterColons]

theorem stops_afterColons (hrest : NoGroup rest) : Stops hexValue? (afterColons gs ++ rest) := by
  cases gs with
  | nil => exact hrest.1
  | cons g gs =>
    rintro c ⟨⟩
    rfl

theorem groups_afterColons (hlimit : gs.length ≤ limit) (hsmall : ∀ g ∈ gs, g < 65536)
    (hpoint : '.' ∉ afterColons gs ++ rest) (hrest : NoGroup rest) :
    groups spelling limit false (afterColons gs ++ rest) = (gs, false, rest) := by
  -- without a point nothing is taken for a short address, so each step reads one group
  induction gs generalizing limit with
  | nil => exact groups_of_noGroup hrest false
  | cons g gs ih =>
    obtain ⟨limit, rfl⟩ := Nat.exists_eq_add_one_of_ne_zero (Nat.ne_zero_of_lt hlimit)
    obtain ⟨hg, hgs⟩ := List.forall_mem_cons.mp hsmall
    have hchars : afterColons (g :: gs) ++ rest = ':' :: (hex g ++ (afterColons gs ++ rest)) := by
      simp [afterColons]
    rw [hchars] at hpoint ⊢
    have hbody : '.' ∉ hex g ++ (afterColons gs ++ rest) := fun h => hpoint (List.mem_cons_of_mem _ h)
    rw [groups_step rfl (quad?_of_no_point hbody) (group?_hex hg (stops_afterColons hrest)),
      ih (Nat.le_of_succ_le_succ hlimit) hgs (fun h => hbody (List.mem_append_right _ h))]

/-- Groups with colons between them are read up to where no group comes next. -/
theorem groups_colons (hlimit : gs.length ≤ limit) (hsmall : ∀ g ∈ gs, g < 65536)
    (hpoint : '.' ∉ colons gs ++ rest) (hrest : NoGroup rest) :
    groups spelling limit true (colons gs ++ rest) = (gs, false, rest) := by
  cases gs with
  | nil => exact groups_of_noGroup hrest true
  | cons g gs =>
    obtain ⟨limit, rfl⟩ := Nat.exists_eq_add_one_of_ne_zero (Nat.ne_zero_of_lt hlimit)
    obtain ⟨hg, hgs⟩ := List.forall_mem_cons.mp hsmall
    rw [colons_cons, List.append_assoc] at hpoint ⊢
    rw [groups_step rfl (quad?_of_no_point hpoint) (group?_hex hg (stops_afterColons hrest)),
      groups_afterColons (Nat.le_of_succ_le_succ hlimit) hgs
        (fun h => hpoint (List.mem_append_right _ h)) hrest]

theorem groups_quad {first : Bool} (hlimit : 1 < limit)
    (hbody : (if first then some cs else after? ':' cs) = some body)
    (hquad : quad? spelling body = some (n, rest)) :
    groups spelling limit first cs = ([n / 65536, n % 65536], true, rest) := by
  obtain ⟨limit, rfl⟩ := Nat.exists_eq_add_one_of_ne_zero (Nat.ne_zero_of_lt hlimit)
  have hmore : ¬ limit = 0 := by omega
  simp only [groups, hbody, if_neg hmore, hquad]

end Groups

/-! ## Long addresses -/

section Long
variable {n : Nat} {gs front back : List Nat} {rest : List Char}

theorem ofGroups_append (gs : List Nat) (g : Nat) : ofGroups (gs ++ [g]) = 65536 * ofGroups gs + g := by
  rw [ofGroups, List.foldl_append]
  rfl

theorem length_toGroups (base count n : Nat) : (toGroups base count n).length = count := by
  induction count generalizing n with
  | zero => rfl
  | succ count ih => rw [toGroups, List.length_append, ih, List.length_singleton]

theorem lt_of_mem_toGroups {base count : Nat} (hbase : 0 < base) :
    ∀ g ∈ toGroups base count n, g < base := by
  induction count generalizing n with
  | zero => exact fun g hg => absurd hg List.not_mem_nil
  | succ count ih =>
    intro g hg
    rw [toGroups, List.mem_append, List.mem_singleton] at hg
    rcases hg with hg | rfl
    · exact ih g hg
    · exact Nat.mod_lt n hbase

theorem ofGroups_toGroups (count n : Nat) :
    ofGroups (toGroups 65536 count n) = n % 65536 ^ count := by
  induction count generalizing n with
  | zero => rw [Nat.pow_zero, Nat.mod_one]; rfl
  | succ count ih =>
    rw [toGroups, ofGroups_append, ih, Nat.pow_succ', Nat.mod_mul, Nat.add_comm]

theorem zerosAhead_split (gs : List Nat) :
    gs = List.replicate (zerosAhead gs) 0 ++ gs.drop (zerosAhead gs) := by
  induction gs with
  | nil => rfl
  | cons g gs ih =>
    by_cases hg : g = 0
    · have hahead : zerosAhead (g :: gs) = zerosAhead gs + 1 := by simp [zerosAhead, hg]
      rw [hahead, List.replicate_succ, List.drop_succ_cons, List.cons_append, ← ih, hg]
    · have hahead : zerosAhead (g :: gs) = 0 := by simp [zerosAhead, hg]
      rw [hahead]
      rfl

theorem longestZeros_split (gs : List Nat) :
    gs = gs.take (longestZeros gs).1 ++ List.replicate (longestZeros gs).2 0 ++
      gs.drop ((longestZeros gs).1 + (longestZeros gs).2) := by
  induction gs with
  | nil => rfl
  | cons g gs ih =>
    rw [longestZeros]
    dsimp only
    split
    · rw [List.take_zero, List.nil_append, Nat.zero_add]
      exact zerosAhead_split (g :: gs)
    · rw [List.take_succ_cons, Nat.add_right_comm, List.drop_succ_cons, List.cons_append,
        List.cons_append, ← ih]

theorem point_not_mem_digits {digit? : Char → Option Nat} {base : Nat} (h : Digits digit? base)
    (hpoint : digit? '.' = none) : '.' ∉ Nat.toDigits base n := by
  intro hmem
  have hdigit := h.isSome_of_mem _ hmem
  rw [hpoint] at hdigit
  cases hdigit

theorem point_not_mem_colons (gs : List Nat) : '.' ∉ colons gs := by
  have hhex (g : Nat) : '.' ∉ hex g := point_not_mem_digits .hex rfl
  cases gs with
  | nil => exact List.not_mem_nil
  | cons g gs =>
    rw [colons_cons, afterColons, List.mem_append, List.mem_flatMap]
    rintro (h | ⟨g', -, h⟩)
    · exact hhex g h
    · rcases List.mem_cons.mp h with h | h
      · cases h
      · exact hhex g' h

theorem long?_colons (hlength : gs.length = 8) (hsmall : ∀ g ∈ gs, g < 65536)
    (hpoint : '.' ∉ rest) (hrest : NoGroup rest) :
    long? .inBlock (colons gs ++ rest) = some (ofGroups gs, rest) := by
  have hno : '.' ∉ colons gs ++ rest := by
    simp [point_not_mem_colons, hpoint]
  rw [long?, groups_colons (Nat.le_of_eq hlength) hsmall hno hrest]
  exact if_pos hlength

/-- A double colon stands for the groups that are missing around it. -/
theorem long?_of_groups {spelling : Spelling} {quad : Bool} {cs more : List Char}
    (hfront : groups spelling 8 true cs = (front, false, ':' :: ':' :: more))
    (hshort : ¬ front.length = 8)
    (hback : groups spelling (8 - front.length - spelling.gap) true more = (back, quad, rest)) :
    long? spelling cs =
      some (ofGroups (front ++ List.replicate (8 - front.length - back.length) 0 ++ back), rest) := by
  rw [long?, hfront]
  simp only [if_neg hshort, hback]
  rfl

theorem long?_gap (hlength : front.length + back.length < 8) (hfront : ∀ g ∈ front, g < 65536)
    (hback : ∀ g ∈ back, g < 65536) (hpoint : '.' ∉ rest) (hrest : NoGroup rest) :
    long? .inBlock (colons front ++ ':' :: ':' :: (colons back ++ rest)) =
      some (ofGroups (front ++ List.replicate (8 - front.length - back.length) 0 ++ back), rest) := by
  have hlater : '.' ∉ colons back ++ rest := by
    simp [point_not_mem_colons, hpoint]
  have hno : '.' ∉ colons front ++ ':' :: ':' :: (colons back ++ rest) := by
    simp [point_not_mem_colons, hpoint]
  have hroom : back.length ≤ 8 - front.length - Spelling.inBlock.gap := by
    change back.length ≤ 8 - front.length - 0
    omega
  exact long?_of_groups (groups_colons (by omega) hfront hno (noGroup_gap _)) (by omega)
    (groups_colons hroom hback hlater hrest)

/-- A long address that stands for a short one keeps the points. -/
theorem long?_mapped (hn : n < 4294967296) (hrest : Stops decimalValue? rest) :
    long? .inBlock ([':', ':', 'f', 'f', 'f', 'f', ':'] ++ quadChars n ++ rest) =
      some (65535 * 4294967296 + n, rest) := by
  have hfirst : Stops decimalValue? (hex 65535 ++ ':' :: (quadChars n ++ rest)) := by
    rintro c ⟨⟩
    rfl
  have hcolon : Stops hexValue? (':' :: (quadChars n ++ rest)) := by
    rintro c ⟨⟩
    rfl
  have hchars : [':', ':', 'f', 'f', 'f', 'f', ':'] ++ quadChars n ++ rest =
      ':' :: ':' :: (hex 65535 ++ ':' :: (quadChars n ++ rest)) := by
    rw [List.append_assoc]
    rfl
  have hback : groups .inBlock 8 true (hex 65535 ++ ':' :: (quadChars n ++ rest)) =
      ([65535, n / 65536, n % 65536], true, rest) := by
    rw [groups_step rfl (quad?_of_stops hfirst) (group?_hex (by decide) hcolon),
      groups_quad (by decide) rfl (quad?_quadChars hn hrest)]
  have hvalue : ofGroups [0, 0, 0, 0, 0, 65535, n / 65536, n % 65536] = 65535 * 4294967296 + n := by
    simp only [ofGroups, List.foldl_cons, List.foldl_nil]
    omega
  rw [hchars, long?_of_groups (groups_of_noGroup (noGroup_gap _) true) (by decide) hback]
  exact congrArg (fun value => some (value, rest)) hvalue

theorem long?_compressed (hlength : gs.length = 8) (hsmall : ∀ g ∈ gs, g < 65536)
    (hpoint : '.' ∉ rest) (hrest : NoGroup rest) :
    long? .inBlock (compressed gs ++ rest) = some (ofGroups gs, rest) := by
  have hsplit := longestZeros_split gs
  unfold compressed
  dsimp only
  generalize longestZeros gs = run at hsplit ⊢
  obtain ⟨start, length⟩ := run
  dsimp only at hsplit ⊢
  split
  · exact long?_colons hlength hsmall hpoint hrest
  · -- the groups in front, the run and the groups behind are eight
    have hlengths := congrArg List.length hsplit
    simp only [List.length_append, List.length_replicate] at hlengths
    have hzeros : 8 - (gs.take start).length - (gs.drop (start + length)).length = length := by
      omega
    have hfront : ∀ g ∈ gs.take start, g < 65536 := fun g hg => hsmall g (List.mem_of_mem_take hg)
    have hback : ∀ g ∈ gs.drop (start + length), g < 65536 :=
      fun g hg => hsmall g (List.mem_of_mem_drop hg)
    have hgap := long?_gap (by omega) hfront hback hpoint hrest
    rw [hzeros, ← hsplit] at hgap
    rw [← hgap, List.append_assoc, List.append_assoc]
    rfl

end Long

/-- An address is read where it is written, if neither a point nor a group comes next. -/
theorem read?_chars (a : Address) {rest : List Char} (hpoint : '.' ∉ rest) (hrest : NoGroup rest) :
    read? .inBlock a.family (a.chars ++ rest) = some (a, rest) := by
  obtain ⟨family, value, small⟩ := a
  have hvalue : ofValue? family value = some ⟨family, value, small⟩ := dif_pos small
  cases family with
  | v4 =>
    have hquad : quad? .inBlock (quadChars value ++ rest) = some (value, rest) :=
      quad?_quadChars small hrest.1.decimal
    simp [read?, chars, hquad, hvalue]
  | v6 =>
    have hlong : long? .inBlock (chars ⟨.v6, value, small⟩ ++ rest) = some (value, rest) := by
      unfold chars
      dsimp only
      split
      · next hmapped =>
        have hhalf : value % UInt32.size < 4294967296 := Nat.mod_lt value (by decide)
        have hsum : 65535 * 4294967296 + value % UInt32.size = value := by
          rw [← hmapped]
          exact Nat.div_add_mod' value UInt32.size
        rw [long?_mapped hhalf hrest.1.decimal, hsum]
      · have hgroups : ofGroups (toGroups 65536 8 value) = value := by
          rw [ofGroups_toGroups]
          exact Nat.mod_eq_of_lt small
        rw [long?_compressed (length_toGroups 65536 8 value) (lt_of_mem_toGroups (by decide)) hpoint
          hrest, hgroups]
    simp [read?, hlong, hvalue]

theorem read?_v4_of_v6 {a : Address} (h : a.family = .v6) {rest : List Char} (hpoint : '.' ∉ rest) :
    read? .inBlock .v4 (a.chars ++ rest) = none := by
  have hquad : quad? .inBlock (a.chars ++ rest) = none := by
    unfold chars
    rw [h]
    dsimp only
    split
    · apply quad?_of_stops
      rintro c ⟨⟩
      rfl
    · apply quad?_of_no_point
      unfold compressed
      dsimp only
      split <;> simp [point_not_mem_colons, hpoint]
  simp [read?, hquad]

end Address

namespace Block

theorem toList_text (b : Block) :
    b.text.toList = b.address.chars ++ '/' :: Nat.toDigits 10 b.length := by
  have htext : b.text = String.ofList b.address.chars ++ "/" ++ Nat.repr b.length := by
    rfl
  rw [htext, String.toList_append, String.toList_append, String.toList_ofList, Nat.toList_repr,
    List.append_assoc]
  rfl

theorem number?_length (b : Block) : Address.number? Address.decimalValue? 10
    (lengthDigits b.address.family) (Nat.toDigits 10 b.length) = some (b.length, []) := by
  have hfits := b.fits
  have hstops : Address.Stops Address.decimalValue? [] := by
    rintro c ⟨⟩
  have hsmall : b.length < 10 ^ lengthDigits b.address.family ∧ 0 < lengthDigits b.address.family := by
    cases hfamily : b.address.family <;> rw [hfamily] at hfits <;>
      simp only [Family.bits, lengthDigits] at hfits ⊢ <;> omega
  have hnumber := Address.number?_toDigits .decimal hstops hsmall.2 hsmall.1
  rwa [List.append_nil] at hnumber

theorem point_not_mem_length (b : Block) : '.' ∉ '/' :: Nat.toDigits 10 b.length := by
  simp [Address.point_not_mem_digits .decimal rfl]

theorem parseAs?_text (b : Block) : parseAs? b.address.family b.text = some b := by
  have hfits : b.length ≤ b.address.family.bits ∧ ([] : List Char) = [] := ⟨b.fits, rfl⟩
  rw [parseAs?, toList_text,
    Address.read?_chars b.address b.point_not_mem_length (Address.noGroup_slash _)]
  simp [number?_length, hfits]

/-- A block is read from its text. -/
theorem parse?_text (b : Block) : parse? b.text = some b := by
  have hsame := parseAs?_text b
  rw [parse?]
  cases hfamily : b.address.family with
  | v4 =>
    rw [hfamily] at hsame
    rw [hsame]
    rfl
  | v6 =>
    have hother : parseAs? .v4 b.text = none := by
      rw [parseAs?, toList_text, Address.read?_v4_of_v6 hfamily b.point_not_mem_length]
      rfl
    rw [hfamily] at hsame
    rw [hother, hsame]
    rfl

end Block

end CloudProvider
