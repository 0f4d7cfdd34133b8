import CloudProvider.Backoff
import Mathlib.Tactic.Ring

/-!
# Delays under the usual policy

The usual delay is a second that doubles with every attempt, up to half a minute. Its multiplier is two,
so no number on the way is rounded. The uncapped delay fits a duration up to attempt 63 only, and from
attempt 2147483648 on the exponent is negative.

* `Binary64.ofRatio_two_pow`: a power of two is found exactly.
* `Real64.powFrom_twoPow`: squaring and multiplying powers of two.
* `RetryPolicy.durationOf?_twoPow`: `2 ^ k` seconds as a duration.
* `RetryPolicy.durationOf?_reciprocal`: a fraction of a second, to the nearest nanosecond.
* `RetryPolicy.delay_doubles`: the delay after each attempt.
-/

namespace CloudProvider
set_option autoImplicit false

/-! ## Powers of two -/

namespace Binary64

theorem nearestEven_mul (n : Nat) {d : Nat} (hd : 0 < d) : nearestEven (n * d) d = n := by
  have hquotient : n * d / d = n := Nat.mul_div_cancel n hd
  have hrest : n * d % d = 0 := Nat.mul_mod_left n d
  simp [nearestEven, hquotient, hrest, hd]

theorem nearestEven_scale (n d : Nat) {c : Nat} (hc : 0 < c) :
    nearestEven (c * n) (c * d) = nearestEven n d := by
  have hquotient : c * n / (c * d) = n / d := Nat.mul_div_mul_left n d hc
  have hrest : 2 * (c * n % (c * d)) = c * (2 * (n % d)) := by
    rw [Nat.mul_mod_mul_left, Nat.mul_left_comm]
  unfold nearestEven
  dsimp only
  rw [hquotient, hrest]
  simp only [Nat.mul_lt_mul_left hc]

theorem nearestEven_eq_zero {n d : Nat} (h : 2 * n < d) : nearestEven n d = 0 := by
  have hquotient : n / d = 0 := Nat.div_eq_of_lt (by omega)
  have hrest : n % d = n := Nat.mod_eq_of_lt (by omega)
  simp [nearestEven, hquotient, hrest, h]

theorem nearestEven_le (n d : Nat) : nearestEven n d ≤ n / d + 1 := by
  unfold nearestEven
  dsimp only
  split_ifs <;> omega

/-- `2 ^ k`, with a significand that uses all its bits. -/
def twoPow (k : Int) (h : -1022 ≤ k ∧ k ≤ 1023) : Binary64 :=
  ⟨false, fullSignificand, k - 52, by decide, by omega, by omega, .inl (Nat.le_refl _)⟩

variable {m j : Nat} {k : Int}

theorem ratio_twoPow (h : -1022 ≤ k ∧ k ≤ 1023) :
    ∃ m j : Nat, (twoPow k h).ratio = (2 ^ m, 2 ^ j) ∧ (m : Int) - j = k := by
  have hfull : fullSignificand = 2 ^ 52 := by decide
  unfold ratio twoPow
  dsimp only
  split
  · refine ⟨52 + (k - 52).toNat, 0, ?_, by omega⟩
    rw [hfull, Nat.pow_add]
    rfl
  · exact ⟨52, (-(k - 52)).toNat, by rw [hfull]; rfl, by omega⟩

theorem scale_two_pow (m j : Nat) :
    ∃ d, 0 < d ∧ scale (2 ^ m) (2 ^ j) (m - j - 52) = (fullSignificand * d, d) := by
  have hfull : fullSignificand = 2 ^ 52 := by decide
  unfold scale
  split
  · refine ⟨2 ^ (j + ((m : Int) - j - 52).toNat), Nat.two_pow_pos _, ?_⟩
    rw [hfull, ← Nat.pow_add, Nat.pow_add 2 j]
    have hm : m = 52 + (j + ((m : Int) - j - 52).toNat) := by omega
    rw [← hm]
    rfl
  · refine ⟨2 ^ j, Nat.two_pow_pos _, ?_⟩
    have hm : m + (-((m : Int) - j - 52)).toNat = 52 + j := by omega
    rw [hfull, ← Nat.pow_add, ← hm, Nat.pow_add]
    rfl

theorem exponentOf_two_pow (h : -1022 ≤ (m : Int) - j) :
    exponentOf (2 ^ m) (2 ^ j) = m - j - 52 := by
  obtain ⟨d, hd, hscale⟩ := scale_two_pow m j
  have hguess : max ((m : Int) - j - 52) (-1074) = m - j - 52 := by omega
  unfold exponentOf
  rw [Nat.log2_two_pow, Nat.log2_two_pow]
  dsimp only
  rw [hguess, hscale, Nat.mul_div_cancel _ hd, if_neg (Nat.lt_irrefl _)]

theorem ofRatio_of_significand {num den significand : Nat} {exponent : Int} (hnum : ¬ num = 0)
    (hexponent : exponentOf num den = exponent)
    (hsignificand : nearestEven (scale num den exponent).1 (scale num den exponent).2 = significand) :
    ofRatio false num den =
      if h : Normal significand exponent then some ⟨false, significand, exponent, h⟩
      else if h : significand = 2 * fullSignificand ∧ Normal fullSignificand (exponent + 1) then
        some ⟨false, fullSignificand, exponent + 1, h.2⟩
      else none := by
  subst hexponent hsignificand
  exact if_neg hnum

theorem ofRatio_two_pow_eq (h : -1022 ≤ (m : Int) - j) : ofRatio false (2 ^ m) (2 ^ j) =
    if h : Normal fullSignificand (m - j - 52) then some ⟨false, fullSignificand, m - j - 52, h⟩
    else none := by
  obtain ⟨d, hd, hscale⟩ := scale_two_pow m j
  have hpositive : ¬ 2 ^ m = 0 := Nat.ne_of_gt (Nat.two_pow_pos m)
  have hcarry : ¬ (fullSignificand = 2 * fullSignificand ∧
      Normal fullSignificand ((m : Int) - j - 52 + 1)) := fun hcarry => absurd hcarry.1 (by decide)
  have hsignificand : nearestEven (scale (2 ^ m) (2 ^ j) (m - j - 52)).1
      (scale (2 ^ m) (2 ^ j) (m - j - 52)).2 = fullSignificand := by
    rw [hscale]
    exact nearestEven_mul fullSignificand hd
  rw [ofRatio_of_significand hpositive (exponentOf_two_pow h) hsignificand, dif_neg hcarry]

theorem ofRatio_two_pow (hk : (m : Int) - j = k) (h : -1022 ≤ k ∧ k ≤ 1023) :
    ofRatio false (2 ^ m) (2 ^ j) = some (twoPow k h) := by
  subst hk
  rw [ofRatio_two_pow_eq h.1]
  exact dif_pos (twoPow _ h).normal

theorem ofRatio_two_pow_large (h : 1023 < (m : Int) - j) : ofRatio false (2 ^ m) (2 ^ j) = none := by
  rw [ofRatio_two_pow_eq (by omega)]
  refine dif_neg fun hnormal => ?_
  have hexponent := hnormal.2.2.1
  omega

end Binary64

namespace Real64

/-- `2 ^ k`, or an infinity if it is too large to be finite. -/
def twoPow (k : Nat) : Real64 :=
  if h : k ≤ 1023 then finite (Binary64.twoPow k (by omega)) else infinite false

variable {k : Nat}

theorem twoPow_finite (h : k ≤ 1023) : twoPow k = finite (Binary64.twoPow k (by omega)) :=
  dif_pos h

theorem twoPow_infinite (h : ¬ k ≤ 1023) : twoPow k = infinite false :=
  dif_neg h

theorem ofRatio_of_some {negative : Bool} {num den : Nat} {x : Binary64}
    (h : Binary64.ofRatio negative num den = some x) : ofRatio negative num den = finite x := by
  rw [ofRatio, h]

theorem ofRatio_two_pow {m j : Nat} (h : m = k + j) : ofRatio false (2 ^ m) (2 ^ j) = twoPow k := by
  have hk : (m : Int) - j = k := by omega
  by_cases hfinite : k ≤ 1023
  · rw [ofRatio_of_some (Binary64.ofRatio_two_pow hk (by omega)), twoPow_finite hfinite]
  · rw [ofRatio, Binary64.ofRatio_two_pow_large (by omega), twoPow_infinite hfinite]

theorem ofNat_one : ofNat 1 = twoPow 0 :=
  ofRatio_two_pow (m := 0) (j := 0) rfl

theorem ofNat_two : ofNat 2 = twoPow 1 :=
  ofRatio_two_pow (m := 1) (j := 0) rfl

/-- The product of two powers of two before it is rounded. -/
theorem mul_finite {a b : Int} (ha : -1022 ≤ a ∧ a ≤ 1023) (hb : -1022 ≤ b ∧ b ≤ 1023) :
    ∃ m j : Nat, (m : Int) - j = a + b ∧
      (finite (Binary64.twoPow a ha)).mul (finite (Binary64.twoPow b hb)) =
        ofRatio false (2 ^ m) (2 ^ j) := by
  obtain ⟨m, j, hratio, hdifference⟩ := Binary64.ratio_twoPow ha
  obtain ⟨m', j', hratio', hdifference'⟩ := Binary64.ratio_twoPow hb
  refine ⟨m + m', j + j', by omega, ?_⟩
  rw [mul, hratio, hratio', Nat.pow_add, Nat.pow_add]
  rfl

theorem mul_twoPow (a b : Nat) : (twoPow a).mul (twoPow b) = twoPow (a + b) := by
  have hfull : ¬ Binary64.fullSignificand = 0 := by decide
  by_cases ha : a ≤ 1023 <;> by_cases hb : b ≤ 1023
  · obtain ⟨m, j, hdifference, hproduct⟩ := mul_finite (a := a) (b := b) (by omega) (by omega)
    rw [twoPow_finite ha, twoPow_finite hb, hproduct, ofRatio_two_pow (k := a + b) (by omega)]
  · rw [twoPow_finite ha, twoPow_infinite hb, twoPow_infinite (by omega), mul]
    exact if_neg hfull
  · rw [twoPow_infinite ha, twoPow_finite hb, twoPow_infinite (by omega), mul]
    exact if_neg hfull
  · rw [twoPow_infinite ha, twoPow_infinite hb, twoPow_infinite (by omega)]
    rfl

theorem powFrom_twoPow (r a n : Nat) : powFrom (twoPow r) (twoPow a) n = twoPow (r + a * n) := by
  -- on what is left of the exponent, whatever has been multiplied and squared so far
  induction n using Nat.strongRecOn generalizing r a with
  | ind n ih =>
    rw [powFrom]
    have hfirst : (if n % 2 = 1 then (twoPow r).mul (twoPow a) else twoPow r) =
        twoPow (r + a * (n % 2)) := by
      split
      · next hodd => rw [mul_twoPow, hodd, Nat.mul_one]
      · next heven =>
        have hzero : n % 2 = 0 := by omega
        rw [hzero, Nat.mul_zero, Nat.add_zero]
    rw [hfirst]
    split
    · next hlast =>
      have hn : n % 2 = n := by omega
      rw [hn]
    · next hmore =>
      rw [mul_twoPow, ih (n / 2) (by omega)]
      have hn : r + a * (n % 2) + (a + a) * (n / 2) = r + a * n := by
        calc r + a * (n % 2) + (a + a) * (n / 2) = r + a * (2 * (n / 2) + n % 2) := by ring
          _ = r + a * n := by rw [Nat.div_add_mod]
      rw [hn]

theorem pow_two (n : Nat) : (twoPow 1).pow n = twoPow n := by
  have hn : ¬ (n : Int) < 0 := by omega
  rw [pow, if_neg hn, Int.natAbs_natCast, ofNat_one, powFrom_twoPow, Nat.zero_add, Nat.one_mul]

theorem pow_two_neg (hk : 0 < k) : (twoPow 1).pow (-k) = (twoPow 0).div (twoPow k) := by
  have hn : -(k : Int) < 0 := by omega
  rw [pow, if_pos hn, Int.natAbs_neg, Int.natAbs_natCast, ofNat_one, powFrom_twoPow, Nat.zero_add,
    Nat.one_mul]

theorem reciprocal_twoPow (hk : k ≤ 1022) :
    (twoPow 0).div (twoPow k) = finite (Binary64.twoPow (-k) (by omega)) := by
  obtain ⟨m, j, hratio, hdifference⟩ := Binary64.ratio_twoPow (k := (0 : Nat)) (by omega)
  obtain ⟨m', j', hratio', hdifference'⟩ := Binary64.ratio_twoPow (k := k) (by omega)
  have hquotient : Binary64.ofRatio false (2 ^ (m + j')) (2 ^ (j + m')) =
      some (Binary64.twoPow (-k) (by omega)) :=
    Binary64.ofRatio_two_pow (by omega) (by omega)
  have hfull : ¬ (Binary64.twoPow k (by omega)).significand = 0 := by
    simp [Binary64.twoPow]
  rw [twoPow_finite (by omega), twoPow_finite (by omega), div, if_neg hfull, hratio, hratio',
    ← Nat.pow_add, ← Nat.pow_add]
  exact ofRatio_of_some hquotient

theorem one_mul_finite {k : Int} (h : -1022 ≤ k ∧ k ≤ 1023) :
    (twoPow 0).mul (finite (Binary64.twoPow k h)) = finite (Binary64.twoPow k h) := by
  obtain ⟨m, j, hdifference, hproduct⟩ := mul_finite (a := (0 : Nat)) (by omega) h
  rw [twoPow_finite (by omega), hproduct, ofRatio_of_some (Binary64.ofRatio_two_pow (by omega) h)]

end Real64

/-! ## Durations -/

namespace RetryPolicy
open Binary64 (nearestEven)

theorem durationOf?_of_ratio {k : Int} (h : -1022 ≤ k ∧ k ≤ 1023) {num den : Nat}
    (hratio : (Binary64.twoPow k h).ratio = (num, den)) :
    durationOf? (.finite (Binary64.twoPow k h)) =
      if UInt64.size * den ≤ num then none else some ⟨nearestEven (num * 1000000000) den⟩ := by
  simp only [durationOf?, hratio]
  exact if_neg (by simp [Binary64.twoPow])

theorem durationOf?_twoPow (k : Nat) : durationOf? (Real64.twoPow k) =
    if k < 64 then some (.ofSeconds (2 ^ k)) else none := by
  by_cases hk : k ≤ 1023
  · obtain ⟨m, j, hratio, hdifference⟩ := Binary64.ratio_twoPow (k := k) (by omega)
    have hm : m = k + j := by omega
    have hsize : UInt64.size = 2 ^ 64 := by decide
    have hlarge : UInt64.size * 2 ^ j ≤ 2 ^ k * 2 ^ j ↔ ¬ k < 64 := by
      rw [hsize, Nat.mul_le_mul_right_iff (Nat.two_pow_pos j), Nat.pow_le_pow_iff_right (by decide),
        Nat.not_lt]
    have hnanos : nearestEven (2 ^ k * 2 ^ j * 1000000000) (2 ^ j) = 2 ^ k * 1000000000 := by
      rw [Nat.mul_right_comm, Binary64.nearestEven_mul _ (Nat.two_pow_pos j)]
    rw [Real64.twoPow_finite hk, durationOf?_of_ratio _ hratio, hm, Nat.pow_add, hnanos]
    simp only [hlarge, ite_not]
    rfl
  · rw [Real64.twoPow_infinite hk, if_neg (by omega)]
    rfl

/-- A fraction of a second is a duration to the nearest nanosecond. -/
theorem durationOf?_reciprocal {k : Nat} (hk : 0 < k) :
    durationOf? ((Real64.twoPow 0).mul ((Real64.twoPow 0).div (Real64.twoPow k))) =
      some ⟨nearestEven 1000000000 (2 ^ k)⟩ := by
  by_cases hfull : k ≤ 1022
  · obtain ⟨m, j, hratio, hdifference⟩ := Binary64.ratio_twoPow (k := -k) (by omega)
    have hj : j = m + k := by omega
    have hless : ¬ UInt64.size * 2 ^ j ≤ 2 ^ m := by
      have hpower : 2 ^ m < 2 ^ j := Nat.pow_lt_pow_right (by decide) (by omega)
      have hsize : 1 * 2 ^ j ≤ UInt64.size * 2 ^ j := Nat.mul_le_mul_right _ (by decide)
      omega
    rw [Real64.reciprocal_twoPow hfull, Real64.one_mul_finite, durationOf?_of_ratio _ hratio,
      if_neg hless, hj, Nat.pow_add, Binary64.nearestEven_scale _ _ (Nat.two_pow_pos m)]
  · have hsmall : nearestEven 1000000000 (2 ^ k) = 0 := by
      apply Binary64.nearestEven_eq_zero
      calc 2 * 1000000000 < 2 ^ 31 := by decide
        _ ≤ 2 ^ k := Nat.pow_le_pow_right (by decide) (by omega)
    rw [hsmall]
    -- `2 ^ 1023` still is finite, but its reciprocal has no full significand
    by_cases hlast : k = 1023
    · rw [hlast]
      decide +kernel
    · rw [Real64.twoPow_infinite (k := k) (by omega)]
      decide +kernel

/-! ## Exponents -/

theorem secondsOf_second : secondsOf (.ofSeconds 1) = Real64.twoPow 0 := by
  decide +kernel

theorem delay?_eq (attempt : Nat) : default.delay? attempt =
    (durationOf? ((Real64.twoPow 0).mul ((Real64.twoPow 1).pow (exponentOf attempt)))).map
      (·.min (.ofSeconds 30)) := by
  change (durationOf? ((secondsOf (.ofSeconds 1)).mul
    ((Real64.ofNat 2).pow (exponentOf attempt)))).map (·.min (.ofSeconds 30)) = _
  rw [secondsOf_second, Real64.ofNat_two]

theorem exponentOf_of_small {attempt : Nat} (h : attempt < 2147483648) :
    exponentOf attempt = attempt := by
  have hsize : (UInt32.size : Int) = 4294967296 := rfl
  apply Int.bmod_eq_of_le_mul_two <;> omega

/-- The exponent of an attempt has 31 bits and a sign. -/
theorem exponentOf_of_large {attempt : Nat} (hleast : 2147483648 ≤ attempt)
    (hmost : attempt < 4294967296) : exponentOf attempt = -((4294967296 - attempt : Nat) : Int) := by
  have hsize : (UInt32.size : Int) = 4294967296 := rfl
  have hpositive : 0 < UInt32.size := by omega
  have hdifference : -((4294967296 - attempt : Nat) : Int) - attempt = (UInt32.size : Int) * (-1) := by
    omega
  apply (Int.bmod_eq_iff hpositive).mpr
  refine ⟨by omega, by omega, ?_⟩
  rw [hdifference]
  exact Int.dvd_mul_right _ _

/-! ## The delay after each attempt -/

/-- A second that is doubled so many times, up to half a minute. -/
def doubled (times : Nat) : Duration :=
  (Duration.ofSeconds (2 ^ times)).min (.ofSeconds 30)

/-- A second that is halved so many times, to the nearest nanosecond. -/
def halved (times : Nat) : Duration :=
  ⟨nearestEven 1000000000 (2 ^ times)⟩

theorem nanos_doubled (times : Nat) :
    (doubled times).nanos = min (2 ^ times * 1000000000) (30 * 1000000000) := rfl

theorem doubled_mono {k n : Nat} (h : k ≤ n) : (doubled k).nanos ≤ (doubled n).nanos := by
  have hpower : 2 ^ k * 1000000000 ≤ 2 ^ n * 1000000000 :=
    Nat.mul_le_mul_right _ (Nat.pow_le_pow_right (by decide) h)
  rw [nanos_doubled, nanos_doubled]
  omega

theorem halved_lt {times : Nat} (h : 0 < times) : (halved times).nanos < 1000000000 := by
  have hhalf : 1000000000 / 2 ^ times ≤ 1000000000 / 2 :=
    Nat.div_le_div_left (Nat.le_self_pow (by omega) 2) (by decide)
  have hround : (halved times).nanos ≤ 1000000000 / 2 ^ times + 1 := Binary64.nearestEven_le _ _
  omega

variable {attempt : Nat}

/-- The uncapped delay outgrows a duration first; later the exponent turns negative. -/
theorem delay?_word (h : attempt < 4294967296) : default.delay? attempt =
    if attempt < 64 then some (doubled attempt)
    else if attempt < 2147483648 then none
    else some (halved (4294967296 - attempt)) := by
  rw [delay?_eq]
  by_cases hsmall : attempt < 2147483648
  · rw [exponentOf_of_small hsmall, Real64.pow_two, Real64.mul_twoPow, Nat.zero_add,
      durationOf?_twoPow, if_pos hsmall]
    split <;> rfl
  · have hpositive : 0 < 4294967296 - attempt := by omega
    have hshort : (halved (4294967296 - attempt)).min (.ofSeconds 30) =
        halved (4294967296 - attempt) := by
      have hlt := halved_lt hpositive
      exact congrArg Duration.mk (Nat.min_eq_left (by change _ ≤ 30 * 1000000000; omega))
    rw [exponentOf_of_large (by omega) h, Real64.pow_two_neg hpositive,
      durationOf?_reciprocal hpositive, if_neg (by omega), if_neg hsmall]
    exact congrArg some hshort

theorem delay?_eq_doubled_iff (h : attempt < 4294967296) :
    default.delay? attempt = some (doubled attempt) ↔ attempt < 64 := by
  rw [delay?_word h]
  by_cases hfits : attempt < 64
  · simp [hfits]
  · refine ⟨fun hsame => ?_, fun hless => absurd hless hfits⟩
    rw [if_neg hfits] at hsame
    split at hsame
    · cases hsame
    · -- a whole second at least against less than one
      have hnanos := congrArg Duration.nanos (Option.some.inj hsame)
      have hshort : (halved (4294967296 - attempt)).nanos < 1000000000 := halved_lt (by omega)
      have hlong := Nat.two_pow_pos attempt
      rw [nanos_doubled] at hnanos
      omega

theorem delay?_eq_none_iff (h : attempt < 4294967296) :
    default.delay? attempt = none ↔ 64 ≤ attempt ∧ attempt < 2147483648 := by
  rw [delay?_word h]
  split
  · simp; omega
  · split
    · simp; omega
    · simp; omega

theorem delay?_of_negative (hleast : 2147483648 ≤ attempt) (hmost : attempt < 4294967296) :
    default.delay? attempt = some (halved (4294967296 - attempt)) := by
  rw [delay?_word hmost, if_neg (by omega), if_neg (by omega)]

theorem delay?_le (h : attempt < 4294967296) {d : Duration} (hd : default.delay? attempt = some d) :
    d.nanos ≤ default.maxDelay.nanos := by
  change d.nanos ≤ 30 * 1000000000
  rw [delay?_word h] at hd
  split at hd
  · cases hd
    exact Nat.min_le_right _ _
  · split at hd
    · cases hd
    · cases hd
      have hshort : (halved (4294967296 - attempt)).nanos < 1000000000 := halved_lt (by omega)
      omega

theorem delay?_mono {earlier : Nat} (hle : earlier ≤ attempt) (h : attempt < 64) {d e : Duration}
    (hd : default.delay? earlier = some d) (he : default.delay? attempt = some e) :
    d.nanos ≤ e.nanos := by
  rw [(delay?_eq_doubled_iff (by omega)).mpr (by omega)] at hd he
  cases hd
  cases he
  exact doubled_mono hle

/-- The delay is a second that doubles up to half a minute for the first 64 attempts, and for no others:
then there is none for long, and in the end it is a fraction of a second. It never exceeds its
limit, and it does not fall among the first 64 attempts. -/
theorem delay_doubles (attempt : UInt32) :
    (default.delay? attempt.toNat = some (doubled attempt.toNat) ↔ attempt.toNat < 64) ∧
    (default.delay? attempt.toNat = none ↔ 64 ≤ attempt.toNat ∧ attempt.toNat < 2147483648) ∧
    (2147483648 ≤ attempt.toNat →
      default.delay? attempt.toNat = some (halved (4294967296 - attempt.toNat))) ∧
    (∀ d, default.delay? attempt.toNat = some d → d.nanos ≤ default.maxDelay.nanos) ∧
    (attempt.toNat < 64 → ∀ earlier ≤ attempt, ∀ d e, default.delay? earlier.toNat = some d →
      default.delay? attempt.toNat = some e → d.nanos ≤ e.nanos) := by
  have hword : attempt.toNat < 4294967296 := attempt.toNat_lt
  refine ⟨delay?_eq_doubled_iff hword, delay?_eq_none_iff hword, fun h => delay?_of_negative h hword,
    fun d => delay?_le hword, fun hfits earlier hle d e => ?_⟩
  have hearlier : earlier.toNat ≤ attempt.toNat := UInt32.le_iff_toNat_le.mp hle
  exact delay?_mono hearlier hfits

theorem delay_doubles_no_longer :
    default.delay? 63 = some (.ofSeconds 30) ∧ default.delay? 64 = none ∧
    default.delay? 4294967295 = some ⟨500000000⟩ :=
  ⟨(delay_doubles 63).1.mpr (by decide), (delay_doubles 64).2.1.mpr (by decide),
    (delay_doubles 4294967295).2.2.1 (by decide)⟩

end RetryPolicy

end CloudProvider
