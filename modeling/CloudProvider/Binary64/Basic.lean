/-!
# Binary floating-point numbers

A number of 53 significant bits is kept as a sign, a significand and an exponent in a normal form,
so that two numbers are the same exactly when the three agree.

- `Binary64`: a finite number.
- `Binary64.ofRatio`: the number nearest to a quotient, a tie going to the even significand.
- `Real64`: a finite number, an infinity or no number at all.
- `Real64.mul`, `Real64.div`, `Real64.add`: the exact result, rounded.
- `Real64.pow`: the power by an integer, by repeated squaring.
-/

namespace CloudProvider
set_option autoImplicit false

/-- The least significand that uses all of its 53 bits. -/
abbrev Binary64.fullSignificand : Nat := 4503599627370496

/-- The significand uses all its bits unless the exponent is the least one. -/
def Binary64.Normal (significand : Nat) (exponent : Int) : Prop :=
  significand < 2 * fullSignificand ∧ -1074 ≤ exponent ∧ exponent ≤ 971 ∧
    (fullSignificand ≤ significand ∨ exponent = -1074)

instance (significand : Nat) (exponent : Int) : Decidable (Binary64.Normal significand exponent) := by
  unfold Binary64.Normal; infer_instance

/-- A finite number: `significand · 2 ^ exponent`, negated if `negative`. -/
structure Binary64 where
  negative : Bool
  significand : Nat
  exponent : Int
  normal : Binary64.Normal significand exponent
deriving DecidableEq

namespace Binary64

def zero (negative : Bool) : Binary64 :=
  ⟨negative, 0, -1074, by decide⟩

instance : Inhabited Binary64 := ⟨zero false⟩

def neg (x : Binary64) : Binary64 :=
  { x with negative := !x.negative }

/-- The two zeros are one value; otherwise equal numbers agree in every part. -/
def sameValue (x y : Binary64) : Bool :=
  x = y || (x.significand = 0 && y.significand = 0)

/-! ## Rounding -/

/-- The integer nearest to `num / den`, a tie going to the even one. -/
def nearestEven (num den : Nat) : Nat :=
  let floor := num / den
  let rest := num % den
  if 2 * rest < den then floor
  else if den < 2 * rest then floor + 1
  else if floor % 2 = 0 then floor
  else floor + 1

/-- `num / den` divided by `2 ^ exponent`, as a numerator and a denominator. -/
def scale (num den : Nat) (exponent : Int) : Nat × Nat :=
  if 0 ≤ exponent then (num, den * Nat.pow 2 exponent.toNat) else (num * Nat.pow 2 (-exponent).toNat, den)

/-- The exponent at which `num / den` fills 53 bits, but no less than the least exponent. -/
def exponentOf (num den : Nat) : Int :=
  let guess : Int := max (num.log2 - den.log2 - 52 : Int) (-1074)
  let (n, d) := scale num den guess
  if n / d < fullSignificand then max (guess - 1) (-1074) else guess

/-- The number nearest to `num / den`, or `none` if it is too large to be finite. -/
def ofRatio (negative : Bool) (num den : Nat) : Option Binary64 :=
  if num = 0 then some (zero negative)
  else
    let exponent := exponentOf num den
    let (n, d) := scale num den exponent
    let significand := nearestEven n d
    if h : Normal significand exponent then some ⟨negative, significand, exponent, h⟩
    else if h : significand = 2 * fullSignificand ∧ Normal fullSignificand (exponent + 1) then
      some ⟨negative, fullSignificand, exponent + 1, h.2⟩
    else none

/-- The magnitude as a numerator and a denominator. -/
def ratio (x : Binary64) : Nat × Nat :=
  if 0 ≤ x.exponent then (x.significand * Nat.pow 2 x.exponent.toNat, 1)
  else (x.significand, Nat.pow 2 (-x.exponent).toNat)

end Binary64

/-! ## Arithmetic beyond the finite numbers -/

/-- The result of an operation. -/
inductive Real64 where
  | finite (x : Binary64)
  | infinite (negative : Bool)
  | nan
deriving DecidableEq

namespace Real64

/-- The number nearest to a quotient; what is too large becomes an infinity. -/
def ofRatio (negative : Bool) (num den : Nat) : Real64 :=
  match Binary64.ofRatio negative num den with
  | some x => finite x
  | none => infinite negative

def ofNat (n : Nat) : Real64 :=
  ofRatio false n 1

def mul : Real64 → Real64 → Real64
  | finite x, finite y =>
    ofRatio (x.negative != y.negative) (x.ratio.1 * y.ratio.1) (x.ratio.2 * y.ratio.2)
  | finite x, infinite s => if x.significand = 0 then nan else infinite (x.negative != s)
  | infinite s, finite y => if y.significand = 0 then nan else infinite (s != y.negative)
  | infinite s, infinite t => infinite (s != t)
  | _, _ => nan

def div : Real64 → Real64 → Real64
  | finite x, finite y =>
    if y.significand = 0 then
      if x.significand = 0 then nan else infinite (x.negative != y.negative)
    else ofRatio (x.negative != y.negative) (x.ratio.1 * y.ratio.2) (x.ratio.2 * y.ratio.1)
  | finite x, infinite s => finite (Binary64.zero (x.negative != s))
  | infinite s, finite y => infinite (s != y.negative)
  | _, _ => nan

/-- The sum of two numbers of which neither is negative. -/
def add : Real64 → Real64 → Real64
  | finite x, finite y =>
    ofRatio false (x.ratio.1 * y.ratio.2 + y.ratio.1 * x.ratio.2) (x.ratio.2 * y.ratio.2)
  | nan, _ => nan
  | _, nan => nan
  | _, _ => infinite false

/-- `r · a ^ n`, squaring `a` once for each bit of `n` after the first. -/
def powFrom (r a : Real64) (n : Nat) : Real64 :=
  let r := if n % 2 = 1 then r.mul a else r
  if h : n / 2 = 0 then r else powFrom r (a.mul a) (n / 2)
termination_by n
decreasing_by omega

/-- `a ^ n`; a negative power is the reciprocal of the positive one. -/
def pow (a : Real64) (n : Int) : Real64 :=
  let r := powFrom (ofNat 1) a n.natAbs
  if n < 0 then (ofNat 1).div r else r

end Real64

end CloudProvider
