import CloudProvider.Binary64.Basic

/-!
# The shortest decimal that reads back

Every real number in an interval around a finite number rounds to it. Of the decimals in that
interval the text takes one with the fewest digits, and of those the nearest.

- `Binary64.shortest`: its digits and exponent.
- `Binary64.text`: its text, with a point or an exponent.
-/

namespace CloudProvider.Binary64
set_option autoImplicit false

/-- `digits · 10 ^ exponent`. -/
structure Decimal where
  digits : Nat
  exponent : Int
deriving DecidableEq

/-- The reals that round to a number, in units of `1 / den`. The ends belong to it if the
significand is even. -/
structure Interval where
  low : Nat
  value : Nat
  high : Nat
  den : Nat
  closed : Bool

/-- The interval of a number that is not zero. Below a power of two the spacing is half as wide. -/
def interval (x : Binary64) : Interval :=
  let unit := Nat.pow 2 (x.exponent - 2).toNat
  let below := if x.significand = fullSignificand ∧ x.exponent ≠ -1074 then 1 else 2
  { low := (4 * x.significand - below) * unit
    value := 4 * x.significand * unit
    high := (4 * x.significand + 2) * unit
    den := Nat.pow 2 (2 - x.exponent).toNat
    closed := x.significand % 2 = 0 }

/-- `digits · 10 ^ exponent` in units of `1 / den`, over the denominator that keeps it whole. -/
def onGrid (den digits : Nat) (exponent : Int) : Nat × Nat :=
  (digits * Nat.pow 10 exponent.toNat * den, Nat.pow 10 (-exponent).toNat)

def Interval.has (i : Interval) (d : Decimal) : Bool :=
  let (n, scale) := onGrid i.den d.digits d.exponent
  if i.closed then i.low * scale ≤ n && n ≤ i.high * scale
  else i.low * scale < n && n < i.high * scale

def digitCount (n : Nat) : Nat :=
  (Nat.toDigits 10 n).length

/-- The exponent of the first significant digit of `num / den`. -/
def leadingExponent (num den : Nat) : Int :=
  if den ≤ num then digitCount (num / den) - 1 else -(digitCount ((den - 1) / num) : Int)

/-- Of the two neighbours of the value on the grid `10 ^ exponent`, the nearer one that lies in
the interval; of two equally near ones the even one. -/
def neighbour? (i : Interval) (exponent : Int) : Option Decimal :=
  let num := i.value * Nat.pow 10 (-exponent).toNat
  let den := i.den * Nat.pow 10 exponent.toNat
  let floor := num / den
  let down : Decimal := ⟨floor, exponent⟩
  let up : Decimal := ⟨floor + 1, exponent⟩
  match i.has down, i.has up with
  | true, true =>
    let rest := num % den
    if 2 * rest < den then some down
    else if den < 2 * rest then some up
    else if floor % 2 = 0 then some down else some up
  | true, false => some down
  | false, true => some up
  | false, false => none

/-- The decimal of least length, trying `count` lengths from `length` on. -/
def shortestFrom (i : Interval) (leading : Int) (length : Nat) : Nat → Decimal
  | 0 => ⟨i.value / i.den, 0⟩
  | count + 1 =>
    match neighbour? i (leading - length + 1) with
    | some d => d
    | none => shortestFrom i leading (length + 1) count

/-- The shortest decimal that reads back as the magnitude of a number that is not zero. -/
def shortest (x : Binary64) : Decimal :=
  let i := interval x
  shortestFrom i (leadingExponent i.value i.den) 1 17

/-! ## Text -/

/-- The least and greatest exponent of a leading digit that is written without an exponent. -/
def positional (leading : Int) : Bool :=
  -4 ≤ leading && leading ≤ 15

/-- An exponent has a sign and at least two digits. -/
def exponentText (n : Int) : List Char :=
  let digits := Nat.toDigits 10 n.natAbs
  (if n < 0 then '-' else '+') :: (if digits.length < 2 then '0' :: digits else digits)

/-- Digits with a point after the first `whole` of them, and a zero where a side would be empty. -/
def pointed (digits : List Char) (whole : Int) : List Char :=
  if whole ≤ 0 then '0' :: '.' :: (List.replicate (-whole).toNat '0' ++ digits)
  else if digits.length ≤ whole.toNat then
    digits ++ List.replicate (whole.toNat - digits.length) '0' ++ ['.', '0']
  else digits.take whole.toNat ++ '.' :: digits.drop whole.toNat

/-- The digits of a decimal, the point after the first of them, and its exponent. -/
def exponential (digits : List Char) (leading : Int) : List Char :=
  let mantissa := match digits with
    | [] => []
    | [d] => [d]
    | d :: rest => d :: '.' :: rest
  mantissa ++ 'e' :: exponentText leading

def stripZeros (digits : List Char) : List Char :=
  (digits.reverse.dropWhile (· == '0')).reverse

def magnitudeText (x : Binary64) : List Char :=
  if x.significand = 0 then ['0', '.', '0']
  else
    let d := shortest x
    let all := Nat.toDigits 10 d.digits
    let leading := d.exponent + all.length - 1
    let digits := stripZeros all
    if positional leading then pointed digits (leading + 1) else exponential digits leading

/-- The shortest text that reads back, with a point or an exponent. -/
def text (x : Binary64) : String :=
  String.ofList (if x.negative then '-' :: magnitudeText x else magnitudeText x)

end CloudProvider.Binary64
