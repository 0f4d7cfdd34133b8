import CloudProvider.Binary64.Basic
import CloudProvider.Duration

/-!
# Delays between attempts

- `RetryPolicy`: how often a request is attempted and how the delay grows.
- `RetryPolicy.delay?`: the delay before the next attempt, in floating-point arithmetic.
-/

namespace CloudProvider
set_option autoImplicit false

/-- How often a request is attempted and how the delay grows. -/
structure RetryPolicy where
  maxAttempts : Nat
  initialDelay : Duration
  maxDelay : Duration
  multiplier : Real64
deriving DecidableEq

namespace RetryPolicy

/-- Three attempts, with a delay of one second that doubles up to half a minute. -/
def default : RetryPolicy := ⟨3, .ofSeconds 1, .ofSeconds 30, .ofNat 2⟩

/-- A single attempt. -/
def disabled : RetryPolicy := { default with maxAttempts := 1 }

def secondsOf (d : Duration) : Real64 :=
  (Real64.ofNat d.seconds).add ((Real64.ofNat d.subsecond).div (.ofNat 1000000000))

/-- The duration of so many seconds, to the nearest nanosecond and a tie to the even one. It is
not negative and its seconds fit 64 bits. -/
def durationOf? : Real64 → Option Duration
  | .finite x =>
    let (num, den) := x.ratio
    if x.negative && x.significand ≠ 0 then none
    else if UInt64.size * den ≤ num then none
    else some ⟨Binary64.nearestEven (num * 1000000000) den⟩
  | _ => none

/-- The exponent of an attempt: its number as a signed word of 32 bits. -/
def exponentOf (attempt : Nat) : Int :=
  Int.bmod attempt UInt32.size

/-- The delay after attempt number `attempt`, counted from zero, or `none` if it cannot be
represented before the cap applies. -/
def delay? (p : RetryPolicy) (attempt : Nat) : Option Duration :=
  let factor := p.multiplier.pow (exponentOf attempt)
  (durationOf? ((secondsOf p.initialDelay).mul factor)).map (·.min p.maxDelay)

end RetryPolicy

end CloudProvider
