import CloudProvider.ProviderError
import CloudProvider.Text.Blank
import CloudProvider.Text.Digit
import CloudProvider.Text.Quoted

/-!
# Durations

A duration is written as numbers with units, such as `1h30m` or `250ms`, and stands for their sum.

- `Duration`: a span of time in whole nanoseconds.
- `TimeUnit`: the units that a duration is written with.
- `Duration.components`: the numbers and units of a text.
- `Duration.parse`: the duration that a text stands for.
-/

namespace CloudProvider
set_option autoImplicit false

/-- A span of time in whole nanoseconds. -/
structure Duration where
  nanos : Nat
deriving DecidableEq

namespace Duration

def ofMillis (n : Nat) : Duration := ⟨n * 1000000⟩

def ofSeconds (n : Nat) : Duration := ⟨n * 1000000000⟩

def ofMinutes (n : Nat) : Duration := ofSeconds (n * 60)

def seconds (d : Duration) : Nat := d.nanos / 1000000000

/-- The nanoseconds beyond the whole seconds. -/
def subsecond (d : Duration) : Nat := d.nanos % 1000000000

def millis (d : Duration) : Nat := d.nanos / 1000000

/-- The milliseconds after which the duration has passed. -/
def millisCeil (d : Duration) : Nat :=
  d.millis + if d.nanos % 1000000 = 0 then 0 else 1

protected def min (d e : Duration) : Duration := ⟨Nat.min d.nanos e.nanos⟩

end Duration

/-! ## Units -/

inductive TimeUnit where
  | hour
  | minute
  | second
  | millisecond
deriving DecidableEq

def TimeUnit.millis : TimeUnit → Nat
  | hour => 3600000
  | minute => 60000
  | second => 1000
  | millisecond => 1

/-- The unit that a letter alone stands for. -/
def TimeUnit.ofLetter? : Char → Option TimeUnit
  | 'h' => some hour
  | 'm' => some minute
  | 's' => some second
  | _ => none

/-! ## Reading -/

namespace Duration

/-- A number and its unit. -/
structure Component where
  count : Nat
  unit : TimeUnit
deriving DecidableEq

def Component.millis (c : Component) : Nat :=
  c.count * c.unit.millis

/-- Numbers do not exceed 64 bits. -/
def readCount? (digits : List Char) : Option Nat :=
  (Text.readNat? digits).filter (· < UInt64.size)

/-- A component in front of the others, if its number can be read. -/
def withCount (digits : List Char) (unit : TimeUnit) (more : List Component × Bool) :
    List Component × Bool :=
  match readCount? digits with
  | some count => (⟨count, unit⟩ :: more.1, more.2)
  | none => ([], false)

/-- The components of a text of which `digits` have been read, up to the first fault, and whether
there was none. After a number `ms` is one unit. -/
def componentsFrom (digits : List Char) : List Char → List Component × Bool
  | [] => ([], digits.isEmpty)
  | 'm' :: 's' :: rest => withCount digits .millisecond (componentsFrom [] rest)
  | c :: rest =>
    if Text.isDigit c then componentsFrom (digits ++ [c]) rest
    else
      match TimeUnit.ofLetter? c with
      | some unit => withCount digits unit (componentsFrom [] rest)
      | none => ([], false)

/-- The components of a text up to the first fault, and whether there was none. -/
def components (cs : List Char) : List Component × Bool :=
  componentsFrom [] cs

def total (parts : List Component) : Nat :=
  parts.foldr (·.millis + ·) 0

/-- The duration that a text stands for, blanks around it aside. It has at least one component and
does not exceed 64 bits of milliseconds. -/
def parse (text : String) : Except ProviderError Duration :=
  let trimmed := Text.trim text
  let (parts, complete) := components trimmed.toList
  if UInt64.size ≤ total parts then
    .error (.invalidConfig s!"duration too large: {Text.quote trimmed}")
  else if parts.isEmpty || !complete then
    .error (.invalidConfig s!"invalid duration: {Text.quote text}")
  else .ok (.ofMillis (total parts))

end Duration

end CloudProvider
