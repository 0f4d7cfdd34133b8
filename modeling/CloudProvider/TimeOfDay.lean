import CloudProvider.Text.Blank
import CloudProvider.Text.Digit

/-!
# Times of day

A time of day is written as hour, minute and second with colons between them. A minute may have
a leap second.

- `TimeOfDay`: a time.
- `TimeOfDay.parse`: the time that a text writes.
- `TimeOfDay.Fault`: what is wrong with a text.
- `TimeOfDay.text`: the usual way of writing a time.
-/

namespace CloudProvider
set_option autoImplicit false

/-- A time of day, with a leap second as the last second of a minute. -/
structure TimeOfDay where
  hour : Fin 24
  minute : Fin 60
  second : Fin 61
deriving DecidableEq

namespace TimeOfDay

/-- What is wrong with a text that should be a time. -/
inductive Fault where
  | outOfRange
  | badCharacter
  | tooShort
  | tooLong
deriving DecidableEq

def Fault.message : Fault → String
  | outOfRange => "input is out of range"
  | badCharacter => "input contains invalid characters"
  | tooShort => "premature end of input"
  | tooLong => "trailing input"

/-! ## Reading -/

/-- One or two digits, with blanks before them. -/
def digits (cs : List Char) : Except Fault (Nat × List Char) :=
  match Text.trimStart cs with
  | [] => .error .tooShort
  | c :: rest =>
    if Text.isDigit c then
      match rest with
      | [] => .ok (Text.digitValue c, [])
      | d :: rest =>
        if Text.isDigit d then .ok (10 * Text.digitValue c + Text.digitValue d, rest)
        else .ok (Text.digitValue c, d :: rest)
    else .error .badCharacter

/-- A number below a bound. -/
def number (bound : Nat) (cs : List Char) : Except Fault (Fin bound × List Char) := do
  let (n, rest) ← digits cs
  if h : n < bound then return (⟨n, h⟩, rest) else throw .outOfRange

def colon : List Char → Except Fault (List Char)
  | [] => .error .tooShort
  | c :: rest => if c = ':' then .ok rest else .error .badCharacter

/-- The time that a text writes. -/
def parse (s : String) : Except Fault TimeOfDay := do
  let (hour, rest) ← number 24 s.toList
  let (minute, rest) ← number 60 (← colon rest)
  let (second, rest) ← number 61 (← colon rest)
  if rest.isEmpty then return ⟨hour, minute, second⟩ else throw .tooLong

/-! ## Writing -/

def twoDigits (n : Nat) : String :=
  if n < 10 then s!"0{n}" else toString n

/-- The usual way of writing a time. -/
def text (t : TimeOfDay) : String :=
  s!"{twoDigits t.hour}:{twoDigits t.minute}:{twoDigits t.second}"

end TimeOfDay

end CloudProvider
