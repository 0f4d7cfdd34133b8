import CloudProvider.Text.Blank
import CloudProvider.Text.Digit
import CloudProvider.Text.Lowercase
import CloudProvider.Text.Word

/-!
# Text patterns

- `CharClass`: a set of characters.
- `Pattern`: a regular expression with assertions about the place it is at.
- `Spot`: a place in a text.
- `Pattern.reach`: the places a pattern leads to.
- `Pattern.occursIn`: some part of a text fits the pattern.
-/

namespace CloudProvider
set_option autoImplicit false

/-! ## Sets of characters -/

/-- A set of characters. -/
inductive CharClass where
  | range (low high : Char)
  | digit
  | blank
  | word
  | none
  | complement (s : CharClass)
  | union (s t : CharClass)
  | inter (s t : CharClass)
  /-- The characters in `s`, and those whose lower case or, for an ASCII letter, other case is. -/
  | anyCase (s : CharClass)
deriving DecidableEq

namespace CharClass

/-- The other case of an ASCII letter. -/
def swapCase (c : Char) : Char :=
  if c.isUpper then c.toLower else c.toUpper

def has : CharClass → Char → Bool
  | range low high, c => low ≤ c && c ≤ high
  | digit, c => Text.isDecimalDigit c
  | blank, c => Text.isBlank c
  | word, c => Text.isWord c
  | none, _ => false
  | complement s, c => !s.has c
  | union s t, c => s.has c || t.has c
  | inter s t, c => s.has c && t.has c
  | anyCase s, c => s.has c || s.has (swapCase c) || s.has (Text.lowercaseChar c)

def single (c : Char) : CharClass := range c c

def all : CharClass := complement none

/-- Every character that does not end a line. -/
def inLine : CharClass := complement (single '\n')

end CharClass

/-! ## Patterns -/

/-- What is asserted about a place without passing any character. -/
inductive Assertion where
  | textStart
  | textEnd
  | lineStart
  | lineEnd
  | wordBoundary
  | noWordBoundary
deriving DecidableEq

/-- A regular expression. -/
inductive Pattern where
  | empty
  | char (s : CharClass)
  | assert (a : Assertion)
  | seq (p q : Pattern)
  | alt (p q : Pattern)
  | star (p : Pattern)
deriving DecidableEq

namespace Pattern

def opt (p : Pattern) : Pattern := alt p empty

def times (p : Pattern) : Nat → Pattern
  | 0 => empty
  | n + 1 => seq p (p.times n)

def atMost (p : Pattern) : Nat → Pattern
  | 0 => empty
  | n + 1 => opt (seq p (p.atMost n))

/-- The pattern at least `least` times and, if there is a limit, at most `most` times. -/
def counted (p : Pattern) (least : Nat) : Option Nat → Pattern
  | none => seq (p.times least) (star p)
  | some most => seq (p.times least) (p.atMost (most - least))

end Pattern

/-! ## Places -/

/-- A place in a text: its number, the character before it and the characters after it. -/
structure Spot where
  index : Nat
  before : Option Char
  after : List Char
deriving DecidableEq

namespace Spot

/-- The place behind the next character. -/
def past (s : Spot) (c : Char) (rest : List Char) : Spot :=
  ⟨s.index + 1, some c, rest⟩

def allFrom (index : Nat) (before : Option Char) : List Char → List Spot
  | [] => [⟨index, before, []⟩]
  | c :: rest => ⟨index, before, c :: rest⟩ :: allFrom (index + 1) (some c) rest

def all (cs : List Char) : List Spot :=
  allFrom 0 none cs

/-- A character that belongs to a word stands there. -/
def isWordAt (c : Option Char) : Bool :=
  (c.map Text.isWord).getD false

def satisfies (s : Spot) : Assertion → Bool
  | .textStart => s.before.isNone
  | .textEnd => s.after.isEmpty
  | .lineStart => s.before.isNone || s.before = some '\n'
  | .lineEnd => s.after.isEmpty || s.after.head? = some '\n'
  | .wordBoundary => isWordAt s.before != isWordAt s.after.head?
  | .noWordBoundary => isWordAt s.before == isWordAt s.after.head?

end Spot

/-! ## Matching -/

namespace Pattern

/-- Places without repetition, the new ones last. -/
def join (seen more : List Spot) : List Spot :=
  more.foldl (fun seen s => if seen.any (·.index == s.index) then seen else seen ++ [s]) seen

/-- The places reached by repeating a step, `front` being the newest of those reached. Each round
but the last reaches a new place. -/
def repeated (step : List Spot → List Spot) : Nat → List Spot → List Spot → List Spot
  | 0, seen, _ => seen
  | fuel + 1, seen, front =>
    let fresh := (step front).filter fun s => !seen.any (·.index == s.index)
    if fresh.isEmpty then seen else repeated step fuel (join seen fresh) fresh

/-- More rounds than there are places behind any of these. -/
def rounds (spots : List Spot) : Nat :=
  (spots.map fun s => s.after.length + 1).foldl max 0 + 1

/-- The places that the pattern leads to from these. -/
def reach : Pattern → List Spot → List Spot
  | empty, spots => spots
  | char s, spots => spots.filterMap fun spot =>
    match spot.after with
    | [] => none
    | c :: rest => if s.has c then some (spot.past c rest) else none
  | assert a, spots => spots.filter (·.satisfies a)
  | seq p q, spots => q.reach (p.reach spots)
  | alt p q, spots => join (p.reach spots) (q.reach spots)
  | star p, spots => repeated p.reach (rounds spots) spots spots

/-- Some part of the text fits the pattern. -/
def occursIn (p : Pattern) (text : String) : Bool :=
  !(p.reach (Spot.all text.toList)).isEmpty

end Pattern

end CloudProvider
