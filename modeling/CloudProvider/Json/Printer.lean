import CloudProvider.Binary64.Shortest
import CloudProvider.Json.Basic

/-!
# Printing JSON

- `Json.compact`: a value on one line without blanks.
- `Json.pretty`: a value with one member or item a line, indented by two spaces.
-/

namespace CloudProvider.Json
set_option autoImplicit false

/-! ## Scalars -/

/-- A control character by its code point. -/
def escapedControl (c : Char) : List Char :=
  ['\\', 'u', '0', '0'] ++ [Nat.digitChar (c.toNat / 16), Nat.digitChar (c.toNat % 16)]

/-- One character as it stands in a JSON string. -/
def escaped (c : Char) : List Char :=
  if c = '"' then ['\\', '"']
  else if c = '\\' then ['\\', '\\']
  else if c = '\x08' then ['\\', 'b']
  else if c = '\x0c' then ['\\', 'f']
  else if c = '\n' then ['\\', 'n']
  else if c = '\r' then ['\\', 'r']
  else if c = '\t' then ['\\', 't']
  else if c.toNat < 32 then escapedControl c
  else [c]

def stringChars (s : String) : List Char :=
  '"' :: s.toList.flatMap escaped ++ ['"']

def integerChars (n : Int) : List Char :=
  if n < 0 then '-' :: Nat.toDigits 10 n.natAbs else Nat.toDigits 10 n.natAbs

def numberChars : Number → List Char
  | .int n => integerChars n.val
  | .float x => x.text.toList

def boolChars (b : Bool) : List Char :=
  if b then ['t', 'r', 'u', 'e'] else ['f', 'a', 'l', 's', 'e']

/-! ## On one line -/

mutual

/-- The characters of a value on one line. -/
def chars : Json → List Char
  | null => ['n', 'u', 'l', 'l']
  | bool b => boolChars b
  | number n => numberChars n
  | string s => stringChars s
  | array [] => ['[', ']']
  | array (x :: xs) => '[' :: (chars x ++ itemsChars xs)
  | object [] => ['\x7b', '\x7d']
  | object ((k, x) :: xs) => '\x7b' :: (stringChars k ++ ':' :: (chars x ++ membersChars xs))

/-- The items after the first and the closing bracket. -/
def itemsChars : List Json → List Char
  | [] => [']']
  | x :: xs => ',' :: (chars x ++ itemsChars xs)

/-- The members after the first and the closing brace. -/
def membersChars : List (String × Json) → List Char
  | [] => ['\x7d']
  | (k, x) :: xs => ',' :: (stringChars k ++ ':' :: (chars x ++ membersChars xs))

end

def compact (v : Json) : String :=
  String.ofList v.chars

/-! ## On many lines -/

def newline (depth : Nat) : List Char :=
  '\n' :: List.replicate (2 * depth) ' '

mutual

/-- The characters of a value inside `depth` others, with one member or item a line. -/
def prettyChars (depth : Nat) : Json → List Char
  | null => ['n', 'u', 'l', 'l']
  | bool b => boolChars b
  | number n => numberChars n
  | string s => stringChars s
  | array [] => ['[', ']']
  | array (x :: xs) =>
    '[' :: (newline (depth + 1) ++ prettyChars (depth + 1) x ++ prettyItems depth xs)
  | object [] => ['\x7b', '\x7d']
  | object ((k, x) :: xs) =>
    '\x7b' :: (newline (depth + 1) ++ stringChars k ++ [':', ' '] ++ prettyChars (depth + 1) x ++
      prettyMembers depth xs)

def prettyItems (depth : Nat) : List Json → List Char
  | [] => newline depth ++ [']']
  | x :: xs =>
    ',' :: (newline (depth + 1) ++ prettyChars (depth + 1) x ++ prettyItems depth xs)

def prettyMembers (depth : Nat) : List (String × Json) → List Char
  | [] => newline depth ++ ['\x7d']
  | (k, x) :: xs =>
    ',' :: (newline (depth + 1) ++ stringChars k ++ [':', ' '] ++ prettyChars (depth + 1) x ++
      prettyMembers depth xs)

end

/-- A value with one member or item a line. -/
def pretty (v : Json) : String :=
  String.ofList (prettyChars 0 v)

end CloudProvider.Json
