import CloudProvider.Text.Hidden

/-!
# Quoted text

A text between double quotes, in which every character can be told from every other: quotes and
backslashes take a backslash, and what would not show is written by its code point.

- `Quoted.char`: one character as it stands between the quotes.
- `quote`: a text in quotes.
-/

namespace CloudProvider.Text
set_option autoImplicit false

namespace Quoted

/-- The hexadecimal digits of a number, lower case and without leading zeros. -/
def hex (n : Nat) : List Char :=
  Nat.toDigits 16 n

/-- One character as it stands between the quotes. -/
def char (c : Char) : List Char :=
  if c = '\x00' then ['\\', '0']
  else if c = '\t' then ['\\', 't']
  else if c = '\r' then ['\\', 'r']
  else if c = '\n' then ['\\', 'n']
  else if c = '"' then ['\\', '"']
  else if c = '\\' then ['\\', '\\']
  else if isHidden c then ['\\', 'u', '\x7b'] ++ hex c.toNat ++ ['\x7d']
  else [c]

end Quoted

def quote (s : String) : String :=
  String.ofList ('"' :: s.toList.flatMap Quoted.char ++ ['"'])

end CloudProvider.Text
