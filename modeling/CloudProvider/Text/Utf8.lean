/-!
# UTF-8

- `utf8OfChar`: the bytes of a character.
- `decodeUtf8?`: the characters of a byte sequence, if it is well formed.
-/

namespace CloudProvider.Text
set_option autoImplicit false

def utf8OfChar (c : Char) : List Nat :=
  let n := c.toNat
  if n < 0x80 then [n]
  else if n < 0x800 then [0xC0 + n / 64, 0x80 + n % 64]
  else if n < 0x10000 then [0xE0 + n / 4096, 0x80 + n / 64 % 64, 0x80 + n % 64]
  else [0xF0 + n / 262144, 0x80 + n / 4096 % 64, 0x80 + n / 64 % 64, 0x80 + n % 64]

def utf8OfText (cs : List Char) : List Nat :=
  cs.flatMap utf8OfChar

/-! ## Decoding -/

/-- A byte that continues a character. -/
def isContinuation (b : Nat) : Bool :=
  0x80 ≤ b && b ≤ 0xBF

/-- The character that `low` continues, if it needs that many bytes and is a scalar value. -/
def scalar? (least : Nat) (n : Nat) : Option Char :=
  if h : least ≤ n ∧ n.isValidChar then some (Char.ofNatAux n h.2) else none

/-- The characters of a byte sequence, if it is well formed. -/
def decodeUtf8? : List Nat → Option (List Char)
  | [] => some []
  | a :: rest =>
    if a < 0x80 then do return (← scalar? 0 a) :: (← decodeUtf8? rest)
    else if 0xC0 ≤ a && a ≤ 0xDF then
      match rest with
      | b :: rest =>
        if isContinuation b then
          do return (← scalar? 0x80 ((a - 0xC0) * 64 + (b - 0x80))) :: (← decodeUtf8? rest)
        else none
      | _ => none
    else if 0xE0 ≤ a && a ≤ 0xEF then
      match rest with
      | b :: c :: rest =>
        if isContinuation b && isContinuation c then
          do return (← scalar? 0x800 ((a - 0xE0) * 4096 + (b - 0x80) * 64 + (c - 0x80)))
            :: (← decodeUtf8? rest)
        else none
      | _ => none
    else if 0xF0 ≤ a && a ≤ 0xF7 then
      match rest with
      | b :: c :: d :: rest =>
        if isContinuation b && isContinuation c && isContinuation d then
          do return (← scalar? 0x10000
              ((a - 0xF0) * 262144 + (b - 0x80) * 4096 + (c - 0x80) * 64 + (d - 0x80)))
            :: (← decodeUtf8? rest)
        else none
      | _ => none
    else none

end CloudProvider.Text
