import CloudProvider.Network.Address
import CloudProvider.Text.Utf8

/-!
# Percent encoding

A byte is written as a percent sign and two hexadecimal digits.

- `encode`: writes the characters of a set that way, and all that are not ASCII.
- `decode`: the bytes that a text stands for.
- `inPath`, `inSegment`, `inQuery`, `inFragment`, `inUserinfo`: what has to be encoded where.
-/

namespace CloudProvider.Url
set_option autoImplicit false

/-- A hexadecimal digit, upper case. -/
def hexDigit (n : Nat) : Char :=
  if n < 10 then Char.ofNat (48 + n) else Char.ofNat (55 + n)

/-- A byte as a percent sign and two digits. -/
def escapeByte (b : Nat) : List Char :=
  ['%', hexDigit (b / 16), hexDigit (b % 16)]

/-- A character as the escapes of its bytes. -/
def escape (c : Char) : List Char :=
  (Text.utf8OfChar c).flatMap escapeByte

/-- A text in which the characters of a set and all that are not ASCII are escaped. -/
def encode (must : Char → Bool) (cs : List Char) : List Char :=
  cs.flatMap fun c => if must c || 128 ≤ c.toNat then escape c else [c]

/-- The bytes that a text stands for. A percent sign without two digits stands for itself. -/
def decode : List Char → List Nat
  | [] => []
  | '%' :: a :: b :: rest =>
    match Address.hexValue? a, Address.hexValue? b with
    | some m, some n => (16 * m + n) :: decode rest
    | _, _ => 37 :: decode (a :: b :: rest)
  | c :: rest => Text.utf8OfChar c ++ decode rest

/-! ## What has to be encoded -/

def isControl (c : Char) : Bool :=
  c.toNat < 32 || c.toNat = 127

def inFragment (c : Char) : Bool :=
  isControl c || [' ', '"', '<', '>', '\x60'].contains c

def inQuery (special : Bool) (c : Char) : Bool :=
  isControl c || [' ', '"', '#', '<', '>'].contains c || (special && c = '\'')

def inPath (c : Char) : Bool :=
  inFragment c || ['#', '?', '\x7b', '\x7d'].contains c

def inUserinfo (c : Char) : Bool :=
  inPath c || ['/', ':', ';', '=', '@', '[', '\\', ']', '^', '|'].contains c

/-- What has to be encoded in a path segment that is added to a URL. -/
def inSegment (special : Bool) (c : Char) : Bool :=
  inPath c || c = '/' || c = '%' || (special && c = '\\')

end CloudProvider.Url
