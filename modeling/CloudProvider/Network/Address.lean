import CloudProvider.Text.Digit

/-!
# Network addresses

- `Family`: the two kinds of address, with their lengths.
- `Address`: an address as a number.
- `Address.parse?`: the address that a text writes.
- `Address.text`: the usual way of writing an address.
-/

namespace CloudProvider
set_option autoImplicit false

/-- The two kinds of address. -/
inductive Family where
  | v4
  | v6
deriving DecidableEq

def Family.bits : Family → Nat
  | v4 => 32
  | v6 => 128

/-- An address as a number. -/
structure Address where
  family : Family
  value : Nat
  small : value < Nat.pow 2 family.bits
deriving DecidableEq

namespace Address

/-- The address with this number, if it has no more bits than the family. -/
def ofValue? (family : Family) (value : Nat) : Option Address :=
  if h : value < Nat.pow 2 family.bits then some ⟨family, value, h⟩ else none

/-! ## Reading -/

/-- How freely addresses are written: whether decimal numbers may start with zeros, and how many
groups a double colon stands for at least. -/
structure Spelling where
  leadingZeros : Bool
  gap : Nat

/-- The spelling of an address that stands alone. -/
def Spelling.alone : Spelling := ⟨false, 1⟩

/-- The spelling of an address in front of a length. -/
def Spelling.inBlock : Spelling := ⟨true, 0⟩

def hexValue? (c : Char) : Option Nat :=
  if Text.isDigit c then some (Text.digitValue c)
  else if 'a' ≤ c && c ≤ 'f' then some (c.toNat - 87)
  else if 'A' ≤ c && c ≤ 'F' then some (c.toNat - 55)
  else none

/-- All digits from here on, at most `most` of them, as a number. -/
def number? (digit? : Char → Option Nat) (base most : Nat) (cs : List Char) :
    Option (Nat × List Char) :=
  let digits := cs.takeWhile fun c => (digit? c).isSome
  if digits.isEmpty || most < digits.length then none
  else
    some (digits.foldl (fun n c => base * n + (digit? c).getD 0) 0, cs.drop digits.length)

def decimalValue? (c : Char) : Option Nat :=
  if Text.isDigit c then some (Text.digitValue c) else none

/-- One of the four numbers of a short address. -/
def octet? (spelling : Spelling) (cs : List Char) : Option (Nat × List Char) :=
  match cs, number? decimalValue? 10 3 cs with
  | '0' :: d :: _, some (n, rest) =>
    if Text.isDigit d && !spelling.leadingZeros then none
    else if n < 256 then some (n, rest) else none
  | _, some (n, rest) => if n < 256 then some (n, rest) else none
  | _, none => none

/-- The text behind a character. -/
def after? (c : Char) : List Char → Option (List Char)
  | [] => none
  | d :: rest => if d = c then some rest else none

/-- Four numbers with points between them. -/
def quad? (spelling : Spelling) (cs : List Char) : Option (Nat × List Char) := do
  let (a, cs) ← octet? spelling cs
  let (b, cs) ← octet? spelling (← after? '.' cs)
  let (c, cs) ← octet? spelling (← after? '.' cs)
  let (d, cs) ← octet? spelling (← after? '.' cs)
  return (((a * 256 + b) * 256 + c) * 256 + d, cs)

/-- One group of a long address. -/
def group? (cs : List Char) : Option (Nat × List Char) :=
  number? hexValue? 16 4 cs

/-- At most so many groups with colons between them, the last two perhaps written as a short
address, and whether they were. -/
def groups (spelling : Spelling) : Nat → Bool → List Char → List Nat × Bool × List Char
  | 0, _, cs => ([], false, cs)
  | n + 1, first, cs =>
    match if first then some cs else after? ':' cs with
    | none => ([], false, cs)
    | some body =>
      match if n = 0 then none else quad? spelling body with
      | some (a, rest) => ([a / 65536, a % 65536], true, rest)
      | none =>
        match group? body with
        | some (g, rest) =>
          let (more, quad, rest) := groups spelling n false rest
          (g :: more, quad, rest)
        | none => ([], false, cs)

def ofGroups (gs : List Nat) : Nat :=
  gs.foldl (fun n g => 65536 * n + g) 0

/-- Eight groups, of which a double colon may stand for a run of zeros. -/
def long? (spelling : Spelling) (cs : List Char) : Option (Nat × List Char) :=
  let (front, quad, rest) := groups spelling 8 true cs
  if front.length = 8 then some (ofGroups front, rest)
  else if quad then none
  else
    match rest with
    | ':' :: ':' :: rest =>
      let (back, _, rest) := groups spelling (8 - front.length - spelling.gap) true rest
      let zeros := List.replicate (8 - front.length - back.length) 0
      some (ofGroups (front ++ zeros ++ back), rest)
    | _ => none

/-- An address at the start of a text. -/
def read? (spelling : Spelling) (family : Family) (cs : List Char) : Option (Address × List Char) := do
  let (n, rest) ← match family with
    | .v4 => quad? spelling cs
    | .v6 => long? spelling cs
  return (← ofValue? family n, rest)

/-- A text that is an address of a family and nothing else. -/
def parseAs? (family : Family) (text : String) : Option Address :=
  match read? .alone family text.toList with
  | some (a, []) => some a
  | _ => none

/-- A text that is an address and nothing else. -/
def parse? (text : String) : Option Address :=
  parseAs? .v4 text <|> parseAs? .v6 text

/-! ## Writing -/

/-- The groups of a number, from the highest. -/
def toGroups (base : Nat) : Nat → Nat → List Nat
  | 0, _ => []
  | count + 1, n => toGroups base count (n / base) ++ [n % base]

def hex (n : Nat) : List Char := Nat.toDigits 16 n

def joined (separator : Char) (parts : List (List Char)) : List Char :=
  List.intercalate [separator] parts

/-- Four numbers with points between them. -/
def quadChars (n : Nat) : List Char :=
  joined '.' ((toGroups 256 4 n).map (Nat.toDigits 10))

def zerosAhead (gs : List Nat) : Nat :=
  (gs.takeWhile (· == 0)).length

/-- The start and length of the first longest run of zeros. -/
def longestZeros : List Nat → Nat × Nat
  | [] => (0, 0)
  | g :: gs =>
    let (start, length) := longestZeros gs
    let here := zerosAhead (g :: gs)
    if length ≤ here then (0, here) else (start + 1, length)

/-- Groups in hexadecimal with colons between them. -/
def colons (gs : List Nat) : List Char :=
  joined ':' (gs.map hex)

/-- Groups with the first longest run of at least two zeros left out. -/
def compressed (gs : List Nat) : List Char :=
  let (start, length) := longestZeros gs
  if length < 2 then colons gs
  else colons (gs.take start) ++ [':', ':'] ++ colons (gs.drop (start + length))

/-- The characters of an address. A short address inside a long one keeps its points. -/
def chars (a : Address) : List Char :=
  match a.family with
  | .v4 => quadChars a.value
  | .v6 =>
    if a.value / UInt32.size = 0xFFFF then
      [':', ':', 'f', 'f', 'f', 'f', ':'] ++ quadChars (a.value % UInt32.size)
    else compressed (toGroups 65536 8 a.value)

/-- The usual way of writing an address. -/
def text (a : Address) : String :=
  String.ofList a.chars

end Address

end CloudProvider
