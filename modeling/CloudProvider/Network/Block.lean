import CloudProvider.Network.Address

/-!
# Blocks of addresses

A block is written as an address and the number of leading bits that its members share.

- `Block`: an address with a length.
- `Block.parse?`: the block that a text writes.
- `Block.truncate`: the block without host bits that has the same members.
-/

namespace CloudProvider
set_option autoImplicit false

/-- An address and the number of leading bits that count. -/
structure Block where
  address : Address
  length : Nat
  fits : length ≤ address.family.bits
deriving DecidableEq

namespace Block

def size (b : Block) : Nat :=
  Nat.pow 2 (b.address.family.bits - b.length)

/-- The digits that a length may have. -/
def lengthDigits : Family → Nat
  | .v4 => 2
  | .v6 => 3

/-- A text that is a block of a family and nothing else. -/
def parseAs? (family : Family) (text : String) : Option Block := do
  let (a, rest) ← Address.read? .inBlock family text.toList
  match rest with
  | '/' :: rest =>
    let (n, rest) ← Address.number? Address.decimalValue? 10 (lengthDigits family) rest
    if h : n ≤ a.family.bits ∧ rest = [] then some ⟨a, n, h.1⟩ else none
  | _ => none

/-- A text that is a block and nothing else. -/
def parse? (text : String) : Option Block :=
  parseAs? .v4 text <|> parseAs? .v6 text

/-- The number without its host bits. -/
def base (b : Block) : Nat :=
  b.address.value - b.address.value % b.size

theorem base_small (b : Block) : b.base < Nat.pow 2 b.address.family.bits :=
  Nat.lt_of_le_of_lt (Nat.sub_le _ _) b.address.small

/-- The block without host bits that has the same members. -/
def truncate (b : Block) : Block :=
  ⟨⟨b.address.family, b.base, b.base_small⟩, b.length, b.fits⟩

/-- Only the leading bits are set. -/
def isTruncated (b : Block) : Bool :=
  b.truncate = b

def Contains (b : Block) (a : Address) : Prop :=
  a.family = b.address.family ∧ a.value / b.size = b.address.value / b.size

/-- The usual way of writing a block. -/
def text (b : Block) : String :=
  s!"{b.address.text}/{b.length}"

end Block

end CloudProvider
