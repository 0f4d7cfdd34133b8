import CloudProvider.Binary64.Basic
import CloudProvider.Keyed

/-!
# JSON values

- `Integer`: an integer of at most 64 bits, with or without sign.
- `Json`: a value. Integers and floating-point numbers are kept apart, and the members of an
  object stand in the order of their keys.
- `Json.same`: equality of values, for which the two zeros are one number.
-/

namespace CloudProvider
set_option autoImplicit false

/-- An integer that fits 64 bits, signed if it is negative and unsigned if it is not. -/
structure Integer where
  val : Int
  lower : -9223372036854775808 ≤ val
  upper : val < 18446744073709551616
deriving DecidableEq

namespace Integer

/-- The integer, if it fits. -/
def ofInt? (n : Int) : Option Integer :=
  if h : -9223372036854775808 ≤ n ∧ n < 18446744073709551616 then some ⟨n, h.1, h.2⟩ else none

def ofUInt64 (n : UInt64) : Integer :=
  ⟨n.toNat, by omega, by have := n.toNat_lt; omega⟩

def ofInt64 (n : Int64) : Integer :=
  ⟨n.toInt, n.le_toInt, by have := n.toInt_lt; omega⟩

/-- The integer as a signed word, if it is one. -/
def toInt64? (n : Integer) : Option Int64 :=
  if n.val < 9223372036854775808 then some (Int64.ofInt n.val) else none

@[simp] theorem toInt64?_ofInt64 (n : Int64) : (ofInt64 n).toInt64? = some n := by
  rw [toInt64?, if_pos (show (ofInt64 n).val < 9223372036854775808 from n.toInt_lt)]
  exact congrArg some n.ofInt_toInt

end Integer

inductive Number where
  | int (n : Integer)
  | float (x : Binary64)
deriving DecidableEq

inductive Json where
  | null
  | bool (b : Bool)
  | number (n : Number)
  | string (s : String)
  | array (items : List Json)
  | object (members : List (String × Json))

namespace Json

instance : Inhabited Json := ⟨null⟩

/-! ## Construction -/

def uint64 (n : UInt64) : Json := number (.int (.ofUInt64 n))

def uint32 (n : UInt32) : Json := uint64 n.toUInt64

def uint16 (n : UInt16) : Json := uint64 n.toUInt64

def uint8 (n : UInt8) : Json := uint64 n.toUInt64

def int64 (n : Int64) : Json := number (.int (.ofInt64 n))

/-- A value that may be missing is written as null. -/
def option {α : Type} (toJson : α → Json) : Option α → Json
  | none => null
  | some a => toJson a

def strings (xs : List String) : Json := array (xs.map string)

/-- A member that is left out if it has no value. -/
def member? {α : Type} (key : String) (toJson : α → Json) : Option α → List (String × Json)
  | none => []
  | some a => [(key, toJson a)]

/-! ## Views -/

def isNull : Json → Bool
  | null => true
  | _ => false

def asString? : Json → Option String
  | string s => some s
  | _ => none

def asBool? : Json → Option Bool
  | bool b => some b
  | _ => none

def asInt64? : Json → Option Int64
  | number (.int n) => n.toInt64?
  | _ => none

def asArray? : Json → Option (List Json)
  | array items => some items
  | _ => none

def asObject? : Json → Option (Keyed Json)
  | object members => some members
  | _ => none

/-! ## Equality -/

/-- Equal numbers of one kind. An integer never equals a floating-point number. -/
def sameNumber : Number → Number → Bool
  | .int m, .int n => m = n
  | .float x, .float y => x.sameValue y
  | _, _ => false

mutual

def same : Json → Json → Bool
  | null, null => true
  | bool a, bool b => a = b
  | number m, number n => sameNumber m n
  | string s, string t => s = t
  | array xs, array ys => sameItems xs ys
  | object xs, object ys => sameMembers xs ys
  | _, _ => false

def sameItems : List Json → List Json → Bool
  | [], [] => true
  | x :: xs, y :: ys => same x y && sameItems xs ys
  | _, _ => false

def sameMembers : List (String × Json) → List (String × Json) → Bool
  | [], [] => true
  | (k, x) :: xs, (l, y) :: ys => k = l && same x y && sameMembers xs ys
  | _, _ => false

end

/-- Values that may be missing are equal if both are missing or both are equal. -/
def sameOption : Option Json → Option Json → Bool
  | none, none => true
  | some x, some y => same x y
  | _, _ => false

end Json

end CloudProvider
