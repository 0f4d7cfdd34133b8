import CloudProvider.Json.Decode
import CloudProvider.Json.Parser

/-!
# Reading JSON of a known shape

A text that has to be a record is checked while it is read, so that a mismatch is reported with its
place. Members that the record does not have are passed over; of them only the form of the text is
checked, and they may be nested to any depth.

- `Shape`: what is expected.
- `skip`: passes over a value.
- `Shape.read`: reads a value of a shape.
- `parseShape`: reads a whole text as a value of a shape.
-/

namespace CloudProvider.Json
set_option autoImplicit false

/-- What is expected of a text. A field comes with its name and whether it has to be given. -/
inductive Shape where
  | any
  | natural
  | text
  | optionalText
  | record (title : String) (fields : List (String × Bool × Shape))

/-! ## Passing over values -/

/-- Passes over a string of which the opening quote has been taken, in at most `fuel` steps. -/
def skipString : Nat → Reader Unit
  | 0 => failHere .unfinishedString
  | fuel + 1 => do
    match ← peek with
    | none => failHere .unfinishedString
    | some '"' => drop
    | some '\\' => do
      drop
      match ← take with
      | none => failHere .unfinishedString
      | some 'u' =>
        let _ ← fourDigits
        skipString fuel
      | some c =>
        if ['"', '\\', '/', 'b', 'f', 'n', 'r', 't'].contains c then skipString fuel
        else failHere .invalidEscape
    | some c =>
      if c.toNat < 32 then failHere .controlCharacter
      else
        drop
        skipString fuel

def skipExponent : Reader Unit := do
  drop
  match ← peek with
  | some '+' | some '-' => drop
  | _ => pure ()
  match ← take with
  | some c => if Text.isDigit c then let _ ← takeDigits else failHere .invalidNumber
  | none => failHere .invalidNumber

def skipFraction : Reader Unit := do
  drop
  let digits ← takeDigits
  if digits.isEmpty then failNext .invalidNumber
  else
    match ← peek with
    | some 'e' | some 'E' => skipExponent
    | _ => return

def skipNumber : Reader Unit := do
  match ← take with
  | some '0' =>
    match ← peek with
    | some d => if Text.isDigit d then failNext .invalidNumber
    | none => pure ()
  | some c => if Text.isDigit c then let _ ← takeDigits else failHere .invalidNumber
  | none => failHere .invalidNumber
  match ← peek with
  | some '.' => skipFraction
  | some 'e' | some 'E' => skipExponent
  | _ => return

/-- Passes over a key and its colon. -/
def skipKey (fuel : Nat) : Reader Unit := do
  match ← peekToken with
  | some '"' => drop
  | some _ => failNext .keyNotString
  | none => failNext .unfinishedObject
  skipString fuel
  colon

mutual

/-- Passes over any value in at most `fuel` steps. -/
def skip : Nat → Reader Unit
  | 0 => failNext .tooDeep
  | fuel + 1 => do
    match ← peekToken with
    | none => failNext .unfinishedValue
    | some 'n' => do drop; word ['u', 'l', 'l']
    | some 't' => do drop; word ['r', 'u', 'e']
    | some 'f' => do drop; word ['a', 'l', 's', 'e']
    | some '"' => do drop; skipString (← get).rest.length.succ
    | some '-' => do drop; skipNumber
    | some '[' => do
      drop
      match ← peekToken with
      | some ']' => drop
      | some _ => skip fuel; skipItems fuel
      | none => failNext .unfinishedList
    | some '\x7b' => do
      drop
      match ← peekToken with
      | some '\x7d' => drop
      | some _ =>
        skipKey (← get).rest.length
        skip fuel
        skipMembers fuel
      | none => failNext .unfinishedObject
    | some c => if Text.isDigit c then skipNumber else failNext .expectedValue

/-- Passes over what follows an item of a list. -/
def skipItems : Nat → Reader Unit
  | 0 => failNext .tooDeep
  | fuel + 1 => do
    match ← peekToken with
    | some ',' => do drop; skip fuel; skipItems fuel
    | some ']' => drop
    | some _ => failNext .expectedListEnd
    | none => failNext .unfinishedList

/-- Passes over what follows a member of an object. -/
def skipMembers : Nat → Reader Unit
  | 0 => failNext .tooDeep
  | fuel + 1 => do
    match ← peekToken with
    | some ',' =>
      drop
      skipKey (← get).rest.length
      skip fuel
      skipMembers fuel
    | some '\x7d' => drop
    | some _ => failNext .expectedObjectEnd
    | none => failNext .unfinishedObject

end

/-! ## Values of the wrong type -/

/-- Reports the value that comes next. A list or an object is not read for that. -/
def wrongTypeNext {α : Type} (expected : String) : Reader α := do
  let report {α : Type} (found : Found) : Reader α := mismatch (.invalidType found expected)
  match ← peek with
  | some 'n' => do drop; word ['u', 'l', 'l']; report .null
  | some 't' => do drop; word ['r', 'u', 'e']; report (.bool true)
  | some 'f' => do drop; word ['a', 'l', 's', 'e']; report (.bool false)
  | some '"' => do drop; report (.string (← stringBody))
  | some '[' => report .sequence
  | some '\x7b' => report .map
  | some c =>
    if c = '-' || Text.isDigit c then
      let n ← readNumber
      report (Json.number n).found
    else failNext .expectedValue
  | none => failNext .expectedValue

/-- A value that `decode` accepts once it is read. -/
def checked {α : Type} (decode : Decoder α) (v : Json) : Reader Json := do
  match decode v with
  | .ok _ => return v
  | .error m => mismatch m

def readString : Reader Json := do
  match ← peekToken with
  | none => failNext .unfinishedValue
  | some '"' => do drop; return .string (← stringBody)
  | some _ => wrongTypeNext "a string"

def readNatural : Reader Json := do
  match ← peekToken with
  | none => failNext .unfinishedValue
  | some c =>
    if c = '-' || Text.isDigit c then checked Decode.uint64 (.number (← readNumber))
    else wrongTypeNext "u64"

/-! ## Records -/

/-- The mismatch is reported at the place that is reached after closing, even if closing fails. -/
def mismatchAfter {α : Type} (close : Reader Unit) (m : Mismatch) : Reader α := do
  let cur ← get
  match (close.run cur) with
  | .ok (_, after) => throw (after.here (.mismatch m))
  | .error _ =>
    modify fun cur => cur.pastWhile isSpace cur.rest
    mismatch m

/-- The first field that has to be given and is not, with its position. -/
def missingField (fields : List (String × Bool × Shape)) (read : Keyed Json) : Option (Nat × String) :=
  (fields.zipIdx.find? fun (field, _) => field.2.1 && !read.contains field.1).map
    fun (field, i) => (i, field.1)

mutual

/-- Reads a value of a shape, with `levels` levels of nesting left, in at most `fuel` steps. -/
def Shape.read : Nat → Nat → Shape → Reader Json
  | 0, _, _ => failNext .tooDeep
  | fuel + 1, levels, shape => do
    match shape with
    | .any => value fuel levels
    | .natural => readNatural
    | .text => readString
    | .optionalText =>
      match ← peekToken with
      | some 'n' => do drop; word ['u', 'l', 'l']; return .null
      | _ => readString
    | .record title fields =>
      match ← peekToken with
      | none => failNext .unfinishedValue
      | some '[' =>
        let levels ← deeper levels
        readItems fuel levels (recordOf title fields.length) fields 0 []
      | some '\x7b' =>
        let levels ← deeper levels
        readMembers fuel levels fields true []
      | some _ => wrongTypeNext title

/-- Reads the fields of a record that is written as a list, from position `i` on. -/
def readItems : Nat → Nat → String → List (String × Bool × Shape) → Nat → Keyed Json → Reader Json
  | 0, _, _, _, _, _ => failNext .tooDeep
  | _ + 1, _, _, [], _, read => do
    closeList
    return .object read
  | fuel + 1, levels, expected, (name, needed, shape) :: fields, i, read => do
    if ← moreItems (i = 0) then
      let v ← shape.read fuel levels
      readItems fuel levels expected fields (i + 1) (read.insert name v)
    else if needed then mismatchAfter closeList (.invalidLength i expected)
    else readItems fuel levels expected fields (i + 1) read

/-- Reads the members of an object that are fields and passes over the others. -/
def readMembers : Nat → Nat → List (String × Bool × Shape) → Bool → Keyed Json → Reader Json
  | 0, _, _, _, _ => failNext .tooDeep
  | fuel + 1, levels, fields, first, read => do
    if ← moreMembers first then
      drop
      let key ← stringBody
      match fields.lookup key with
      | none =>
        colon
        skip fuel
        readMembers fuel levels fields false read
      | some (_, shape) =>
        if read.contains key then mismatchAfter closeObject (.duplicateField key)
        else
          colon
          let v ← shape.read fuel levels
          readMembers fuel levels fields false (read.insert key v)
    else
      match missingField fields read with
      | some (_, name) => mismatchAfter closeObject (.missingField name)
      | none =>
        closeObject
        return .object read

end

def parseShape (shape : Shape) (text : String) : Except ReadError Json :=
  readText (fun fuel => shape.read fuel nestingLimit) text

end CloudProvider.Json
