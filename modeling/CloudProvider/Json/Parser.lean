import CloudProvider.Json.Mismatch
import CloudProvider.Text.Digit
import CloudProvider.Text.Utf8

/-!
# Reading JSON

A text is read from left to right. The first fault ends the reading; it is reported with its line
and with the number of bytes between the start of that line and the place of the fault.

- `Cursor`: the rest of a text and where it starts.
- `Fault`: a fault of the text itself.
- `ReadError`: a fault or a mismatch with its place.
- `Reader`: a step that reads a part of the text.
- `value`: reads any value, nested at most 127 deep.
- `parse`: reads a whole text.
-/

namespace CloudProvider.Json
set_option autoImplicit false

/-! ## Places and faults -/

/-- The rest of a text, the line it starts in and the bytes of that line already read. -/
structure Cursor where
  rest : List Char
  line : Nat
  column : Nat

def Cursor.start (text : String) : Cursor :=
  ⟨text.toList, 1, 0⟩

/-- A fault of a text. -/
inductive Fault where
  | unfinishedList
  | unfinishedObject
  | unfinishedString
  | unfinishedValue
  | expectedColon
  | expectedListEnd
  | expectedObjectEnd
  | expectedWord
  | expectedValue
  | invalidEscape
  | invalidNumber
  | numberTooLarge
  | controlCharacter
  | keyNotString
  | loneSurrogate
  | unfinishedSurrogate
  | trailingComma
  | trailingCharacters
  | tooDeep
deriving DecidableEq

def Fault.message : Fault → String
  | unfinishedList => "EOF while parsing a list"
  | unfinishedObject => "EOF while parsing an object"
  | unfinishedString => "EOF while parsing a string"
  | unfinishedValue => "EOF while parsing a value"
  | expectedColon => "expected `:`"
  | expectedListEnd => "expected `,` or `]`"
  | expectedObjectEnd => "expected `,` or `\x7d`"
  | expectedWord => "expected ident"
  | expectedValue => "expected value"
  | invalidEscape => "invalid escape"
  | invalidNumber => "invalid number"
  | numberTooLarge => "number out of range"
  | controlCharacter => "control character (\\u0000-\\u001F) found while parsing a string"
  | keyNotString => "key must be a string"
  | loneSurrogate => "lone leading surrogate in hex escape"
  | unfinishedSurrogate => "unexpected end of hex escape"
  | trailingComma => "trailing comma"
  | trailingCharacters => "trailing characters"
  | tooDeep => "recursion limit exceeded"

/-- What went wrong in a reading. -/
inductive Cause where
  | fault (f : Fault)
  | mismatch (m : Mismatch)
deriving DecidableEq

def Cause.message : Cause → String
  | fault f => f.message
  | mismatch m => m.message

/-- What went wrong and where. -/
structure ReadError where
  cause : Cause
  line : Nat
  column : Nat
deriving DecidableEq

def ReadError.message (e : ReadError) : String :=
  s!"{e.cause.message} at line {e.line} column {e.column}"

/-- A step that reads a part of the text. -/
abbrev Reader := StateT Cursor (Except ReadError)

/-- The place of the cursor. -/
def Cursor.here (cur : Cursor) (cause : Cause) : ReadError :=
  ⟨cause, cur.line, cur.column⟩

/-- The place of the byte after the cursor, if there is one. -/
def Cursor.next (cur : Cursor) (f : Fault) : ReadError :=
  match cur.rest with
  | [] => ⟨.fault f, cur.line, cur.column⟩
  | '\n' :: _ => ⟨.fault f, cur.line + 1, 0⟩
  | _ :: _ => ⟨.fault f, cur.line, cur.column + 1⟩

def failHere {α : Type} (f : Fault) : Reader α := do
  throw ((← get).here (.fault f))

def failNext {α : Type} (f : Fault) : Reader α := do
  throw ((← get).next f)

def mismatch {α : Type} (m : Mismatch) : Reader α := do
  throw ((← get).here (.mismatch m))

/-! ## Characters -/

/-- The cursor behind a character. -/
def Cursor.past (c : Char) (rest : List Char) (cur : Cursor) : Cursor :=
  if c = '\n' then ⟨rest, cur.line + 1, 0⟩ else ⟨rest, cur.line, cur.column + c.utf8Size⟩

/-- The next character, left in place. -/
def peek : Reader (Option Char) := do
  return (← get).rest.head?

/-- The next character, taken. -/
def take : Reader (Option Char) := do
  let cur ← get
  match cur.rest with
  | [] => return none
  | c :: rest =>
    set (cur.past c rest)
    return some c

def drop : Reader Unit := do
  let _ ← take

/-- The characters between tokens. -/
def isSpace (c : Char) : Bool :=
  c = ' ' || c = '\n' || c = '\t' || c = '\r'

/-- The cursor behind the characters that satisfy `p`. -/
def Cursor.pastWhile (p : Char → Bool) : List Char → Cursor → Cursor
  | [], cur => cur
  | c :: rest, cur => if p c then Cursor.pastWhile p rest (cur.past c rest) else cur

/-- Passes over blanks and looks at the next character. -/
def peekToken : Reader (Option Char) := do
  modify fun cur => cur.pastWhile isSpace cur.rest
  peek

/-- The digits from here on, taken. -/
def takeDigits : Reader (List Char) := do
  let cur ← get
  set (cur.pastWhile Text.isDigit cur.rest)
  return cur.rest.takeWhile Text.isDigit

/-- The rest of a word of which the first letter has been taken. -/
def word : List Char → Reader Unit
  | [] => return
  | expected :: more => do
    match ← take with
    | none => failHere .unfinishedValue
    | some c => if c = expected then word more else failHere .expectedWord

/-! ## Numbers -/

/-- Digits added to a significand while it fits 64 bits; how many of them were added, and whether
all were. -/
def accumulate (significand : Nat) : List Char → Nat × Nat × Bool
  | [] => (significand, 0, true)
  | c :: rest =>
    let larger := 10 * significand + Text.digitValue c
    if UInt64.size ≤ larger then (significand, 0, false)
    else
      let (result, added, all) := accumulate larger rest
      (result, added + 1, all)

/-- The nearest number to a power of ten. -/
def powerOfTen (n : Nat) : Real64 :=
  .ofRatio false (Nat.pow 10 n) 1

/-- `x · 10 ^ exponent` with one rounding for each factor of at most 308 tens, or `none` if it is
too large. -/
def timesPower (x : Real64) (exponent : Int) : Option Binary64 :=
  if exponent.natAbs ≤ 308 then
    let result :=
      if 0 ≤ exponent then x.mul (powerOfTen exponent.natAbs) else x.div (powerOfTen exponent.natAbs)
    match result with
    | .finite y => some y
    | _ => none
  else if x = .finite (.zero false) then some (.zero false)
  else if 0 ≤ exponent then none
  else timesPower (x.div (powerOfTen 308)) (exponent + 308)
termination_by exponent.natAbs
decreasing_by omega

def floatOf (negative : Bool) (significand : Nat) (exponent : Int) : Reader Number := do
  match timesPower (.ofNat significand) exponent with
  | some x => return .float (if negative then x.neg else x)
  | none => failHere .numberTooLarge

/-- The value of the digits of an exponent, up to the first that takes it past 31 bits, and whether
all could be taken. -/
def exponentDigits (n : Nat) : List Char → Nat × Bool
  | [] => (n, true)
  | c :: rest =>
    let larger := 10 * n + Text.digitValue c
    if 2147483648 ≤ larger then (n, false) else exponentDigits larger rest

def clampExponent (n : Int) : Int :=
  max (-2147483648) (min 2147483647 n)

/-- Passes over the digits of an exponent up to the one that takes it past 31 bits. -/
def dropExponent (n : Nat) : List Char → Reader Unit
  | [] => return
  | c :: rest => do
    drop
    let larger := 10 * n + Text.digitValue c
    if 2147483648 ≤ larger then return else dropExponent larger rest

/-- The exponent, of which the letter comes next, and with it the number. -/
def exponentPart (negative : Bool) (significand : Nat) (start : Int) : Reader Number := do
  drop
  let negativeExponent ← match ← peek with
    | some '+' => do drop; pure false
    | some '-' => do drop; pure true
    | _ => pure false
  match ← take with
  | none => failHere .unfinishedValue
  | some c =>
    if !Text.isDigit c then failHere .invalidNumber
    else
      let digits := (← get).rest.takeWhile Text.isDigit
      match exponentDigits (Text.digitValue c) digits with
      | (n, true) =>
        let _ ← takeDigits
        let exponent := if negativeExponent then start - n else start + n
        floatOf negative significand (clampExponent exponent)
      | (_, false) =>
        if significand ≠ 0 && !negativeExponent then
          dropExponent (Text.digitValue c) digits
          failHere .numberTooLarge
        else
          let _ ← takeDigits
          return .float (.zero negative)

/-- The fraction, of which the point comes next, and with it the number. -/
def fractionPart (negative : Bool) (significand : Nat) (before : Int) : Reader Number := do
  drop
  let digits ← takeDigits
  if digits.isEmpty then
    match ← peek with
    | some _ => failNext .invalidNumber
    | none => failHere .unfinishedValue
  else
    let (significand, added, _) := accumulate significand digits
    let exponent := before - added
    match ← peek with
    | some 'e' | some 'E' => exponentPart negative significand exponent
    | _ => floatOf negative significand exponent

/-- What a number without fraction and exponent stands for. Minus zero is a floating-point number,
and so is what does not fit 64 bits. -/
def integerOf (negative : Bool) (significand : Nat) : Reader Number :=
  if negative then
    if h : 0 < significand ∧ significand ≤ 9223372036854775808 then
      return .int ⟨-significand, by omega, by omega⟩
    else floatOf true significand 0
  else if h : significand < 18446744073709551616 then return .int ⟨significand, by omega, by omega⟩
  else floatOf false significand 0

/-- A number after its sign. -/
def unsignedNumber (negative : Bool) : Reader Number := do
  match ← take with
  | none => failHere .unfinishedValue
  | some c =>
    if !Text.isDigit c then failHere .invalidNumber
    else
      let digits ←
        if c = '0' then
          match ← peek with
          | some d => if Text.isDigit d then failNext .invalidNumber else pure []
          | none => pure []
        else takeDigits
      let (significand, added, all) := accumulate 0 (c :: digits)
      let left : Int := digits.length + 1 - added
      match ← peek with
      | some '.' => fractionPart negative significand left
      | some 'e' | some 'E' => exponentPart negative significand left
      | _ => if all then integerOf negative significand else floatOf negative significand left

def readNumber : Reader Number := do
  match ← peek with
  | some '-' => do drop; unsignedNumber true
  | _ => unsignedNumber false

/-! ## Strings -/

def hexValue? (c : Char) : Option Nat :=
  if Text.isDigit c then some (c.toNat - 48)
  else if 'a' ≤ c && c ≤ 'f' then some (c.toNat - 87)
  else if 'A' ≤ c && c ≤ 'F' then some (c.toNat - 55)
  else none

/-- The place behind a number of bytes that need not end with a character. -/
def Cursor.pastBytes (bytes : List Nat) (cur : Cursor) : Cursor :=
  bytes.foldl (fun cur b =>
    if b = 10 then { cur with line := cur.line + 1, column := 0 }
    else { cur with column := cur.column + 1 }) cur

def fourDigits : Reader Nat := do
  let cur ← get
  match cur.rest with
  | a :: b :: c :: d :: rest =>
    match hexValue? a, hexValue? b, hexValue? c, hexValue? d with
    | some a, some b, some c, some d =>
      set { cur with rest := rest, column := cur.column + 4 }
      return ((a * 16 + b) * 16 + c) * 16 + d
    | _, _, _, _ =>
      set (cur.pastBytes ((Text.utf8OfText [a, b, c, d]).take 4))
      failHere .invalidEscape
  | few =>
    let bytes := Text.utf8OfText few
    set (cur.pastBytes (bytes.take 4))
    if bytes.length < 4 then
      set (cur.pastBytes bytes)
      failHere .unfinishedString
    else failHere .invalidEscape

/-- The next character, in a string that goes on. -/
def peekInString : Reader Char := do
  match ← peek with
  | none => failHere .unfinishedString
  | some c => return c

/-- The character of a hexadecimal escape, of which the digits come next. Two escapes make a
character beyond the first plane. -/
def hexEscape : Reader Char := do
  let n ← fourDigits
  if 0xDC00 ≤ n && n ≤ 0xDFFF then failHere .loneSurrogate
  else if n < 0xD800 || 0xDBFF < n then return Char.ofNat n
  else
    let c ← peekInString
    drop
    if c ≠ '\\' then failHere .unfinishedSurrogate
    else
      let c ← peekInString
      drop
      if c ≠ 'u' then failHere .unfinishedSurrogate
      else
        let m ← fourDigits
        if m < 0xDC00 || 0xDFFF < m then failHere .loneSurrogate
        else return Char.ofNat ((n - 0xD800) * 1024 + (m - 0xDC00) + 0x10000)

/-- The character of an escape, behind the backslash. -/
def escape : Reader Char := do
  match ← take with
  | none => failHere .unfinishedString
  | some '"' => return '"'
  | some '\\' => return '\\'
  | some '/' => return '/'
  | some 'b' => return '\x08'
  | some 'f' => return '\x0c'
  | some 'n' => return '\n'
  | some 'r' => return '\r'
  | some 't' => return '\t'
  | some 'u' => hexEscape
  | some _ => failHere .invalidEscape

/-- The characters up to the closing quote, in at most `fuel` steps. -/
def stringRest : Nat → Reader (List Char)
  | 0 => failHere .unfinishedString
  | fuel + 1 => do
    match ← peek with
    | none => failHere .unfinishedString
    | some '"' => do drop; return []
    | some '\\' => do
      drop
      let c ← escape
      return c :: (← stringRest fuel)
    | some c => do
      drop
      if c.toNat < 32 then failHere .controlCharacter
      else return c :: (← stringRest fuel)

/-- A string of which the opening quote has been taken. -/
def stringBody : Reader String := do
  return String.ofList (← stringRest ((← get).rest.length + 1))

/-! ## Lists and objects -/

/-- Another item follows. -/
def moreItems (first : Bool) : Reader Bool := do
  match ← peekToken with
  | some ']' => return false
  | some ',' =>
    if first then return true
    else
      drop
      match ← peekToken with
      | some ']' => failNext .trailingComma
      | some _ => return true
      | none => failNext .unfinishedValue
  | some _ => if first then return true else failNext .expectedListEnd
  | none => failNext .unfinishedList

/-- Another member follows, and its opening quote comes next. -/
def moreMembers (first : Bool) : Reader Bool := do
  match ← peekToken with
  | some '\x7d' => return false
  | some ',' =>
    if first then failNext .keyNotString
    else
      drop
      match ← peekToken with
      | some '"' => return true
      | some '\x7d' => failNext .trailingComma
      | some _ => failNext .keyNotString
      | none => failNext .unfinishedValue
  | some c =>
    if !first then failNext .expectedObjectEnd
    else if c = '"' then return true
    else failNext .keyNotString
  | none => failNext .unfinishedObject

def colon : Reader Unit := do
  match ← peekToken with
  | some ':' => drop
  | some _ => failNext .expectedColon
  | none => failNext .unfinishedObject

def closeList : Reader Unit := do
  match ← peekToken with
  | some ']' => drop
  | some ',' =>
    drop
    match ← peekToken with
    | some ']' => failNext .trailingComma
    | _ => failNext .trailingCharacters
  | some _ => failNext .trailingCharacters
  | none => failNext .unfinishedList

def closeObject : Reader Unit := do
  match ← peekToken with
  | some '\x7d' => drop
  | some ',' => failNext .trailingComma
  | some _ => failNext .trailingCharacters
  | none => failNext .unfinishedObject

/-- The levels left inside a list or an object, of which the opening comes next. -/
def deeper (levels : Nat) : Reader Nat := do
  if levels ≤ 1 then failNext .tooDeep
  else
    drop
    return levels - 1

mutual

/-- Any value, with `levels` levels of nesting left, in at most `fuel` steps. -/
def value : Nat → Nat → Reader Json
  | 0, _ => failNext .tooDeep
  | fuel + 1, levels => do
    match ← peekToken with
    | none => failNext .unfinishedValue
    | some 'n' => do drop; word ['u', 'l', 'l']; return null
    | some 't' => do drop; word ['r', 'u', 'e']; return bool true
    | some 'f' => do drop; word ['a', 'l', 's', 'e']; return bool false
    | some '"' => do drop; return string (← stringBody)
    | some '[' => do
      let levels ← deeper levels
      return array (← items fuel levels true)
    | some '\x7b' => do
      let levels ← deeper levels
      return object (← members fuel levels true [])
    | some c =>
      if c = '-' || Text.isDigit c then return Json.number (← readNumber)
      else failNext .expectedValue

/-- The items up to the closing bracket. -/
def items : Nat → Nat → Bool → Reader (List Json)
  | 0, _, _ => failNext .tooDeep
  | fuel + 1, levels, first => do
    if ← moreItems first then
      let x ← value fuel levels
      return x :: (← items fuel levels false)
    else
      closeList
      return []

/-- The members up to the closing brace. Of two with one key the later stays. -/
def members : Nat → Nat → Bool → Keyed Json → Reader (Keyed Json)
  | 0, _, _, _ => failNext .tooDeep
  | fuel + 1, levels, first, read => do
    if ← moreMembers first then
      drop
      let key ← stringBody
      colon
      let x ← value fuel levels
      members fuel levels false (Keyed.insert key x read)
    else
      closeObject
      return read

end

/-! ## Whole texts -/

/-- The levels of nesting of a whole text, and one more. -/
def nestingLimit : Nat := 128

/-- Steps that no reading of the text exceeds. -/
def Cursor.steps (cur : Cursor) : Nat :=
  2 * cur.rest.length + 2

/-- Nothing but blanks is left. -/
def finish : Reader Unit := do
  match ← peekToken with
  | none => return
  | some _ => failNext .trailingCharacters

/-- Reads a whole text with a reader that is told how many steps it may take. -/
def readText {α : Type} (read : Nat → Reader α) (text : String) : Except ReadError α :=
  let start := Cursor.start text
  let whole : Reader α := do
    let result ← read start.steps
    finish
    return result
  (whole.run start).map (·.1)

def parse (text : String) : Except ReadError Json :=
  readText (fun fuel => value fuel nestingLimit) text

end CloudProvider.Json
