import CloudProvider.Pattern.Basic
import CloudProvider.Network.Address

/-!
# Reading patterns

- `Pattern.Fault`: why a text is no pattern, and which of its characters are at fault.
- `Pattern.parse`: the pattern that a text writes.
- `Pattern.Fault.message`: the text with its faulty characters marked.
-/

namespace CloudProvider.Pattern
set_option autoImplicit false

/-! ## Faults -/

/-- Why a text is no pattern. -/
inductive Cause where
  | classEscape
  | classRange
  | classRangeEnd
  | classUnclosed
  | decimalInvalid
  | hexEmpty
  | hexScalar
  | hexDigit
  | escapeUnfinished
  | escapeUnknown
  | danglingNegation
  | flagTwice
  | negationTwice
  | flagsUnfinished
  | flagUnknown
  | nameTwice
  | nameEmpty
  | nameCharacter
  | nameUnfinished
  | groupUnclosed
  | groupUnopened
  | countRange
  | countEmpty
  | countUnclosed
  | nothingToRepeat
  | property
  | backreference
  | lookAround
deriving DecidableEq

def Cause.message : Cause → String
  | classEscape => "invalid escape sequence found in character class"
  | classRange => "invalid character class range, the start must be <= the end"
  | classRangeEnd => "invalid range boundary, must be a literal"
  | classUnclosed => "unclosed character class"
  | decimalInvalid => "decimal literal invalid"
  | hexEmpty => "hexadecimal literal empty"
  | hexScalar => "hexadecimal literal is not a Unicode scalar value"
  | hexDigit => "invalid hexadecimal digit"
  | escapeUnfinished => "incomplete escape sequence, reached end of pattern prematurely"
  | escapeUnknown => "unrecognized escape sequence"
  | danglingNegation => "dangling flag negation operator"
  | flagTwice => "duplicate flag"
  | negationTwice => "flag negation operator repeated"
  | flagsUnfinished => "expected flag but got end of regex"
  | flagUnknown => "unrecognized flag"
  | nameTwice => "duplicate capture group name"
  | nameEmpty => "empty capture group name"
  | nameCharacter => "invalid capture group character"
  | nameUnfinished => "unclosed capture group name"
  | groupUnclosed => "unclosed group"
  | groupUnopened => "unopened group"
  | countRange => "invalid repetition count range, the start must be <= the end"
  | countEmpty => "repetition quantifier expects a valid decimal"
  | countUnclosed => "unclosed counted repetition"
  | nothingToRepeat => "repetition operator missing expression"
  | property => "Unicode property not found"
  | backreference => "backreferences are not supported"
  | lookAround => "look-around, including look-ahead and look-behind, is not supported"

/-- A cause and the characters from `start` up to `stop`, by number. -/
structure Fault where
  cause : Cause
  start : Nat
  stop : Nat
deriving DecidableEq

/-! ## Reading -/

/-- How the letters and line ends of a pattern are meant. -/
structure Flags where
  ignoreCase : Bool
  multiLine : Bool
  dotAll : Bool
deriving DecidableEq

/-- What is left of a text, the number of its first character, and what has been declared. -/
structure Source where
  rest : List Char
  index : Nat
  flags : Flags
  names : List String

/-- A step that reads a part of the text. -/
abbrev Reader := StateT Source (Except Fault)

variable {α : Type}

def faultAt (cause : Cause) (start stop : Nat) : Reader α :=
  throw ⟨cause, start, stop⟩

def faultFrom (cause : Cause) (start : Nat) : Reader α := do
  faultAt cause start (← get).index

/-- A fault in the next character. -/
def faultNext (cause : Cause) : Reader α := do
  let i := (← get).index
  faultAt cause i (i + 1)

def place : Reader Nat := do
  return (← get).index

def peek : Reader (Option Char) := do
  return (← get).rest.head?

/-- The character after the next one. -/
def peekSecond : Reader (Option Char) := do
  return (← get).rest[1]?

def drop : Reader Unit :=
  modify fun s => { s with rest := s.rest.drop 1, index := s.index + 1 }

/-- Passes over a text if it comes next. -/
def dropIf (cs : List Char) : Reader Bool := do
  let s ← get
  if cs.isPrefixOf s.rest then
    set { s with rest := s.rest.drop cs.length, index := s.index + cs.length }
    return true
  else return false

/-- The characters up to one that does not satisfy `p`, taken. -/
def takeWhile (p : Char → Bool) : Reader (List Char) := do
  let s ← get
  let taken := s.rest.takeWhile p
  set { s with rest := s.rest.drop taken.length, index := s.index + taken.length }
  return taken

/-! ## Escapes -/

/-- A single character, a set of characters or an assertion. -/
inductive Primitive where
  | literal (c : Char)
  | set (s : CharClass)
  | assertion (a : Assertion)
deriving DecidableEq

/-- The characters that mean something in patterns. -/
def isMeta (c : Char) : Bool :=
  ['\\', '.', '+', '*', '?', '(', ')', '|', '[', ']', '\x7b', '\x7d', '^', '$', '#', '&', '-',
    '~'].contains c

/-- A character stands for itself after a backslash. -/
def isEscapable (c : Char) : Bool :=
  isMeta c || (c.toNat < 128 && !c.isAlphanum && c ≠ '<' && c ≠ '>')

/-- The character that hexadecimal digits stand for. -/
def charOfHex? (digits : List Char) : Option Char :=
  let n := digits.foldl (fun n c => 16 * n + (Address.hexValue? c).getD 0) 0
  if n.isValidChar then some (Char.ofNat n) else none

def isHex (c : Char) : Bool := (Address.hexValue? c).isSome

/-- The digits of a character behind `x`, `u` or `U`, in braces or a fixed number of them. -/
def hexEscape (length : Nat) : Reader Char := do
  let start ← place
  match ← peek with
  | none => faultFrom .escapeUnfinished start
  | some '\x7b' =>
    let brace ← place
    drop
    let start ← place
    let digits ← takeWhile (· ≠ '\x7d')
    if (← peek).isNone then faultFrom .escapeUnfinished brace
    match digits.findIdx? (!isHex ·) with
    | some i => faultAt .hexDigit (start + i) (start + i + 1)
    | none =>
      drop
      if digits.isEmpty then faultFrom .hexEmpty brace
      else
        match charOfHex? digits with
        | some c => return c
        | none => faultAt .hexScalar start (start + digits.length)
  | some _ =>
    let digits := (← get).rest.take length
    match digits.findIdx? (!isHex ·) with
    | some i => faultAt .hexDigit (start + i) (start + i + 1)
    | none =>
      modify fun s => { s with rest := s.rest.drop digits.length, index := s.index + digits.length }
      if digits.length < length then faultFrom .escapeUnfinished start
      else
        match charOfHex? digits with
        | some c => return c
        | none => faultFrom .hexScalar start

/-- The name of a property, behind `p`. No properties are known. -/
def propertyEscape (start : Nat) : Reader Primitive := do
  match ← peek with
  | none => faultFrom .escapeUnfinished start
  | some '\x7b' =>
    let _ ← takeWhile (· ≠ '\x7d')
    if (← peek).isNone then faultFrom .escapeUnfinished start
    drop
    faultFrom .property start
  | some _ =>
    drop
    faultFrom .property start

/-- What stands behind a backslash that comes next. -/
def escape : Reader Primitive := do
  let start ← place
  drop
  match ← peek with
  | none => faultFrom .escapeUnfinished start
  | some c =>
    drop
    if Text.isDigit c then faultFrom .backreference start
    else if isEscapable c then return .literal c
    else
      match c with
      | 'x' => return .literal (← hexEscape 2)
      | 'u' => return .literal (← hexEscape 4)
      | 'U' => return .literal (← hexEscape 8)
      | 'p' | 'P' => propertyEscape start
      | 'd' => return .set .digit
      | 'D' => return .set (.complement .digit)
      | 's' => return .set .blank
      | 'S' => return .set (.complement .blank)
      | 'w' => return .set .word
      | 'W' => return .set (.complement .word)
      | 'a' => return .literal '\x07'
      | 'f' => return .literal '\x0c'
      | 't' => return .literal '\t'
      | 'n' => return .literal '\n'
      | 'r' => return .literal '\r'
      | 'v' => return .literal '\x0b'
      | 'A' => return .assertion .textStart
      | 'z' => return .assertion .textEnd
      | 'b' => return .assertion .wordBoundary
      | 'B' => return .assertion .noWordBoundary
      | _ => faultFrom .escapeUnknown start

/-! ## Classes in brackets -/

/-- The named sets of ASCII characters. -/
def namedClass? (name : String) : Option CharClass :=
  let r (low high : Char) := CharClass.range low high
  let lower := r 'a' 'z'
  let upper := r 'A' 'Z'
  let digits := r '0' '9'
  match name with
  | "alnum" => some (.union digits (.union upper lower))
  | "alpha" => some (.union upper lower)
  | "ascii" => some (r '\x00' '\x7f')
  | "blank" => some (.union (.single '\t') (.single ' '))
  | "cntrl" => some (.union (r '\x00' '\x1f') (.single '\x7f'))
  | "digit" => some digits
  | "graph" => some (r '!' '~')
  | "lower" => some lower
  | "print" => some (r ' ' '~')
  | "punct" => some (.union (r '!' '/') (.union (r ':' '@') (.union (r '[' '\x60') (r '\x7b' '~'))))
  | "space" => some (.union (r '\t' '\r') (.single ' '))
  | "upper" => some upper
  | "word" => some (.union digits (.union upper (.union (.single '_') lower)))
  | "xdigit" => some (.union digits (.union (r 'A' 'F') (r 'a' 'f')))
  | _ => none

/-- A named set such as `[:alpha:]`, if one comes next. -/
def namedClass : Reader (Option CharClass) := do
  let s ← get
  match s.rest with
  | '[' :: ':' :: rest =>
    let negated := rest.head? = some '^'
    let name := (if negated then rest.drop 1 else rest).takeWhile (· ≠ ':')
    let length := name.length + (if negated then 5 else 4)
    match s.rest.drop (length - 2), namedClass? (String.ofList name) with
    | ':' :: ']' :: after, some found =>
      set { s with rest := after, index := s.index + length }
      return some (if negated then .complement found else found)
    | _, _ => return none
  | _ => return none

/-- One character, set or escape inside brackets, with its place. -/
def classItem : Reader (Primitive × Nat × Nat) := do
  let start ← place
  let item ← match ← peek with
    | some '\\' => escape
    | some c => do drop; pure (.literal c)
    | none => pure (.literal '\\')
  return (item, start, ← place)

/-- The set that an item stands for. -/
def itemClass (ignoreCase : Bool) : Primitive × Nat × Nat → Reader CharClass
  | (.literal c, _, _) => return if ignoreCase then .anyCase (.single c) else .single c
  | (.set s, _, _) => return s
  | (.assertion _, start, stop) => faultAt .classEscape start stop

/-- The end of a range. -/
def rangeEnd : Primitive × Nat × Nat → Reader Char
  | (.literal c, _, _) => return c
  | (_, start, stop) => faultAt .classRangeEnd start stop

/-- An item or a range of a class, of which `opened` and `openedTo` delimit the opening. -/
def classRange (opened openedTo : Nat) : Reader CharClass := do
  let ignoreCase := (← get).flags.ignoreCase
  let first ← classItem
  match ← peek, ← peekSecond with
  | none, _ => faultAt .classUnclosed opened openedTo
  | some '-', some ']' | some '-', some '-' => itemClass ignoreCase first
  | some '-', none => faultAt .classUnclosed opened openedTo
  | some '-', _ =>
    drop
    let last ← classItem
    let low ← rangeEnd first
    let high ← rangeEnd last
    if high < low then faultAt .classRange first.2.1 last.2.2
    else return if ignoreCase then .anyCase (.range low high) else .range low high
  | _, _ => itemClass ignoreCase first

/-- How two sets are combined. -/
inductive SetOperator where
  | inter
  | difference
  | symmetricDifference

def SetOperator.apply (s t : CharClass) : SetOperator → CharClass
  | .inter => .inter s t
  | .difference => .inter s (.complement t)
  | .symmetricDifference => .union (.inter s (.complement t)) (.inter t (.complement s))

/-- The operator between two sets, if one comes next. -/
def setOperator : Reader (Option SetOperator) := do
  if ← dropIf ['&', '&'] then return some .inter
  else if ← dropIf ['-', '-'] then return some .difference
  else if ← dropIf ['~', '~'] then return some .symmetricDifference
  else return none

/-- Literal dashes at the start of a class. -/
def leadingDashes (opened : Nat) : Nat → CharClass → Reader CharClass
  | 0, s => return s
  | fuel + 1, s => do
    match ← peek with
    | some '-' =>
      drop
      if (← peek).isNone then faultAt .classUnclosed opened (opened + 1)
      leadingDashes opened fuel (.union s (.single '-'))
    | _ => return s

/-- The set with or without what has been combined with it so far. -/
def combined (left : Option (CharClass × SetOperator)) (s : CharClass) : CharClass :=
  match left with
  | some (l, op) => op.apply l s
  | none => s

mutual

/-- A class of which the opening bracket comes next, in at most `fuel` steps. -/
def bracketed : Nat → Reader CharClass
  | 0 => return .none
  | fuel + 1 => do
    let opened ← place
    drop
    if (← peek).isNone then faultFrom .classUnclosed opened
    let negated ← dropIf ['^']
    if (← peek).isNone then faultFrom .classUnclosed opened
    let start ← leadingDashes opened (← get).rest.length .none
    let start ←
      if start = .none && (← peek) = some ']' then do
        drop
        if (← peek).isNone then faultFrom .classUnclosed opened
        pure (.single ']')
      else pure start
    let set ← classItems fuel opened (← place) none start
    return if negated then .complement set else set

/-- The items of a class up to its closing bracket. -/
def classItems : Nat → Nat → Nat → Option (CharClass × SetOperator) → CharClass → Reader CharClass
  | 0, _, _, _, s => return s
  | fuel + 1, opened, openedTo, left, s => do
    match ← peek with
    | none => faultAt .classUnclosed opened openedTo
    | some ']' =>
      drop
      return combined left s
    | some '[' =>
      match ← namedClass with
      | some t => classItems fuel opened openedTo left (.union s t)
      | none =>
        let t ← bracketed fuel
        classItems fuel opened openedTo left (.union s t)
    | some _ =>
      match ← setOperator with
      | some op => classItems fuel opened openedTo (some (combined left s, op)) .none
      | none =>
        let t ← classRange opened openedTo
        classItems fuel opened openedTo left (.union s t)

end

/-! ## Groups and repetition -/

/-- A letter as a flag. Those for Unicode, blanks, line ends and greed are read and change nothing. -/
def applyFlag (on : Bool) (flags : Flags) : Char → Option Flags
  | 'i' => some { flags with ignoreCase := on }
  | 'm' => some { flags with multiLine := on }
  | 's' => some { flags with dotAll := on }
  | 'U' | 'u' | 'x' | 'R' => some flags
  | _ => none

/-- Flags up to the colon or the parenthesis that ends them, in at most `fuel` steps. -/
def flagLetters : Nat → Bool → List Char → Flags → Reader Flags
  | 0, _, _, flags => return flags
  | fuel + 1, negated, seen, flags => do
    match ← peek with
    | none => do faultAt .flagsUnfinished (← place) (← place)
    | some ':' | some ')' =>
      if seen.getLast? = some '-' then
        let i ← place
        faultAt .danglingNegation (i - 1) i
      else return flags
    | some '-' =>
      if negated then faultNext .negationTwice
      else
        drop
        flagLetters fuel true (seen ++ ['-']) flags
    | some c =>
      match applyFlag (!negated) flags c with
      | none => faultNext .flagUnknown
      | some changed =>
        if seen.contains c then faultNext .flagTwice
        else
          drop
          flagLetters fuel negated (seen ++ [c]) changed

/-- The name of a group and the bracket behind it. -/
def groupName : Reader Unit := do
  let start ← place
  if (← peek).isNone then faultAt .nameUnfinished start start
  let name ← takeWhile fun c => c.isAlphanum || ['_', '.', '[', ']'].contains c
  match ← peek with
  | none => faultAt .nameUnfinished (← place) (← place)
  | some '>' =>
    if name.isEmpty then faultAt .nameEmpty start start
    if name.head?.any Text.isDigit then faultAt .nameCharacter start (start + 1)
    let s ← get
    if s.names.contains (String.ofList name) then faultFrom .nameTwice start
    set { s with names := String.ofList name :: s.names }
    drop
  | some _ => faultNext .nameCharacter

def decimal : Reader (Option Nat) := do
  let start ← place
  let digits ← takeWhile Text.isDigit
  if digits.isEmpty then return none
  else
    let n := Text.natOfDigits 0 digits
    if UInt32.size ≤ n then faultFrom .decimalInvalid start else return some n

/-- A count that has to be given. -/
def needed (place : Nat) : Option Nat → Reader Nat
  | some n => return n
  | none => faultAt .countEmpty place place

/-- Bounds in braces, of which the opening comes next. -/
def countedBounds : Reader (Nat × Option Nat) := do
  let start ← place
  drop
  if (← peek).isNone then faultFrom .countUnclosed start
  let first ← place
  let least ← decimal
  if (← peek).isNone then faultFrom .countUnclosed start
  let bounds ←
    if ← dropIf [','] then do
      if (← peek).isNone then faultFrom .countUnclosed start
      if (← peek) = some '\x7d' then pure (← needed first least, none)
      else do
        let n ← needed first least
        let i ← place
        pure (n, some (← needed i (← decimal)))
    else do
      let n ← needed first least
      pure (n, some n)
  if (← peek) ≠ some '\x7d' then faultFrom .countUnclosed start
  drop
  let _ ← dropIf ['?']
  match bounds with
  | (n, some m) => if m < n then faultFrom .countRange start else return bounds
  | (_, none) => return bounds

/-- The pattern for a primitive. -/
def ofPrimitive (flags : Flags) : Primitive → Pattern
  | .literal c => .char (if flags.ignoreCase then .anyCase (.single c) else .single c)
  | .set s => .char s
  | .assertion a => .assert a

/-- The pattern for a character that stands for itself or for a kind of place. -/
def ofCharacter (flags : Flags) : Char → Pattern
  | '.' => .char (if flags.dotAll then .all else .inLine)
  | '^' => .assert (if flags.multiLine then .lineStart else .textStart)
  | '$' => .assert (if flags.multiLine then .lineEnd else .textEnd)
  | c => ofPrimitive flags (.literal c)

/-- Patterns in a row, given in reverse. What only sets flags is no pattern. -/
def inRow (parts : List (Option Pattern)) : Pattern :=
  parts.foldl (fun rest part => part.elim rest fun p => if rest = .empty then p else .seq p rest) .empty

/-- Repeats the newest pattern of a row. -/
def repeatLast (start stop : Nat) (parts : List (Option Pattern)) (f : Pattern → Pattern) :
    Reader (List (Option Pattern)) :=
  match parts with
  | some p :: rest => return some (f p) :: rest
  | _ => faultAt .nothingToRepeat start stop

/-- How a group opens. -/
inductive Opening where
  | group
  | flagsOnly

def opening : Reader Opening := do
  let start ← place
  drop
  for look in [['?', '<', '='], ['?', '<', '!'], ['?', '='], ['?', '!']] do
    if ← dropIf look then faultFrom .lookAround start
  let inner ← place
  if (← dropIf ['?', 'P', '<']) || (← dropIf ['?', '<']) then
    groupName
    return .group
  else if ← dropIf ['?'] then
    if (← peek).isNone then faultAt .groupUnclosed start (start + 1)
    let first ← place
    let flags ← flagLetters ((← get).rest.length + 1) false [] (← get).flags
    let bare := (← place) = first
    modify fun s => { s with flags := flags }
    if ← dropIf [')'] then
      if bare then faultAt .nothingToRepeat inner (inner + 1)
      return .flagsOnly
    else
      drop
      return .group
  else return .group

mutual

/-- Alternatives up to the end of the group or of the text, in at most `fuel` steps. -/
def alternatives : Nat → Reader Pattern
  | 0 => return .empty
  | fuel + 1 => do
    let p ← row fuel []
    if ← dropIf ['|'] then return .alt p (← alternatives fuel)
    else return p

/-- Patterns in a row, of which `parts` have been read, the newest first. -/
def row : Nat → List (Option Pattern) → Reader Pattern
  | 0, parts => return inRow parts
  | fuel + 1, parts => do
    let start ← place
    match ← peek with
    | none | some '|' | some ')' => return inRow parts
    | some '(' =>
      let before := (← get).flags
      match ← opening with
      | .flagsOnly => row fuel (none :: parts)
      | .group =>
        let p ← alternatives fuel
        if ← dropIf [')'] then
          modify fun s => { s with flags := before }
          row fuel (some p :: parts)
        else faultAt .groupUnclosed start (start + 1)
    | some '[' =>
      let s ← bracketed fuel
      row fuel (some (.char s) :: parts)
    | some '*' | some '+' | some '?' =>
      let op ← peek
      let repeatedParts ← repeatLast start (start + 1) parts fun p =>
        if op = some '*' then star p else if op = some '+' then seq p (star p) else opt p
      drop
      let _ ← dropIf ['?']
      row fuel repeatedParts
    | some '\x7b' =>
      let _ ← repeatLast start start parts id
      let (least, most) ← countedBounds
      row fuel (← repeatLast start start parts (counted · least most))
    | some '\\' =>
      let p ← escape
      row fuel (some (ofPrimitive (← get).flags p) :: parts)
    | some c =>
      drop
      row fuel (some (ofCharacter (← get).flags c) :: parts)

end

def parse (text : String) : Except Fault Pattern :=
  let cs := text.toList
  let whole : Reader Pattern := do
    let p ← alternatives (3 * cs.length + 3)
    if (← peek).isSome then faultNext .groupUnopened else return p
  (whole.run ⟨cs, 0, ⟨false, false, false⟩, []⟩).map (·.1)

/-! ## Reports -/

/-- The lines of a text, each with the number of its first character. -/
def linesFrom (index : Nat) (line : List Char) : List Char → List (Nat × List Char)
  | [] => [(index, line)]
  | '\n' :: rest => (index, line) :: linesFrom (index + line.length + 1) [] rest
  | c :: rest => linesFrom index (line ++ [c]) rest

/-- The marks under the faulty characters of a line that starts at `index`. -/
def Fault.marks (f : Fault) (index : Nat) : List Char :=
  List.replicate (f.start - index) ' ' ++ List.replicate (max 1 (f.stop - f.start)) '^'

/-- The fault begins in the line. -/
def Fault.isIn (f : Fault) (index : Nat) (line : List Char) : Bool :=
  index ≤ f.start && f.start ≤ index + line.length

/-- A number, padded at its left. -/
def padded (width n : Nat) : List Char :=
  let digits := Nat.toDigits 10 n
  List.replicate (width - digits.length) ' ' ++ digits

/-- The lines of the text with the faulty characters marked. -/
def Fault.notes (f : Fault) (text : List Char) : List (List Char) :=
  let lines := linesFrom 0 [] text
  let width := if lines.length ≤ 1 then 0 else (Nat.toDigits 10 lines.length).length
  let margin := if width = 0 then 4 else width + 2
  (lines.zipIdx.map fun ((index, line), i) =>
    let head := if width = 0 then List.replicate 4 ' ' else padded width (i + 1) ++ [':', ' ']
    (head ++ line) ::
      if f.isIn index line then [List.replicate margin ' ' ++ f.marks index] else []).flatten

/-- The text with its faulty characters marked, and the cause. -/
def Fault.message (f : Fault) (text : String) : String :=
  let divider := if text.toList.contains '\n' then [List.replicate 79 '~'] else []
  let lines := divider ++ f.notes text.toList ++ divider
  "regex parse error:\n" ++ String.ofList (lines.flatMap (· ++ ['\n'])) ++ "error: " ++
    f.cause.message

end CloudProvider.Pattern
