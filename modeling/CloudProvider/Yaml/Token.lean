import CloudProvider.Yaml.Scalar

/-!
# Tokens of YAML

The tokens of a text show its structure: indentation becomes tokens that open and close
collections. A key of a mapping is known as such only when the colon after it is found.

- `Token`: the tokens.
- `Scan`: the state between two tokens.
- `Scan.step`: reads the next token.
- `Token.ofText?`: all tokens of a text.
-/

namespace CloudProvider.Yaml
set_option autoImplicit false

/-- A part of a text that shows its structure. -/
inductive Token where
  | version (major minor : List Char)
  | handle (name tag : List Char)
  | documentStart
  | documentEnd
  | blockSequence
  | blockMapping
  | blockEnd
  | openBracket
  | closeBracket
  | openBrace
  | closeBrace
  | entry
  | comma
  | key
  | value
  | alias (name : List Char)
  | anchor (name : List Char)
  /-- A tag, with the name of its handle if it has one. -/
  | tag (handle : Option (List Char)) (suffix : List Char)
  | scalar (text : List Char) (plain : Bool)
deriving DecidableEq

/-- A place where a key may have begun. -/
structure KeyStart where
  /-- The number of tokens before it. -/
  tokens : Nat
  place : Cursor
  /-- Nothing but a key may stand there. -/
  required : Bool

/-- The state between two tokens. -/
structure Scan where
  cursor : Cursor
  /-- The tokens so far, the latest first. -/
  tokens : List Token
  /-- The indentations of the open collections, the innermost first. -/
  indents : List Nat
  /-- The places where keys may have begun: inside the innermost brackets, and around them. -/
  key : Option KeyStart
  outerKeys : List (Option KeyStart)
  keyAllowed : Bool

namespace Scan

def start (s : String) : Scan where
  cursor := .start s
  tokens := []
  indents := []
  key := none
  outerKeys := []
  keyAllowed := true

def inFlow (s : Scan) : Bool := !s.outerKeys.isEmpty

/-- The next line of a collection is indented by at least this. -/
def indentAfter (s : Scan) : Nat :=
  match s.indents with
  | [] => 0
  | n :: _ => n + 1

def emit (s : Scan) (t : Token) : Scan :=
  { s with tokens := t :: s.tokens }

def allowKey (s : Scan) (allowed : Bool) : Scan :=
  { s with keyAllowed := allowed }

def skip (s : Scan) (n : Nat) : Scan :=
  { s with cursor := s.cursor.skip n }

/-! ## Keys -/

/-- A key that began there may end here: it is short and on one line. -/
def isFresh (s : Scan) (k : KeyStart) : Bool :=
  k.place.line = s.cursor.line && s.cursor.offset ≤ k.place.offset + 1024

/-- Forgets a place where a key may have begun, unless there has to be one. -/
def dropKey? (s : Scan) : Option KeyStart → Option (Option KeyStart)
  | none => some none
  | some k => if s.isFresh k then some (some k) else if k.required then none else some none

/-- Forgets all places from which no key can reach this one. -/
def dropStaleKeys (s : Scan) : Option Scan := do
  return {
    s with
    key := ← s.dropKey? s.key
    outerKeys := ← s.outerKeys.mapM s.dropKey? }

/-- No key has begun inside the innermost brackets. -/
def forgetKey (s : Scan) : Option Scan :=
  match s.key with
  | some k => if k.required then none else some { s with key := none }
  | none => some s

/-- A key may begin here. -/
def saveKey (s : Scan) : Option Scan :=
  if s.keyAllowed then do
    let required := !s.inFlow && s.indents.head? = some s.cursor.column
    let s ← s.forgetKey
    return { s with key := some ⟨s.tokens.length, s.cursor, required⟩ }
  else some s

/-! ## Indentation -/

/-- Opens a collection at a column, if it is indented more than the one around it. The token that
opens it comes after `before` tokens. -/
def openBlock (s : Scan) (column before : Nat) (t : Token) : Scan :=
  if s.inFlow || column < s.indentAfter then s
  else
    let later := s.tokens.length - before
    { s with
      indents := column :: s.indents
      tokens := s.tokens.take later ++ t :: s.tokens.drop later }

/-- Closes the collections that are indented by at least `column`. -/
def closeFrom (s : Scan) (column : Nat) : Scan :=
  if s.inFlow then s
  else
    let closed := (s.indents.takeWhile (column ≤ ·)).length
    { s with
      indents := s.indents.drop closed
      tokens := List.replicate closed .blockEnd ++ s.tokens }

/-- Ends all collections, so that nothing goes on after this place. -/
def closeAll (s : Scan) : Option Scan :=
  (·.allowKey false) <$> (s.closeFrom 0).forgetKey

/-! ## Blanks and comments -/

/-- Moves to the next token. -/
def skipToToken : Nat → Scan → Scan
  | 0, s => s
  | fuel + 1, s =>
    let c := s.cursor
    let c := if c.column = 0 && c.next (· = '\ufeff') then c.skip 1 else c
    let tabs := s.inFlow || !s.keyAllowed
    let c := c.skipWhile fun char => char = ' ' || (tabs && char = '\t')
    let c := if c.next (· = '#') then c.skipWhile (!isBreak ·) else c
    if c.next isBreak then
      skipToToken fuel { s with cursor := c.skipBreak, keyAllowed := s.keyAllowed || !s.inFlow }
    else { s with cursor := c }

/-! ## Tags, anchors and directives -/

def isUriChar (verbatim : Bool) (c : Char) : Bool :=
  isWordChar c || [';', '/', '?', ':', '@', '&', '=', '+', '$', '.', '%', '!', '~', '*', '\'', '(',
    ')'].contains c || (verbatim && [',', '[', ']'].contains c)

/-- A handle of a tag: exclamation marks around a word. -/
def handle? (cs : List Char) : Option (List Char) :=
  match cs with
  | '!' :: rest =>
    let word := rest.takeWhile isWordChar
    if (rest.drop word.length).head? = some '!' then some ('!' :: word ++ ['!']) else none
  | _ => none

/-- A tag, and the number of its characters. -/
def tag? (cs : List Char) : Option (Token × Nat) :=
  match cs with
  | '!' :: '<' :: rest =>
    let uri := rest.takeWhile (isUriChar true)
    if uri.isEmpty || (rest.drop uri.length).head? ≠ some '>' then none
    else some (.tag none uri, uri.length + 3)
  | '!' :: rest =>
    match handle? cs with
    | some handle =>
      let suffix := (cs.drop handle.length).takeWhile (isUriChar false)
      if suffix.isEmpty then none
      else some (.tag (some handle) suffix, handle.length + suffix.length)
    | none =>
      let suffix := rest.takeWhile (isUriChar false)
      some (.tag (some ['!']) suffix, suffix.length + 1)
  | _ => none

def readTag (s : Scan) : Option Scan := do
  let s ← s.saveKey
  let (t, n) ← tag? s.cursor.rest
  let s := (s.skip n).allowKey false
  if spaceFollows s.cursor.rest || (s.inFlow && s.cursor.next (· = ',')) then return s.emit t
  else none

def readName (s : Scan) (t : List Char → Token) : Option Scan := do
  let s ← s.saveKey
  let s := s.skip 1
  let name := s.cursor.rest.takeWhile isWordChar
  let s := (s.skip name.length).allowKey false
  let ended := spaceFollows s.cursor.rest ||
    s.cursor.next (['?', ':', ',', ']', '}', '%', '@', '\x60'].contains ·)
  if name.isEmpty || !ended then none else return s.emit (t name)

/-- The version that a directive names. -/
def versionDirective? (cs : List Char) : Option (Token × List Char) :=
  let major := cs.takeWhile Text.isDigit
  match cs.drop major.length with
  | '.' :: rest =>
    let minor := rest.takeWhile Text.isDigit
    if major.isEmpty || minor.isEmpty then none
    else some (.version major minor, rest.drop minor.length)
  | _ => none

/-- The handle that a directive defines. -/
def handleDirective? (cs : List Char) : Option (Token × List Char) := do
  let name ← if cs.head? = some '!' && !(handle? cs).isSome then some ['!'] else handle? cs
  let rest := cs.drop name.length
  let blanks := rest.takeWhile isBlank
  let rest := rest.drop blanks.length
  let tag := rest.takeWhile (isUriChar true)
  let rest := rest.drop tag.length
  if blanks.isEmpty || tag.isEmpty || !spaceFollows rest then none
  else return (.handle name tag, rest)

def readDirective (s : Scan) : Option Scan := do
  let s ← s.closeAll
  let cs := s.cursor.rest.drop 1
  let name := cs.takeWhile isWordChar
  let rest := cs.drop name.length
  if !spaceFollows rest then none
  else
    let rest := rest.dropWhile isBlank
    let (t, rest) ←
      if name = ['Y', 'A', 'M', 'L'] then versionDirective? rest
      else if name = ['T', 'A', 'G'] then handleDirective? rest
      else none
    let cursor ← skipRestOfLine (s.cursor.skip (s.cursor.rest.length - rest.length))
    return { s with cursor := cursor }.emit t

/-! ## Marks -/

def readDocumentMark (s : Scan) (t : Token) : Option Scan := do
  return ((← s.closeAll).skip 3).emit t

def readOpening (s : Scan) (t : Token) : Option Scan := do
  let s ← s.saveKey
  return (({ s with key := none, outerKeys := s.key :: s.outerKeys }.allowKey true).skip 1).emit t

def readClosing (s : Scan) (t : Token) : Option Scan := do
  let s ← s.forgetKey
  let s := match s.outerKeys with
    | k :: outer => { s with key := k, outerKeys := outer }
    | [] => s
  return ((s.allowKey false).skip 1).emit t

/-- Reads a comma between items. -/
def readComma (s : Scan) : Option Scan := do
  return (((← s.forgetKey).allowKey true).skip 1).emit .comma

/-- Reads a hyphen before an item. -/
def readEntry (s : Scan) : Option Scan := do
  if !s.inFlow && !s.keyAllowed then none
  else
    let s := s.openBlock s.cursor.column s.tokens.length .blockSequence
    return (((← s.forgetKey).allowKey true).skip 1).emit .entry

/-- Reads a question mark before a key. -/
def readKey (s : Scan) : Option Scan := do
  if !s.inFlow && !s.keyAllowed then none
  else
    let s := s.openBlock s.cursor.column s.tokens.length .blockMapping
    let s ← s.forgetKey
    return ((s.allowKey (!s.inFlow)).skip 1).emit .key

/-- Reads a colon. What began as a key is one now. -/
def readValue (s : Scan) : Option Scan :=
  match s.key with
  | some k =>
    let later := s.tokens.length - k.tokens
    let s := { s with tokens := s.tokens.take later ++ Token.key :: s.tokens.drop later, key := none }
    let s := s.openBlock k.place.column k.tokens .blockMapping
    some (((s.allowKey false).skip 1).emit .value)
  | none =>
    if !s.inFlow && !s.keyAllowed then none
    else
      let s := s.openBlock s.cursor.column s.tokens.length .blockMapping
      some (((s.allowKey (!s.inFlow)).skip 1).emit .value)

/-! ## Scalars -/

def readBlockScalar (s : Scan) (literal : Bool) : Option Scan := do
  let s ← s.forgetKey
  let r ← readBlock literal s.indents.head? s.cursor
  return { s with cursor := r.cursor, keyAllowed := true }.emit (.scalar r.text false)

def readQuotedScalar (s : Scan) (single : Bool) : Option Scan := do
  let s ← s.saveKey
  let r ← readQuoted single s.cursor
  return { s with cursor := r.cursor, keyAllowed := false }.emit (.scalar r.text false)

/-- Reads a plain scalar. After the end of its line a key may begin. -/
def readPlainScalar (s : Scan) : Option Scan := do
  let s ← s.saveKey
  let r ← readPlain s.inFlow s.indentAfter s.cursor
  return { s with cursor := r.cursor, keyAllowed := r.lineEnded }.emit (.scalar r.text true)

/-- The marks that no plain scalar begins with. -/
def openingMarks : List Char :=
  ['#', '&', '*', '!', '|', '>', '\'', '"', '%', '@', '\x60']

/-- A plain scalar may begin with these characters. -/
def startsPlain (inFlow : Bool) : List Char → Bool
  | [] => false
  | c :: rest =>
    if c = '-' then !rest.head?.any isBlank
    else if c = '?' || c = ':' then !inFlow && !spaceFollows rest
    else
      !isSpace c && !isFlowMark c && !openingMarks.contains c

/-! ## The next token -/

/-- Reads the next token at its first character. -/
def readAt (s : Scan) (char : Char) (rest : List Char) : Option Scan :=
  let spaced := spaceFollows rest
  if s.cursor.column = 0 && char = '%' then s.readDirective
  else if s.cursor.atMark ['-', '-', '-'] then s.readDocumentMark .documentStart
  else if s.cursor.atMark ['.', '.', '.'] then s.readDocumentMark .documentEnd
  else if char = '[' then s.readOpening .openBracket
  else if char = '{' then s.readOpening .openBrace
  else if char = ']' then s.readClosing .closeBracket
  else if char = '}' then s.readClosing .closeBrace
  else if char = ',' then s.readComma
  else if char = '-' && spaced then s.readEntry
  else if char = '?' && (s.inFlow || spaced) then s.readKey
  else if char = ':' && (s.inFlow || spaced) then s.readValue
  else if char = '*' then s.readName .alias
  else if char = '&' then s.readName .anchor
  else if char = '!' then s.readTag
  else if char = '|' && !s.inFlow then s.readBlockScalar true
  else if char = '>' && !s.inFlow then s.readBlockScalar false
  else if char = '\'' then s.readQuotedScalar true
  else if char = '"' then s.readQuotedScalar false
  else if startsPlain s.inFlow (char :: rest) then s.readPlainScalar
  else none

/-- Moves to the next token, and closes the collections that end before it. -/
def advance (s : Scan) : Option Scan := do
  let s ← (s.skipToToken (s.cursor.rest.length + 1)).dropStaleKeys
  return s.closeFrom (s.cursor.column + 1)

/-- Reads tokens up to the end of the text. -/
def run : Nat → Scan → Option Scan
  | 0, _ => none
  | fuel + 1, s => do
    let s ← s.advance
    match s.cursor.rest with
    | [] => s.closeAll
    | char :: rest => run fuel (← s.readAt char rest)

end Scan

def Token.ofText? (s : String) : Option (List Token) :=
  if s.toList.all isAllowed then
    (fun scan => scan.tokens.reverse) <$> (Scan.start s).run (s.length + 1)
  else none

end CloudProvider.Yaml
