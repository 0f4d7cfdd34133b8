import CloudProvider.Text.Digit

/-!
# Places in a YAML text

- `Cursor`: what is left of a text, and where it begins.
- `Cursor.skip`, `Cursor.skipBreak`: moves over a character and over a line break.
- `Cursor.readGap`: the blanks and the line breaks between two words.
-/

namespace CloudProvider.Yaml
set_option autoImplicit false

/-! ## Characters -/

/-- A blank inside a line. -/
def isBlank (c : Char) : Bool :=
  c = ' ' || c = '\t'

/-- A character that ends a line. -/
def isBreak (c : Char) : Bool :=
  c = '\n' || c = '\r' || c = '\u0085' || c = '\u2028' || c = '\u2029'

def isSpace (c : Char) : Bool :=
  isBlank c || isBreak c

/-- The text is over, or a blank or a line break follows. -/
def spaceFollows : List Char → Bool
  | [] => true
  | c :: _ => isSpace c

/-- A character of names. -/
def isWordChar (c : Char) : Bool :=
  c.isAlphanum || c = '_' || c = '-'

/-- A character that a text may have. -/
def isAllowed (c : Char) : Bool :=
  c = '\t' || c = '\n' || c = '\r' || c = '\u0085' || (' ' ≤ c && c ≤ '~') ||
    ('\u00a0' ≤ c && c.toNat ≠ 0xfffe && c.toNat ≠ 0xffff)

/-! ## Cursors -/

/-- What is left of a text, and where it begins. -/
structure Cursor where
  rest : List Char
  line : Nat
  column : Nat
  /-- The number of characters before it. -/
  offset : Nat

namespace Cursor

def start (s : String) : Cursor := ⟨s.toList, 0, 0, 0⟩

/-- Moves over characters of one line. -/
def skip (n : Nat) (c : Cursor) : Cursor :=
  { c with rest := c.rest.drop n, column := c.column + n, offset := c.offset + n }

/-- Moves over characters of one line while they are of a kind. -/
def skipWhile (p : Char → Bool) (c : Cursor) : Cursor :=
  c.skip (c.rest.takeWhile p).length

/-- Reads a line break, if there is one. Most breaks are read as a line feed. -/
def readBreak (c : Cursor) : List Char × Cursor :=
  let next (text : List Char) (n : Nat) (rest : List Char) :=
    (text, (⟨rest, c.line + 1, 0, c.offset + n⟩ : Cursor))
  match c.rest with
  | '\r' :: '\n' :: rest => next ['\n'] 2 rest
  | b :: rest =>
    if b = '\u2028' || b = '\u2029' then next [b] 1 rest
    else if isBreak b then next ['\n'] 1 rest
    else ([], c)
  | [] => ([], c)

def skipBreak (c : Cursor) : Cursor := c.readBreak.2

/-- The next character is of a kind. -/
def next (p : Char → Bool) (c : Cursor) : Bool :=
  c.rest.head?.any p

/-- A mark of three characters stands alone at the beginning of a line. -/
def atMark (mark : List Char) (c : Cursor) : Bool :=
  c.column = 0 && mark.isPrefixOf c.rest && spaceFollows (c.rest.drop mark.length)

/-- A document begins or ends here. -/
def atDocumentMark (c : Cursor) : Bool :=
  c.atMark ['-', '-', '-'] || c.atMark ['.', '.', '.']

end Cursor

/-! ## Gaps -/

/-- The blanks of a line, or the line breaks, between two words. -/
structure Gap where
  blanks : List Char
  firstBreak : List Char
  moreBreaks : List Char
  /-- The gap goes over the end of a line. -/
  folded : Bool

namespace Gap

def none : Gap := ⟨[], [], [], false⟩

/-- What a gap stands for: its blanks, or a single space for one line feed, or the line breaks
after the first. -/
def text (g : Gap) : List Char :=
  if !g.folded then g.blanks
  else if g.firstBreak = ['\n'] then
    if g.moreBreaks.isEmpty then [' '] else g.moreBreaks
  else g.firstBreak ++ g.moreBreaks

/-- The gap with one more blank. Blanks at the beginning of a line do not count. -/
def addBlank (g : Gap) (c : Char) : Gap :=
  if g.folded then g else { g with blanks := g.blanks ++ [c] }

/-- The gap with one more line break. -/
def addBreak (g : Gap) (b : List Char) : Gap :=
  if g.folded then { g with moreBreaks := g.moreBreaks ++ b }
  else { g with blanks := [], firstBreak := b, folded := true }

end Gap

/-- Reads the gap before the next word, after `g` of it. At the beginning of a line no tab may stand
before column `indent`. -/
def Cursor.readGap (indent : Nat) : Nat → Gap → Cursor → Option (Gap × Cursor)
  | 0, g, c => some (g, c)
  | fuel + 1, g, c =>
    match c.rest with
    | [] => some (g, c)
    | char :: _ =>
      if isBlank char then
        if g.folded && c.column < indent && char = '\t' then Option.none
        else readGap indent fuel (g.addBlank char) (c.skip 1)
      else if isBreak char then
        let (b, c) := c.readBreak
        readGap indent fuel (g.addBreak b) c
      else some (g, c)

end CloudProvider.Yaml
