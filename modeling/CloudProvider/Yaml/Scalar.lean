import CloudProvider.Yaml.Cursor

/-!
# Scalars in YAML

A scalar is written plainly, in quotes, or as a block of lines.

- `readPlain`: a scalar without quotes.
- `readQuoted`: a scalar in single or double quotes.
- `readBlock`: the lines of a literal or a folded block.
-/

namespace CloudProvider.Yaml
set_option autoImplicit false

/-! ## Plain scalars -/

/-- The brackets and the comma, which have a meaning inside brackets. -/
def isFlowMark (c : Char) : Bool :=
  c = ',' || c = '[' || c = ']' || c = '{' || c = '}'

/-- The characters of a plain scalar up to a space or to a character that ends it. -/
def plainRun (inFlow : Bool) : List Char → Option (List Char)
  | [] => some []
  | c :: rest =>
    if isSpace c then some []
    else if inFlow && c = ':' && rest.head?.any (fun d => isFlowMark d || d = '?') then none
    else if (c = ':' && spaceFollows rest) || (inFlow && isFlowMark c) then some []
    else (c :: ·) <$> plainRun inFlow rest

/-- What was read of a scalar. -/
structure Reading where
  text : List Char
  /-- A line ended after the scalar. -/
  lineEnded : Bool
  cursor : Cursor

/-- Reads a plain scalar that goes on in lines indented by at least `indent`, after `text` and a
gap. -/
def readPlainFrom (inFlow : Bool) (indent : Nat) : Nat → List Char → Gap → Cursor → Option Reading
  | 0, text, g, c => some ⟨text, g.folded, c⟩
  | fuel + 1, text, g, c =>
    if c.atDocumentMark || c.next (· = '#') then some ⟨text, g.folded, c⟩
    else
      match plainRun inFlow c.rest with
      | none => none
      | some run =>
        let text := if run.isEmpty then text else text ++ g.text ++ run
        let g := if run.isEmpty then g else Gap.none
        let c := c.skip run.length
        if !c.next isSpace then some ⟨text, g.folded, c⟩
        else
          match c.readGap indent c.rest.length Gap.none with
          | none => none
          | some (g, c) =>
            if !inFlow && c.column < indent then some ⟨text, g.folded, c⟩
            else readPlainFrom inFlow indent fuel text g c

/-- Reads a plain scalar that goes on in lines indented by at least `indent`. -/
def readPlain (inFlow : Bool) (indent : Nat) (c : Cursor) : Option Reading :=
  readPlainFrom inFlow indent (c.rest.length + 1) [] Gap.none c

/-! ## Quoted scalars -/

def hexValue? (c : Char) : Option Nat :=
  if '0' ≤ c && c ≤ '9' then some (c.toNat - 48)
  else if 'a' ≤ c && c ≤ 'f' then some (c.toNat - 87)
  else if 'A' ≤ c && c ≤ 'F' then some (c.toNat - 55)
  else none

/-- The character with a code of `n` hexadecimal digits. -/
def hexChar? (n : Nat) (cs : List Char) : Option Char :=
  if cs.length < n then none
  else do
    let digits ← (cs.take n).mapM hexValue?
    let code := digits.foldl (fun code d => 16 * code + d) 0
    if code < 0xd800 ∨ (0xdfff < code ∧ code ≤ 0x10ffff) then some (Char.ofNat code) else none

/-- The escapes of a single character. -/
def simpleEscapes : List (Char × Char) :=
  [ ('0', '\x00'), ('a', '\x07'), ('b', '\x08'), ('t', '\t'), ('\t', '\t'), ('n', '\n'),
    ('v', '\x0b'), ('f', '\x0c'), ('r', '\r'), ('e', '\x1b'), (' ', ' '), ('"', '"'), ('/', '/'),
    ('\\', '\\'), ('N', '\u0085'), ('_', '\u00a0'), ('L', '\u2028'), ('P', '\u2029') ]

/-- The character that an escape stands for, and the number of characters after the backslash. -/
def escape? : List Char → Option (Char × Nat)
  | [] => none
  | 'x' :: rest => (·, 3) <$> hexChar? 2 rest
  | 'u' :: rest => (·, 5) <$> hexChar? 4 rest
  | 'U' :: rest => (·, 9) <$> hexChar? 8 rest
  | c :: _ => (·, 1) <$> simpleEscapes.lookup c

/-- How a run inside quotes ends. -/
inductive RunEnd where
  /-- At a space, at the closing quote or at the end of the text. -/
  | plain
  /-- At a line break that does not count. -/
  | joined

/-- Reads the characters inside quotes up to a space or the closing quote. -/
def quotedRun (single : Bool) : Nat → List Char → Cursor → Option (List Char × RunEnd × Cursor)
  | 0, text, c => some (text, .plain, c)
  | fuel + 1, text, c =>
    match c.rest with
    | [] => some (text, .plain, c)
    | char :: rest =>
      if isSpace char then some (text, .plain, c)
      else if single then
        if char = '\'' then
          if rest.head? = some '\'' then quotedRun single fuel (text ++ ['\'']) (c.skip 2)
          else some (text, .plain, c)
        else quotedRun single fuel (text ++ [char]) (c.skip 1)
      else if char = '"' then some (text, .plain, c)
      else if char = '\\' then
        if rest.head?.any isBreak then some (text, .joined, (c.skip 1).skipBreak)
        else
          match escape? rest with
          | none => none
          | some (e, n) => quotedRun single fuel (text ++ [e]) (c.skip (n + 1))
      else quotedRun single fuel (text ++ [char]) (c.skip 1)

/-- Reads a quoted scalar after its opening quote, and after `text` of it. -/
def readQuotedFrom (single : Bool) : Nat → List Char → Cursor → Option Reading
  | 0, _, _ => none
  | fuel + 1, text, c =>
    if c.atDocumentMark || c.rest.isEmpty then none
    else
      match quotedRun single c.rest.length text c with
      | none => none
      | some (text, runEnd, c) =>
        if c.next fun char => char = (if single then '\'' else '"') then
          some ⟨text, false, c.skip 1⟩
        else
          let g : Gap := match runEnd with
            | .plain => Gap.none
            | .joined => { Gap.none with folded := true }
          match c.readGap 0 c.rest.length g with
          | none => none
          | some (g, c) => readQuotedFrom single fuel (text ++ g.text) c

def readQuoted (single : Bool) (c : Cursor) : Option Reading :=
  readQuotedFrom single (c.rest.length + 1) [] (c.skip 1)

/-! ## Blocks of lines -/

/-- What happens to the line breaks at the end of a block. -/
inductive Chomping where
  | strip
  | clip
  | keep
deriving DecidableEq

def chomping? (c : Char) : Option Chomping :=
  if c = '+' then some .keep else if c = '-' then some .strip else none

/-- An indentation that is given in the head of a block. It is not zero. -/
def indentHint? (c : Char) : Option Nat :=
  if '1' ≤ c && c ≤ '9' then some (c.toNat - 48) else none

/-- Reads the head of a block: its chomping and its indentation, in either order. -/
def blockHead (c : Cursor) : Option (Chomping × Option Nat × Cursor) :=
  let hint (chomping : Chomping) (c : Cursor) : Option (Chomping × Option Nat × Cursor) :=
    match c.rest with
    | '0' :: _ => none
    | d :: _ =>
      match indentHint? d with
      | some n => some (chomping, some n, c.skip 1)
      | none => some (chomping, none, c)
    | [] => some (chomping, none, c)
  match c.rest with
  | [] => some (.clip, none, c)
  | d :: _ =>
    match chomping? d with
    | some chomping => hint chomping (c.skip 1)
    | none =>
      match hint .clip c with
      | some (.clip, some n, c) =>
        match c.rest.head?.bind chomping? with
        | some chomping => some (chomping, some n, c.skip 1)
        | none => some (.clip, some n, c)
      | head => head

/-- Moves over blanks and a comment to the end of the line, which has nothing else. -/
def skipRestOfLine (c : Cursor) : Option Cursor :=
  let c := c.skipWhile isBlank
  let c := if c.next (· = '#') then c.skipWhile (!isBreak ·) else c
  if c.rest.isEmpty || c.next isBreak then some c.skipBreak else none

/-- Reads empty lines and the indentation of the next one, up to `indent` if it is known. Gives the
line breaks and the widest indentation as well. -/
def blockBreaks (indent : Option Nat) :
    Nat → List Char → Nat → Cursor → Option (List Char × Nat × Cursor)
  | 0, breaks, widest, c => some (breaks, widest, c)
  | fuel + 1, breaks, widest, c =>
    let room := match indent with
      | some n => n - c.column
      | none => c.rest.length
    let c := c.skip (Nat.min room (c.rest.takeWhile (· = ' ')).length)
    let widest := Nat.max widest c.column
    let short := match indent with
      | some n => decide (c.column < n)
      | none => true
    if short && c.next (· = '\t') then none
    else if c.next isBreak then
      let (b, c) := c.readBreak
      blockBreaks indent fuel (breaks ++ b) widest c
    else some (breaks, widest, c)

/-- The state between two lines of a block: the text so far, the break after the last line, the
empty lines after it, and whether the last line began with a blank. -/
structure BlockState where
  text : List Char
  lineBreak : List Char
  emptyLines : List Char
  blankBefore : Bool

/-- The text before a new line. A folded block joins lines that do not begin with blanks. -/
def BlockState.joined (s : BlockState) (literal startsBlank : Bool) : List Char :=
  if !literal && s.lineBreak = ['\n'] && !s.blankBefore && !startsBlank then
    s.text ++ (if s.emptyLines.isEmpty then [' '] else s.emptyLines)
  else s.text ++ s.lineBreak ++ s.emptyLines

/-- Reads the lines of a block that are indented by `indent`. -/
def blockLines (literal : Bool) (indent : Nat) :
    Nat → BlockState → Cursor → Option (BlockState × Cursor)
  | 0, s, c => some (s, c)
  | fuel + 1, s, c =>
    if c.column ≠ indent || c.rest.isEmpty then some (s, c)
    else
      let startsBlank := c.next isBlank
      let line := c.rest.takeWhile (!isBreak ·)
      let text := s.joined literal startsBlank ++ line
      let (b, c) := (c.skip line.length).readBreak
      match blockBreaks (some indent) (c.rest.length + 1) [] 0 c with
      | none => none
      | some (breaks, _, c) => blockLines literal indent fuel ⟨text, b, breaks, startsBlank⟩ c

/-- Reads a block whose surroundings are indented by `outer`, if they are indented at all. -/
def readBlock (literal : Bool) (outer : Option Nat) (c : Cursor) : Option Reading := do
  let (chomping, hint, c) ← blockHead (c.skip 1)
  let c ← skipRestOfLine c
  let known := hint.map fun n => outer.getD 0 + n
  let (breaks, widest, c) ← blockBreaks known (c.rest.length + 1) [] 0 c
  let least := match outer with
    | some n => n + 1
    | none => 1
  let indent := known.getD (Nat.max widest least)
  let (s, c) ← blockLines literal indent (c.rest.length + 1) ⟨[], [], breaks, false⟩ c
  let tail := match chomping with
    | .strip => []
    | .clip => s.lineBreak
    | .keep => s.lineBreak ++ s.emptyLines
  return ⟨s.text ++ tail, true, c⟩

end CloudProvider.Yaml
