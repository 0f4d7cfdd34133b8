import CloudProvider.Yaml.Token

/-!
# YAML documents

- `Node`: a value of a document.
- `Node.ofTokens?`: the value that the tokens of a single document show.
- `Node.parse?`: the value of a text.
-/

namespace CloudProvider.Yaml
set_option autoImplicit false

inductive Node where
  | scalar (text : String) (plain : Bool) (tag : Option String)
  | sequence (items : List Node)
  | mapping (entries : List (Node × Node))
  /-- A value that contains itself. -/
  | endless

namespace Node

/-- What stands where nothing is written. -/
def empty : Node := scalar "" true none

/-! ## Properties -/

/-- The values with names, the latest first, and the tags that the handles stand for. -/
structure Names where
  anchors : List (List Char × Node)
  handles : List (List Char × List Char)

/-- The handles that every document has. -/
def Names.start : Names where
  anchors := []
  handles := [(['!'], ['!']), (['!', '!'], "tag:yaml.org,2002:".toList)]

/-- The names with one more. -/
def Names.bind (names : Names) (anchor : Option (List Char)) (n : Node) : Names :=
  match anchor with
  | some name => { names with anchors := (name, n) :: names.anchors }
  | none => names

/-- What stands before a value. -/
structure Properties where
  anchor : Option (List Char)
  tag : Option String

/-- The tag in full. -/
def Names.fullTag? (names : Names) : Option (List Char) → List Char → Option String
  | none, suffix => some (String.ofList suffix)
  | some handle, suffix => do
    return String.ofList ((← names.handles.lookup handle) ++ suffix)

/-- Reads an anchor and a tag, in either order. -/
def properties (names : Names) : List Token → Option (Properties × List Token)
  | .anchor name :: .tag handle suffix :: rest => do
    return (⟨some name, some (← names.fullTag? handle suffix)⟩, rest)
  | .tag handle suffix :: .anchor name :: rest => do
    return (⟨some name, some (← names.fullTag? handle suffix)⟩, rest)
  | .anchor name :: rest => some (⟨some name, none⟩, rest)
  | .tag handle suffix :: rest => do
    return (⟨none, some (← names.fullTag? handle suffix)⟩, rest)
  | rest => some (⟨none, none⟩, rest)

/-! ## Values -/

/-- A reader of values: the value, the names known after it, and the tokens left. -/
abbrev Reader (α : Type) := Names → List Token → Option (α × Names × List Token)

/-- What may stand where a value is read. -/
inductive Context where
  /-- Collections shown by indentation or by brackets. -/
  | block
  /-- The same, and items that are not indented more than the key before them. -/
  | afterKey
  /-- Only collections in brackets. -/
  | flow
deriving DecidableEq

/-- A value, or nothing where one of the tokens `ends` follows. -/
def valueOr (ends : List Token) (read : Reader Node) : Reader Node := fun names ts =>
  match ts with
  | [] => none
  | t :: _ => if ends.contains t then some (empty, names, ts) else read names ts

/-- The items of a sequence shown by indentation. -/
def blockItems (read : Context → Reader Node) : Nat → Reader (List Node)
  | 0, _, _ => none
  | fuel + 1, names, ts =>
    match ts with
    | .entry :: rest => do
      let (n, names, rest) ← valueOr [.entry, .blockEnd] (read .block) names rest
      let (ns, names, rest) ← blockItems read fuel names rest
      return (n :: ns, names, rest)
    | .blockEnd :: rest => some ([], names, rest)
    | _ => none

/-- The items of a sequence that is not indented. -/
def bareItems (read : Context → Reader Node) : Nat → Reader (List Node)
  | 0, _, _ => none
  | fuel + 1, names, ts =>
    match ts with
    | .entry :: rest => do
      let (n, names, rest) ← valueOr [.entry, .key, .value, .blockEnd] (read .block) names rest
      let (ns, names, rest) ← bareItems read fuel names rest
      return (n :: ns, names, rest)
    | _ => some ([], names, ts)

/-- The entries of a mapping shown by indentation. -/
def blockEntries (read : Context → Reader Node) : Nat → Reader (List (Node × Node))
  | 0, _, _ => none
  | fuel + 1, names, ts =>
    let part := valueOr [.key, .value, .blockEnd] (read .afterKey)
    match ts with
    | .key :: rest => do
      let (k, names, rest) ← part names rest
      let (v, names, rest) ← match rest with
        | .value :: rest => part names rest
        | _ => some (empty, names, rest)
      let (entries, names, rest) ← blockEntries read fuel names rest
      return ((k, v) :: entries, names, rest)
    | .blockEnd :: rest => some ([], names, rest)
    | _ => none

/-- The value after a key in brackets that `close` closes, if there is one. -/
def flowValue (read : Context → Reader Node) (close : Token) : Reader Node := fun names ts =>
  match ts with
  | .value :: rest => valueOr [.comma, close] (read .flow) names rest
  | _ => some (empty, names, ts)

/-- A pair among the items in square brackets. -/
def flowPair (read : Context → Reader Node) : Reader Node := fun names ts => do
  let (k, names, rest) ← match ts with
    | .value :: rest | .comma :: rest | .closeBracket :: rest => some (empty, names, rest)
    | _ => read .flow names ts
  let (v, names, rest) ← flowValue read .closeBracket names rest
  return (mapping [(k, v)], names, rest)

/-- The items in square brackets, `later` if there are items before. -/
def flowItems (read : Context → Reader Node) : Nat → Bool → Reader (List Node)
  | 0, _, _, _ => none
  | fuel + 1, later, names, ts =>
    let item (ts : List Token) : Option (List Node × Names × List Token) := do
      let (n, names, rest) ← match ts with
        | .key :: rest => flowPair read names rest
        | _ => read .flow names ts
      let (ns, names, rest) ← flowItems read fuel true names rest
      return (n :: ns, names, rest)
    match later, ts with
    | _, .closeBracket :: rest => some ([], names, rest)
    | true, .comma :: .closeBracket :: rest => some ([], names, rest)
    | true, .comma :: rest => item rest
    | true, _ => none
    | false, ts => item ts

/-- The entries in braces, `later` if there are entries before. -/
def flowEntries (read : Context → Reader Node) : Nat → Bool → Reader (List (Node × Node))
  | 0, _, _, _ => none
  | fuel + 1, later, names, ts =>
    let item (ts : List Token) : Option (List (Node × Node) × Names × List Token) := do
      let (k, v, names, rest) ← match ts with
        | .key :: rest => do
          let (k, names, rest) ← valueOr [.value, .comma, .closeBrace] (read .flow) names rest
          let (v, names, rest) ← flowValue read .closeBrace names rest
          some (k, v, names, rest)
        | _ => do
          let (k, names, rest) ← read .flow names ts
          some (k, empty, names, rest)
      let (entries, names, rest) ← flowEntries read fuel true names rest
      return ((k, v) :: entries, names, rest)
    match later, ts with
    | _, .closeBrace :: rest => some ([], names, rest)
    | true, .comma :: .closeBrace :: rest => some ([], names, rest)
    | true, .comma :: rest => item rest
    | true, _ => none
    | false, ts => item ts

/-- The value of a collection, which is known under its name afterwards. -/
def named {α : Type} (p : Properties) (build : α → Node) (read : Reader α) : Reader Node :=
  fun names ts => do
    let (parts, names, rest) ← read (names.bind p.anchor endless) ts
    return (build parts, names.bind p.anchor (build parts), rest)

def readValue : Nat → Context → Reader Node
  | 0, _, _, _ => none
  | fuel + 1, context, names, ts =>
    match ts with
    | .alias name :: rest => (·, names, rest) <$> names.anchors.lookup name
    | _ => do
      let (p, rest) ← properties names ts
      let read := readValue fuel
      let size := ts.length + 1
      match rest with
      | .scalar text plain :: rest =>
        let n := scalar (String.ofList text) plain p.tag
        some (n, names.bind p.anchor n, rest)
      | .openBracket :: rest => named p sequence (flowItems read size false) names rest
      | .openBrace :: rest => named p mapping (flowEntries read size false) names rest
      | rest =>
        let nothing :=
          if p.anchor.isSome || p.tag.isSome then
            let n := scalar "" true p.tag
            some (n, names.bind p.anchor n, rest)
          else none
        if context = .flow then nothing
        else
          match rest with
          | .blockSequence :: rest => named p sequence (blockItems read size) names rest
          | .blockMapping :: rest => named p mapping (blockEntries read size) names rest
          | .entry :: _ =>
            if context = .afterKey then named p sequence (bareItems read size) names rest
            else nothing
          | _ => nothing

/-! ## Documents -/

/-- The versions that can be read. -/
def knownVersion (major minor : List Char) : Bool :=
  major = ['1'] && (minor = ['1'] || minor = ['2'])

/-- Reads the directives of a document and the mark after them. -/
def readDirectives : Bool → Names → List Token → Option (Names × List Token)
  | versioned, names, .version major minor :: rest =>
    if versioned || !knownVersion major minor then none else readDirectives true names rest
  | versioned, names, .handle name tag :: rest =>
    readDirectives versioned { names with handles := (name, tag) :: names.handles } rest
  | _, names, .documentStart :: rest => some (names, rest)
  | _, _, _ => none

/-- A token that comes before a document or between two. -/
def isBetween : Token → Bool
  | .version .. | .handle .. | .documentStart | .documentEnd => true
  | _ => false

/-- The content of a document. -/
def readContent : Reader Node := fun names ts =>
  match ts with
  | [] => some (empty, names, [])
  | t :: _ =>
    if isBetween t then some (empty, names, ts) else readValue (ts.length + 1) .block names ts

/-- The value that the tokens of a single document show. -/
def ofTokens? (ts : List Token) : Option Node := do
  let (n, _, rest) ← match ts with
    | [] => some (empty, .start, [])
    | t :: _ =>
      if isBetween t then do
        let (names, rest) ← readDirectives false .start ts
        readContent names rest
      else readContent .start ts
  if (rest.dropWhile (· = .documentEnd)).isEmpty then return n else none

/-- The value of a text that holds a single document. -/
def parse? (s : String) : Option Node := do
  ofTokens? (← Token.ofText? s)

end Node

end CloudProvider.Yaml
