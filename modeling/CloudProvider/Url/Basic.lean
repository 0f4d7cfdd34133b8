import CloudProvider.Url.Host

/-!
# URLs

- `Url`: a URL in its parts, each of them encoded.
- `Url.text`: the URL in writing.
- `Url.parse`: the URL that a text writes, in normal form.
- `Url.extend`: the URL with more path segments.
-/

namespace CloudProvider
set_option autoImplicit false

/-- Who is asked: a name or address, perhaps with credentials in front and a port behind. -/
structure Authority where
  credentials : List Char
  host : List Char
  port : Option Nat
deriving DecidableEq

/-- The path of a URL: segments, or a text without any structure. -/
inductive UrlPath where
  | segments (list : List (List Char))
  | bare (text : List Char)
deriving DecidableEq

structure Url where
  scheme : String
  authority : Option Authority
  path : UrlPath
  query : Option (List Char)
  fragment : Option (List Char)
deriving DecidableEq

def UrlPath.chars : UrlPath → List Char
  | .segments list => list.flatMap ('/' :: ·)
  | .bare text => text

def Authority.chars (a : Authority) : List Char :=
  '/' :: '/' :: (a.credentials ++ a.host ++
    match a.port with
    | some port => ':' :: Nat.toDigits 10 port
    | none => [])

namespace Url

/-! ## Schemes -/

/-- The well-known schemes and their ports. -/
def specialSchemes : List (String × Option Nat) :=
  [("http", some 80), ("https", some 443), ("ws", some 80), ("wss", some 443),
    ("ftp", some 21), ("file", none)]

/-- The scheme is well known: its URLs have a path, and a backslash counts as a slash. -/
def isSpecial (scheme : String) : Bool :=
  (specialSchemes.lookup scheme).isSome

def defaultPort (scheme : String) : Option Nat :=
  (specialSchemes.lookup scheme).join

/-- The URL can be asked over HTTP. -/
def isHttp (u : Url) : Bool :=
  u.scheme = "http" || u.scheme = "https"

/-! ## Writing -/

/-- A part with the character in front that introduces it. -/
def introduced (c : Char) : Option (List Char) → List Char
  | some cs => c :: cs
  | none => []

def chars (u : Url) : List Char :=
  u.scheme.toList ++ ':' :: ((u.authority.map Authority.chars).getD [] ++ u.path.chars ++
    introduced '?' u.query ++ introduced '#' u.fragment)

/-- The URL in writing. -/
def text (u : Url) : String :=
  String.ofList u.chars

def pathText (u : Url) : String :=
  String.ofList u.path.chars

/-! ## Segments -/

/-- A path with one more segment. The root is the path of one empty segment. -/
def push (path : List (List Char)) (segment : List Char) : List (List Char) :=
  if path = [[]] then [segment] else path ++ [segment]

/-- The path one level up. -/
def climb (path : List (List Char)) : List (List Char) :=
  path.dropLast ++ [[]]

/-- The segment stands for the current level. -/
def isDot (segment : List Char) : Bool :=
  String.ofList (segment.map Char.toLower) ∈ [".", "%2e"]

/-- The segment stands for the level above. -/
def isDotDot (segment : List Char) : Bool :=
  String.ofList (segment.map Char.toLower) ∈ ["..", "%2e%2e", ".%2e", "%2e."]

/-- The characters that do not count anywhere in a URL. -/
def isDropped (c : Char) : Bool :=
  c = '\t' || c = '\n' || c = '\r'

/-- A path with one more segment, which is encoded. A dot or two dots alone are left out; so
written with characters that do not count they stand for this level or the level above. -/
def addSegment (special : Bool) (path : List (List Char)) (segment : String) : List (List Char) :=
  if segment = "." || segment = ".." then path
  else
    let cs := segment.toList.filter (!isDropped ·)
    if cs = ['.'] then push path []
    else if cs = ['.', '.'] then climb path
    else push path (encode (inSegment special) cs)

/-- The URL with more path segments. -/
def extend (u : Url) (segments : List String) : Url :=
  match u.path with
  | .segments list =>
    { u with path := .segments (segments.foldl (addSegment (isSpecial u.scheme)) list) }
  | .bare _ => u

/-! ## Reading -/

/-- Text up to the first character of a kind, and the rest. -/
def upTo (stop : Char → Bool) (cs : List Char) : List Char × List Char :=
  cs.span (!stop ·)

/-- The scheme in lower case, and what follows its colon. -/
def splitScheme? (cs : List Char) : Option (String × List Char) :=
  let (name, rest) := upTo (· == ':') cs
  match name, rest with
  | c :: _, _ :: rest =>
    if c.isAlpha && name.all fun c => c.isAlphanum || ['+', '-', '.'].contains c then
      some (String.ofList (name.map Char.toLower), rest)
    else none
  | _, _ => none

/-- The authority ends at a slash, the query or the fragment. -/
def endsAuthority (special : Bool) (c : Char) : Bool :=
  c = '/' || c = '?' || c = '#' || (special && c = '\\')

/-- What stands before and behind the last `@`. -/
def splitCredentials (cs : List Char) : Option (List Char) × List Char :=
  match cs.reverse.span (· != '@') with
  | (host, _ :: before) => (some before.reverse, host.reverse)
  | (_, []) => (none, cs)

/-- A name and a password, encoded, with `@` behind them unless both are empty. -/
def credentials (cs : List Char) : List Char :=
  let (name, rest) := upTo (· == ':') cs
  let password := encode inUserinfo (rest.drop 1)
  let written := encode inUserinfo name ++ if password.isEmpty then [] else ':' :: password
  if written.isEmpty then [] else written ++ ['@']

/-- The host, up to a colon outside brackets, and what follows it. -/
def splitHost (inBrackets : Bool) : List Char → List Char × List Char
  | [] => ([], [])
  | c :: rest =>
    if c = ':' && !inBrackets then ([], c :: rest)
    else
      let inside := if c = '[' then true else if c = ']' then false else inBrackets
      let (host, more) := splitHost inside rest
      (c :: host, more)

/-- A port, unless it is the usual one. -/
def parsePort (scheme : String) (cs : List Char) : Except ParseError (Option Nat) :=
  match cs with
  | [] => .ok none
  | _ :: [] => .ok none
  | _ :: digits =>
    match Text.readNat? digits with
    | some n =>
      if 65535 < n then .error .port
      else .ok (if defaultPort scheme = some n then none else some n)
    | none => .error .port

/-- An authority. `more` tells whether anything follows it. -/
def parseAuthority (scheme : String) (cs : List Char) (more : Bool) : Except ParseError Authority := do
  let (before, place) := splitCredentials cs
  if before = some [] && place.isEmpty && more then throw .emptyHost
  let written := (before.map credentials).getD []
  let (host, portText) := splitHost false place
  let special := isSpecial scheme
  if host.isEmpty && (special || !written.isEmpty || !portText.isEmpty) then throw .emptyHost
  let host ← if special then parseHost host else parseOtherHost host
  return ⟨written, host, ← parsePort scheme portText⟩

/-- Resolves dots while segments are added. -/
def resolve (path : List (List Char)) : List (List Char) → List (List Char)
  | [] => path
  | segment :: rest =>
    let level :=
      if isDotDot segment then if rest.isEmpty then climb path else path.dropLast
      else if isDot segment then if rest.isEmpty then path ++ [[]] else path
      else path ++ [encode inPath segment]
    resolve level rest

/-- The pieces between slashes. -/
def splitPath (special : Bool) (cs : List Char) : List (List Char) :=
  (cs.map fun c => if special && c = '\\' then '/' else c).splitOn '/'

/-- The path of a URL with or without a host. -/
def parsePath (special : Bool) (cs : List Char) : List (List Char) :=
  match splitPath special cs with
  | [[]] => if special then [[]] else []
  | [] :: rest => resolve [] rest
  | pieces => resolve [] pieces

/-- The path of a local file does not start with empty segments. -/
def withoutEmptyStart : List (List Char) → List (List Char)
  | [] :: segment :: rest => withoutEmptyStart (segment :: rest)
  | path => path

/-- Splits off the query and the fragment. -/
def splitTail (special : Bool) (cs : List Char) :
    List Char × Option (List Char) × Option (List Char) :=
  let (front, fragment) := upTo (· == '#') cs
  let (path, query) := upTo (· == '?') front
  let part (set : Char → Bool) : List Char → Option (List Char)
    | [] => none
    | _ :: rest => some (encode set rest)
  (path, part (inQuery special) query, part inFragment fragment)

/-- A URL whose scheme is followed by a host. -/
def parseHosted (scheme : String) (cs : List Char) : Except ParseError Url := do
  let special := isSpecial scheme
  let (authority, rest) := upTo (endsAuthority special) cs
  let authority ← parseAuthority scheme authority (!rest.isEmpty)
  let (path, query, fragment) := splitTail special rest
  return ⟨scheme, some authority, .segments (parsePath special path), query, fragment⟩

/-- The host of a local file. -/
def parseFileHost (cs : List Char) : Except ParseError (List Char) := do
  if cs.isEmpty then return []
  let host ← parseHost cs
  return if host = "localhost".toList then [] else host

/-- The URL of a local file. -/
def parseFile (cs : List Char) : Except ParseError Url := do
  let isSlash (c : Char) : Bool := c = '/' || c = '\\'
  let (host, rest) := match cs with
    | a :: b :: rest => if isSlash a && isSlash b then upTo (endsAuthority true) rest else ([], cs)
    | _ => ([], cs)
  let host ← parseFileHost host
  let (path, query, fragment) := splitTail true rest
  let segments := withoutEmptyStart (parsePath true path)
  return ⟨"file", some ⟨[], host, none⟩, .segments segments, query, fragment⟩

/-- A URL of a scheme that is not well known. -/
def parseOther (scheme : String) (cs : List Char) : Except ParseError Url :=
  match cs with
  | '/' :: '/' :: rest => parseHosted scheme rest
  | _ =>
    let (path, query, fragment) := splitTail false cs
    match path with
    | '/' :: _ => .ok ⟨scheme, none, .segments (parsePath false path), query, fragment⟩
    | _ => .ok ⟨scheme, none, .bare (encode isControl path), query, fragment⟩

/-- The characters that count: those between control characters and blanks at the ends. -/
def significant (text : String) : List Char :=
  let isEdge (c : Char) : Bool := c.toNat ≤ 32
  ((text.toList.dropWhile isEdge).reverse.dropWhile isEdge).reverse.filter (!isDropped ·)

def parse (text : String) : Except ParseError Url :=
  match splitScheme? (significant text) with
  | none => .error .relative
  | some (scheme, rest) =>
    if scheme = "file" then parseFile rest
    else if isSpecial scheme then
      parseHosted scheme (rest.dropWhile fun c => c = '/' || c = '\\')
    else parseOther scheme rest

/-! ## The base of an API -/

/-- A path without the empty segments at its end, except that the root has one. -/
def withoutEmptyEnd (special : Bool) (path : List (List Char)) : List (List Char) :=
  let kept := (path.reverse.dropWhile List.isEmpty).reverse
  if kept.isEmpty && special then [[]] else kept

/-- The URL without slashes at the end of its path. -/
def trimmed (u : Url) : Url :=
  match u.path with
  | .segments list => { u with path := .segments (withoutEmptyEnd (isSpecial u.scheme) list) }
  | .bare _ => u

/-- The URL has a path that segments can be added to. -/
def canExtend (u : Url) : Bool :=
  match u.path with
  | .segments _ => true
  | .bare _ => false

end Url

end CloudProvider
