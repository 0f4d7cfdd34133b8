import CloudProvider.Json.Basic
import CloudProvider.Yaml.Node

/-!
# Profiles

A profile says how the API is reached. A credentials file holds profiles by name.

- `Profile`: the values of one profile, each of which may be missing.
- `Profile.orElse`: the values of one profile before those of another.
- `CredentialsFile.parse?`: the profiles of a file.
-/

namespace CloudProvider
open Yaml (Node)
set_option autoImplicit false

/-- How the API is reached, as far as it is said. -/
structure Profile where
  token : Option String
  apiUrl : Option String
  projectId : Option String
  region : Option String
deriving DecidableEq

namespace Profile

def empty : Profile := ⟨none, none, none, none⟩

/-- The values of `p`, and those of `q` where `p` has none. -/
def orElse (p q : Profile) : Profile where
  token := p.token <|> q.token
  apiUrl := p.apiUrl <|> q.apiUrl
  projectId := p.projectId <|> q.projectId
  region := p.region <|> q.region

def toJson (p : Profile) : Json :=
  .object (Json.member? "api_url" .string p.apiUrl ++
    Json.member? "project_id" .string p.projectId ++ Json.member? "region" .string p.region ++
    Json.member? "token" .string p.token)

end Profile

/-! ## Reading YAML -/

namespace Yaml.Node

/-- A scalar as text, whatever it looks like. -/
def text? : Node → Option String
  | scalar text _ _ => some text
  | _ => none

def nullWords : List String := ["null", "Null", "NULL", "~"]

def nullTag : String := "tag:yaml.org,2002:null"

/-- A scalar as text that may be missing. Only a plain scalar stands for no value. -/
def optionalText? : Node → Option (Option String)
  | scalar text true none =>
    if text = "" || nullWords.contains text then some none else some (some text)
  | scalar text true (some tag) =>
    if tag ≠ nullTag then some (some text)
    else if nullWords.contains text then some none
    else none
  | scalar text false _ => some (some text)
  | _ => none

/-- The entries of a mapping by the texts of their keys. Where nothing is written, there are
none. -/
def entries? : Node → Option (List (String × Node))
  | mapping entries => entries.mapM fun entry => (·, entry.2) <$> entry.1.text?
  | scalar "" true _ => some []
  | _ => none

/-- The entries of a record by the texts of their keys. None of the fields is written twice. -/
def fields? (names : List String) (n : Node) : Option (List (String × Node)) := do
  let entries ← n.entries?
  if names.all fun name => (entries.filter (·.1 = name)).length ≤ 1 then return entries else none

end Yaml.Node

namespace Profile

/-- A profile of a file. Further entries do not count. -/
def ofNode? (n : Node) : Option Profile := do
  let fields ← n.fields? ["token", "api_url", "project_id", "region"]
  let field (name : String) : Option (Option String) :=
    match fields.lookup name with
    | some v => v.optionalText?
    | none => some none
  return ⟨← field "token", ← field "api_url", ← field "project_id", ← field "region"⟩

end Profile

/-- Profiles by name. -/
abbrev CredentialsFile := Keyed Profile

namespace CredentialsFile

/-- The profiles of a document. Of two with one name the later counts. -/
def ofNode? (n : Node) : Option CredentialsFile := do
  let fields ← n.fields? ["profiles"]
  match fields.lookup "profiles" with
  | none => return []
  | some profiles =>
    let entries ← profiles.entries?
    Keyed.ofList <$> entries.mapM fun entry => (entry.1, ·) <$> Profile.ofNode? entry.2

def parse? (s : String) : Option CredentialsFile := do
  ofNode? (← Node.parse? s)

def toJson (file : CredentialsFile) : Json :=
  .object [("profiles", .object (Keyed.mapValues Profile.toJson file))]

end CredentialsFile

end CloudProvider
