import CloudProvider.Json.Decode
import CloudProvider.ProviderError

/-!
# Diagnostics

What is reported to the host about a configuration or a failed operation.

- `Diagnostic`: one problem, with the dotted path of its attribute.
- `Diagnostics`: problems in the order in which they were found.
- `Diagnostics.result`: the problems as one failure, if there is an error among them.
-/

namespace CloudProvider
open Json
set_option autoImplicit false

/-- An error stops the host, a warning does not. -/
inductive Severity where
  | error
  | warning
deriving DecidableEq

def Severity.name : Severity → String
  | error => "error"
  | warning => "warning"

structure Diagnostic where
  severity : Severity
  summary : String
  detail : Option String
  path : Option String
deriving DecidableEq

/-- Problems in the order in which they were found. -/
abbrev Diagnostics := List Diagnostic

namespace Diagnostic

/-- An error about nothing in particular. -/
def error (summary : String) : Diagnostic := ⟨.error, summary, none, none⟩

def errorAt (path summary : String) : Diagnostic := ⟨.error, summary, none, some path⟩

def warningAt (path summary : String) : Diagnostic := ⟨.warning, summary, none, some path⟩

def ofFailure (e : ProviderError) : Diagnostic := error e.message

def isError (d : Diagnostic) : Bool := d.severity = .error

/-- The summary behind the path of the attribute. -/
def text (d : Diagnostic) : String :=
  match d.path with
  | some path => s!"{path}: {d.summary}"
  | none => d.summary

/-! ## As JSON -/

def toJson (d : Diagnostic) : Json :=
  .object (Json.member? "attribute" .string d.path ++ Json.member? "detail" .string d.detail ++
    [("severity", .string d.severity.name), ("summary", .string d.summary)])

def severities : List (String × Severity) :=
  [("error", .error), ("warning", .warning)]

def decoder : Decoder Diagnostic :=
  Record.decoder "struct Diagnostic" <|
    Diagnostic.mk <$> Record.required "severity" (Decode.name severities)
      <*> Record.required "summary" Decode.text
      <*> Record.optional "detail" Decode.text
      <*> Record.optional "attribute" Decode.text

end Diagnostic

namespace Diagnostics

def hasErrors (ds : Diagnostics) : Bool := ds.any (·.isError)

def toJson (ds : Diagnostics) : Json := .array (ds.map Diagnostic.toJson)

/-- The errors as one failure. -/
def result (ds : Diagnostics) : Except ProviderError Unit :=
  if ds.hasErrors then
    .error (.invalidConfig
      (String.intercalate "; " ((ds.filter (·.isError)).map (·.text))))
  else .ok ()

end Diagnostics

end CloudProvider
