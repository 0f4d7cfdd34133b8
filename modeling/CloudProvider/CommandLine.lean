import CloudProvider.Host.Server

/-!
# The command line

- `Invocation`: what the arguments ask for.
- `Invocation.parse`: the invocation that arguments write.
- `Exit`: the texts that are written, and the exit code.
- `Invocation.run`: what is written for an invocation.
-/

namespace CloudProvider
set_option autoImplicit false

/-! ## Arguments -/

/-- What the arguments ask for. -/
inductive Invocation where
  /-- Answers the host on standard input and output. -/
  | serve
  /-- Prints schemas, as JSON alone or with a list of the types, of all types or of one. -/
  | schema (json : Bool) (type : Option String)
  | version
  | help (text : String)
  /-- The arguments cannot be understood. -/
  | misuse
deriving DecidableEq

namespace Invocation

def mainHelp : String :=
  "Cloud infrastructure provider plugin for the fleetform host\n\n" ++
  "Usage: fleetform <COMMAND>\n\n" ++
  "Commands:\n" ++
  "  serve    Speak the plugin protocol on stdin/stdout (started by the host)\n" ++
  "  schema   Print the provider and resource schemas\n" ++
  "  version  Show version information\n" ++
  "  help     Print this message or the help of the given subcommand(s)\n\n" ++
  "Options:\n" ++
  "  -h, --help  Print help\n"

def serveHelp : String :=
  "Speak the plugin protocol on stdin/stdout (started by the host)\n\n" ++
  "Usage: fleetform serve\n\n" ++
  "Options:\n" ++
  "  -h, --help  Print help\n"

def schemaHelp : String :=
  "Print the provider and resource schemas\n\n" ++
  "Usage: fleetform schema [OPTIONS]\n\n" ++
  "Options:\n" ++
  "      --json              Only print the JSON document\n" ++
  "  -t, --type <TYPE_NAME>  Limit output to one resource type\n" ++
  "  -h, --help              Print help\n"

def versionHelp : String :=
  "Show version information\n\n" ++
  "Usage: fleetform version\n\n" ++
  "Options:\n" ++
  "  -h, --help  Print help\n"

def helpFlags : List String := ["-h", "--help"]

/-- The arguments of a command that has no options. -/
def parsePlain (command : Invocation) (helpText : String) : List String → Invocation
  | [] => command
  | ["--"] => command
  | arg :: _ => if helpFlags.contains arg then help helpText else misuse

/-- The text after the name of an option. -/
def valueAfter? (option arg : String) : Option String :=
  let name := option.toList
  if name.isPrefixOf arg.toList then some (String.ofList (arg.toList.drop name.length)) else none

/-- The type that is written together with its option. -/
def attachedType? (arg : String) : Option String :=
  valueAfter? "--type=" arg <|> valueAfter? "-t=" arg <|>
    (valueAfter? "-t" arg).filter (· ≠ "")

/-- An argument that can be the value of an option. -/
def isValue (arg : String) : Bool :=
  arg = "-" || !arg.startsWith "-"

/-- The arguments of the command for schemas, after those that say `json` and `type`. Each option is
given once at most. -/
def parseSchema (json : Bool) (type : Option String) : List String → Invocation
  | [] => schema json type
  | ["--"] => schema json type
  | arg :: rest =>
    if helpFlags.contains arg then help schemaHelp
    else if arg = "--json" then if json then misuse else parseSchema true type rest
    else if type.isSome then misuse
    else if arg = "-t" || arg = "--type" then
      match rest with
      | value :: rest => if isValue value then parseSchema json (some value) rest else misuse
      | [] => misuse
    else
      match attachedType? arg with
      | some value => parseSchema json (some value) rest
      | none => misuse

def parseHelp : List String → Invocation
  | [] => help mainHelp
  | ["serve"] => help serveHelp
  | ["schema"] => help schemaHelp
  | ["version"] => help versionHelp
  | ["help"] => help mainHelp
  | _ => misuse

/-- The invocation that arguments write. -/
def parse : List String → Invocation
  | [] => misuse
  | command :: args =>
    match command with
    | "serve" => parsePlain serve serveHelp args
    | "schema" => parseSchema false none args
    | "version" => parsePlain version versionHelp args
    | "help" => parseHelp args
    | other => if helpFlags.contains other then help mainHelp else misuse

end Invocation

/-! ## Output -/

/-- The texts that are written, and the exit code. -/
structure Exit where
  code : Nat
  stdout : String
  stderr : String
deriving DecidableEq

namespace Exit

def success (stdout : String) : Exit := ⟨0, stdout, ""⟩

def failure (text : String) : Exit := ⟨1, "", s!"Error: {text}\n"⟩

def misuse : Exit := ⟨2, "", "error: invalid arguments\n"⟩

end Exit

/-- A list of the types of resources, before their schemas. -/
def typeList : String :=
  s!"Provider: {Provider.name}\nResources:\n" ++
    String.join (ResourceType.all.map fun t => s!"  {t.name}\n") ++ "\n"

def schemaText (type : Option String) : Except String Json :=
  match type with
  | none => .ok schemaDocument
  | some name =>
    match ResourceType.ofName? name with
    | some t => .ok t.schemaDocument
    | none =>
      let available := String.intercalate ", " (ResourceType.all.map ResourceType.name)
      .error s!"unknown resource type {name} (available: {available})"

/-- What is written for an invocation whose standard input is known. -/
def Invocation.run (env : Environment) (i : Invocation) (stdin : String) (w : World) :
    Exit × World :=
  match i with
  | serve =>
    let (lines, w) := Server.serve env stdin w
    (.success (String.join (lines.map (· ++ "\n"))), w)
  | schema json type =>
    match schemaText type with
    | .error text => (.failure text, w)
    | .ok document => (.success ((if json then "" else typeList) ++ document.pretty ++ "\n"), w)
  | version => (.success s!"{Provider.name} {Provider.version}\n", w)
  | help text => (.success text, w)
  | misuse => (.misuse, w)

end CloudProvider
