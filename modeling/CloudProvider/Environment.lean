import CloudProvider.Keyed
import CloudProvider.Text.Utf8

/-!
# The environment

What a program is told by the system that it runs on: variables and files.

- `File`: what is at a path.
- `Environment`: variables, files and the home directory.
- `Environment.configDir?`: the directory of the user's configuration.
- `Environment.credentialsPath?`: where the credentials file is.
-/

namespace CloudProvider
set_option autoImplicit false

/-- What is at a path. -/
inductive File where
  | missing
  | unreadable (reason : String)
  /-- The bytes, with what a reader of YAML complains about if they are no credentials. -/
  | content (bytes : List Nat) (complaint : String)
deriving DecidableEq

/-- The values of variables, files and the home directory. -/
structure Environment where
  values : Keyed String
  /-- The home directory of the account, for when no variable names one. -/
  accountHome : Option String
  file : String → File

namespace Environment

/-- The value of a variable. An empty one counts as missing. -/
def value? (env : Environment) (name : String) : Option String :=
  (env.values.get? name).filter (· ≠ "")

def below (directory name : String) : String :=
  if directory = "" || directory.endsWith "/" then directory ++ name
  else s!"{directory}/{name}"

/-- The directory of all configurations: the one that a variable names by a full path, or else a
directory of the home directory. -/
def configHome? (env : Environment) : Option String :=
  match (env.value? "XDG_CONFIG_HOME").filter (·.startsWith "/") with
  | some directory => some directory
  | none => (env.value? "HOME" <|> env.accountHome).map (below · ".config")

/-- The directory of the user's configuration. -/
def configDir? (env : Environment) : Option String :=
  env.configHome?.map (below · "fleetform")

/-- Where the credentials file is: at the path that a variable names, or else in the directory of
the user's configuration. -/
def credentialsPath? (env : Environment) : Option String :=
  match env.value? "FLEETFORM_CONFIG_PATH" with
  | some path => some path
  | none => env.configDir?.map (below · "credentials.yaml")

end Environment

end CloudProvider
