import CloudProvider.Environment
import CloudProvider.Profile
import CloudProvider.Text.Blank

/-!
# Settings

How the API is reached, put together from three sources: the configuration of the provider, then
the environment, then a profile of the credentials file.

- `SettingsError`: why there are no settings.
- `CredentialsFile.load`: the credentials file of an environment.
- `Settings.resolve`: the settings.
-/

namespace CloudProvider
set_option autoImplicit false

/-- Why there are no settings. -/
inductive SettingsError where
  | noConfigDir
  | missingToken
  | profileNotFound (profile path : String)
  | badFile (path complaint : String)
  | unreadable (reason : String)
deriving DecidableEq

namespace SettingsError

def message : SettingsError → String
  | noConfigDir => "Configuration directory not found"
  | missingToken =>
    "No API token configured. Set one of:\n" ++
    "- \x60token\x60 in the provider block\n" ++
    "- the FLEETFORM_TOKEN environment variable\n" ++
    "- a profile in the credentials file " ++
    "(FLEETFORM_CONFIG_PATH or ~/.config/fleetform/credentials.yaml)"
  | profileNotFound profile path => "Profile '" ++ profile ++ "' not found in " ++ path
  | badFile path complaint => s!"Failed to parse {path}: {complaint}"
  | unreadable reason => s!"IO error: {reason}"

end SettingsError

/-! ## The credentials file -/

/-- The credentials file of an environment, if there is one. -/
def CredentialsFile.load (env : Environment) (path : String) :
    Except SettingsError (Option CredentialsFile) :=
  match env.file path with
  | .missing => .ok none
  | .unreadable reason => .error (.unreadable reason)
  | .content bytes complaint =>
    match Text.decodeUtf8? bytes with
    | none => .error (.unreadable "stream did not contain valid UTF-8")
    | some text =>
      match parse? (String.ofList text) with
      | some file => .ok (some file)
      | none => .error (.badFile path complaint)

/-! ## Putting sources together -/

/-- How the API is reached. -/
structure Settings where
  token : String
  apiUrl : Option String
  projectId : Option String
  region : Option String
  profile : String
deriving DecidableEq

namespace Settings

/-- The values in the variables of an environment. -/
def fromVariables (env : Environment) : Profile where
  token := env.value? "FLEETFORM_TOKEN"
  apiUrl := env.value? "FLEETFORM_API_URL"
  projectId := env.value? "FLEETFORM_PROJECT_ID"
  region := env.value? "FLEETFORM_REGION"

/-- The profile that is asked for by name. -/
def requestedProfile? (env : Environment) (profile : Option String) : Option String :=
  profile <|> env.value? "FLEETFORM_PROFILE"

def defaultProfile : String := "default"

/-- The profile of the credentials file. One that is asked for has to be there. -/
def fromFile (env : Environment) (requested : Option String) : Except SettingsError Profile := do
  match env.credentialsPath? with
  | none => throw .noConfigDir
  | some path =>
    let file ← CredentialsFile.load env path
    match file.bind fun file => Keyed.get? (requested.getD defaultProfile) file with
    | some profile => return profile
    | none =>
      match requested with
      | some name => throw (.profileNotFound name path)
      | none => return .empty

/-- The settings under the values of a configuration, which may name a profile. -/
def resolve (env : Environment) (explicit : Profile) (profile : Option String) :
    Except SettingsError Settings := do
  let requested := requestedProfile? env profile
  let inFile ← fromFile env requested
  let merged := (explicit.orElse (fromVariables env)).orElse inFile
  match merged.token.filter (!Text.isBlankText ·) with
  | some token =>
    return ⟨token, merged.apiUrl, merged.projectId, merged.region,
      requested.getD defaultProfile⟩
  | none => throw .missingToken

end Settings

end CloudProvider
