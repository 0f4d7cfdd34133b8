import CloudProvider.Account
import CloudProvider.Resource.Basic
import CloudProvider.Settings

/-!
# The provider

What is configured once for all resources.

- `Provider.schema`: the attributes of the configuration.
- `Provider.connection`: the connection that a configuration asks for.
- `Provider.configure`: the same, with its token checked.
-/

namespace CloudProvider
set_option autoImplicit false

namespace Provider

def name : String := "fleetform"

def version : String := "0.3.0"

/-! ## The configuration -/

/-- The pause between two looks at an object, if the configuration names none. -/
def defaultPollInterval : String := "10s"

/-- How often a failed request is repeated, if the configuration does not say so. -/
def defaultRetries : Int64 := 3

def schema : Schema :=
  (Schema.new 0).withDescription "fleetform cloud provider"
    |>.withAttribute "token"
      ((Attribute.optional .string).sensitive.withDescription
        "API token. Falls back to FLEETFORM_TOKEN and the credentials file")
    |>.withAttribute "api_url"
      ((Attribute.optional .string).withDescription s!"API endpoint, default {Client.defaultUrl}")
    |>.withAttribute "project_id"
      ((Attribute.optional .string).withDescription "Project all requests are scoped to")
    |>.withAttribute "region"
      ((Attribute.optional .string).withDescription "Default region for regional resources")
    |>.withAttribute "profile"
      ((Attribute.optional .string).withDescription "Credentials file profile")
    |>.withAttribute "poll_interval"
      ((Attribute.optional .string).withDefault (.string defaultPollInterval)
        |>.validate .duration
        |>.withDescription "Delay between status checks while waiting on the API")
    |>.withAttribute "max_retries"
      ((Attribute.optional .int).withDefault (.int64 defaultRetries)
        |>.validate (.intBetween 0 10)
        |>.withDescription "Retries for transient API failures")
    |>.withAttribute "skip_credentials_validation"
      ((Attribute.optional .bool).withDefault (.bool false))

/-- The values that a configuration sets itself. -/
def explicit (config : ResourceState) : Profile where
  token := config.text? "token"
  apiUrl := config.text? "api_url"
  projectId := config.text? "project_id"
  region := config.text? "region"

/-- How requests are repeated. A number of repetitions that makes no sense counts as none. -/
def retryPolicy (config : ResourceState) : RetryPolicy :=
  let retries := (uint32OfInt64? ((config.int? "max_retries").getD defaultRetries)).getD 0
  { RetryPolicy.default with maxAttempts := retries.toNat + 1 }

/-! ## Connections -/

/-- The connection that a configuration asks for. -/
def connection (env : Environment) (config : ResourceState) :
    Except ProviderError Connection := do
  let settings ← (Settings.resolve env (explicit config) (config.text? "profile")).mapError
    fun e => .invalidConfig e.message
  let pollInterval ← Duration.parse ((config.text? "poll_interval").getD defaultPollInterval)
  let client ← (Client.new (settings.apiUrl.getD Client.defaultUrl) settings.token
    settings.projectId (retryPolicy config)).mapError ApiError.toProviderError
  return ⟨client, settings.region, pollInterval⟩

/-- The API accepts the token. -/
def checkToken (client : Client) : ExceptT ProviderError (StateM World) Unit := do
  match ← client.checkToken with
  | .accepted _ => return ()
  | .rejected reason => throw (.authenticationFailed reason)

/-- The connection that a configuration asks for, with its token checked unless the configuration
says otherwise. -/
def configure (env : Environment) (config : ResourceState) :
    ExceptT ProviderError (StateM World) Connection := do
  let conn ← (connection env config : Except ProviderError Connection)
  if !(config.bool? "skip_credentials_validation").getD false then
    checkToken conn.client
  return conn

end Provider

end CloudProvider
