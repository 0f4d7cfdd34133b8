/-!
# Failures

- `ProviderError`: why a request of the host cannot be carried out.
- `ProviderError.message`: its text.
- `ProviderError.retryable`: the same step may succeed later.
-/

namespace CloudProvider
set_option autoImplicit false

/-- Why a request of the host cannot be carried out. -/
inductive ProviderError where
  | invalidConfig (text : String)
  | notConfigured
  | unknownResource (type : String)
  | missingId (name : String)
  | notFound (what : String)
  | timeout (resource target lastState : String)
  | unexpectedState (resource state expected : String)
  | api (text : String) (retryable : Bool)
  | authenticationFailed (text : String)
  | protocol (text : String)
  | io (text : String)
  | json (text : String)
deriving DecidableEq

namespace ProviderError

def message : ProviderError → String
  | invalidConfig text => s!"Invalid configuration: {text}"
  | notConfigured => "Provider is not configured; call configure first"
  | unknownResource type => s!"Unknown resource type: {type}"
  | missingId name => s!"Resource has no id: {name}"
  | notFound what => s!"Resource not found: {what}"
  | timeout resource target lastState =>
    s!"Timeout waiting for {resource} to reach {target} (last state: {lastState})"
  | unexpectedState resource state expected =>
    s!"{resource} entered unexpected state {state} (expected one of: {expected})"
  | api text _ => s!"API error: {text}"
  | authenticationFailed text => s!"Authentication failed: {text}"
  | protocol text => s!"Protocol error: {text}"
  | io text => s!"IO error: {text}"
  | json text => s!"JSON error: {text}"

/-- The same step may succeed later. -/
def retryable : ProviderError → Bool
  | api _ retryable => retryable
  | _ => false

end ProviderError

end CloudProvider
