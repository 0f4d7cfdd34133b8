import CloudProvider.ProviderError
import CloudProvider.Url.Basic

/-!
# Failures of API calls

- `Transport`: a request without an answer.
- `ApiError`: why a call of the API fails.
- `ApiError.retryable`: the same call may succeed later.
- `ApiError.toProviderError`: the failure as the host sees it.
-/

namespace CloudProvider
set_option autoImplicit false

/-- Why a request has no answer. -/
inductive Transport where
  /-- A header has a character that no header may have. -/
  | badHeader
  /-- The URL is not one of HTTP. -/
  | badScheme (url : Url)
  /-- No connection could be made. -/
  | unreachable (url : Url)
  /-- The connection was closed without an answer. -/
  | dropped (url : Url)
  /-- The answer did not come in time. -/
  | timedOut (url : Url)
deriving DecidableEq

namespace Transport

def message : Transport → String
  | badHeader => "builder error"
  | badScheme url => s!"builder error for url ({url.text})"
  | unreachable url | dropped url | timedOut url =>
    s!"error sending request for url ({url.text})"

/-- The request may have better luck later. -/
def retryable : Transport → Bool
  | unreachable _ | timedOut _ => true
  | badHeader | badScheme _ | dropped _ => false

end Transport

/-- Why a call of the API fails. -/
inductive ApiError where
  | notFound (path : String)
  | status (status : Nat) (code : Option String) (text : String)
  | http (failure : Transport)
  | decode (text : String)
  | url (error : Url.ParseError)
  | invalidConfig (text : String)
  /-- The delay before the next attempt is too long to be represented. -/
  | endlessDelay
deriving DecidableEq

namespace ApiError

def message : ApiError → String
  | notFound path => s!"Resource not found: {path}"
  | status n _ text => s!"API error ({n}): {text}"
  | http failure => s!"HTTP error: {failure.message}"
  | decode text => s!"Unexpected response: {text}"
  | url error => s!"Invalid URL: {error.message}"
  | invalidConfig text => s!"Invalid client configuration: {text}"
  | endlessDelay => "Delay out of range"

def isNotFound : ApiError → Bool
  | notFound _ => true
  | _ => false

/-- The status of the answer, if there was one. -/
def status? : ApiError → Option Nat
  | notFound _ => some 404
  | status n _ _ => some n
  | _ => none

def isUnauthorized (e : ApiError) : Bool :=
  e.status? = some 401 || e.status? = some 403

/-- Statuses after which the same request may succeed: among them 409, which means that another
operation holds the object. -/
def retryableStatuses : List Nat :=
  [409, 429, 500, 502, 503, 504]

/-- The same call may succeed later. -/
def retryable : ApiError → Bool
  | status n _ _ => retryableStatuses.contains n
  | http failure => failure.retryable
  | _ => false

/-- The failure as the host sees it. -/
def toProviderError (e : ApiError) : ProviderError :=
  if e.isUnauthorized then .authenticationFailed e.message
  else
    match e with
    | notFound path => .notFound path
    | invalidConfig text => .invalidConfig text
    | e => .api e.message e.retryable

end ApiError

end CloudProvider
