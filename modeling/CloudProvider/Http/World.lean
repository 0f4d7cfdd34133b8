import CloudProvider.Backoff
import CloudProvider.Http.Error
import CloudProvider.Json.Basic

/-!
# The world outside

What a client talks to: a network that answers its requests, a clock that its pauses move, and the
list of the requests that went out.

- `Request`, `Response`: what is sent and what comes back.
- `Reply`: what the network does with one request.
- `World.exchange`: sends one request.
- `World.sleep`: lets time pass.
-/

namespace CloudProvider
set_option autoImplicit false

inductive Method where
  | get
  | post
  | put
  | patch
  | delete
deriving DecidableEq

def Method.name : Method → String
  | get => "GET"
  | post => "POST"
  | put => "PUT"
  | patch => "PATCH"
  | delete => "DELETE"

structure Request where
  method : Method
  url : Url
  headers : List (String × String)
  body : Option Json

structure Response where
  status : Nat
  text : String
  retryAfter : Option String
deriving DecidableEq

/-- The status 204 says that there is no text. -/
def Response.withoutBody (r : Response) : Response :=
  if r.status = 204 then { r with text := "" } else r

/-- What the network does with one request. -/
inductive Reply where
  | answer (response : Response)
  | drop
  | hang
deriving DecidableEq

/-- Where requests go. Each reply comes with the number of requests that get it, zero meaning all
that are left. -/
structure Network where
  reachable : Bool
  replies : List (Reply × Nat)
deriving DecidableEq

/-- The network, the clock in milliseconds and the requests that went out. -/
structure World where
  network : Network
  clock : Nat
  log : List Request

namespace World

/-- A request waits for its answer no longer than this. -/
def requestTimeout : Duration := .ofSeconds 60

/-- What is answered once no replies are left. -/
def lastReply : Reply := .answer ⟨404, "", none⟩

/-- The reply that comes next, and those after it. -/
def nextReply : List (Reply × Nat) → Reply × List (Reply × Nat)
  | [] => (lastReply, [])
  | (reply, 0) :: rest => (reply, (reply, 0) :: rest)
  | (reply, 1) :: rest => (reply, rest)
  | (reply, n + 2) :: rest => (reply, (reply, n + 1) :: rest)

/-- The number of replies before the last one repeats. -/
def replyCount (w : World) : Nat :=
  w.network.replies.foldr (·.2 + ·) 0

/-- The clock in nanoseconds. -/
def nanos (w : World) : Nat :=
  w.clock * 1000000

/-- Lets time pass. The clock shows whole milliseconds, and a pause is never cut short. -/
def sleep (d : Duration) (w : World) : World :=
  { w with clock := w.clock + d.millisCeil }

/-- Sends one request. Where nothing is reachable it does not go out. -/
def exchange (r : Request) (w : World) : Except Transport Response × World :=
  if !w.network.reachable then (.error (.unreachable r.url), w)
  else
    let (reply, replies) := nextReply w.network.replies
    let w := { w with network := { w.network with replies := replies }, log := w.log ++ [r] }
    match reply with
    | .answer response => (.ok response.withoutBody, w)
    | .drop => (.error (.dropped r.url), w)
    | .hang => (.error (.timedOut r.url), w.sleep requestTimeout)

end World

end CloudProvider
