import CloudProvider.Http.World
import CloudProvider.Json.Printer
import CloudProvider.Json.Shape

/-!
# The API client

Requests and answers are JSON. Paths are lists of segments, so that an identity is always one
segment, whatever characters it has.

- `Client`: where the API is and how it is asked.
- `Call`: a step that may send requests and may fail.
- `Response.read`: what an answer means.
- `Client.send`: a request that is repeated while that helps.
- `Client.get`, `Client.post`, `Client.patch`, …: requests with decoded answers.
-/

namespace CloudProvider
open Json
set_option autoImplicit false

/-- Where the API is and how it is asked. -/
structure Client where
  base : Url
  token : String
  project : Option String
  retry : RetryPolicy

/-- A step that may send requests and may fail. -/
abbrev Call := ExceptT ApiError (StateM World)

/-! ## Answers -/

/-- The usual words for a status. -/
def statusWords : List (Nat × String) :=
  [ (100, "Continue"), (101, "Switching Protocols"), (102, "Processing"), (103, "Early Hints"),
    (200, "OK"), (201, "Created"), (202, "Accepted"), (203, "Non Authoritative Information"),
    (204, "No Content"), (205, "Reset Content"), (206, "Partial Content"), (207, "Multi-Status"),
    (208, "Already Reported"), (226, "IM Used"), (300, "Multiple Choices"),
    (301, "Moved Permanently"), (302, "Found"), (303, "See Other"), (304, "Not Modified"),
    (305, "Use Proxy"), (307, "Temporary Redirect"), (308, "Permanent Redirect"),
    (400, "Bad Request"), (401, "Unauthorized"), (402, "Payment Required"), (403, "Forbidden"),
    (404, "Not Found"), (405, "Method Not Allowed"), (406, "Not Acceptable"),
    (407, "Proxy Authentication Required"), (408, "Request Timeout"), (409, "Conflict"),
    (410, "Gone"), (411, "Length Required"), (412, "Precondition Failed"),
    (413, "Payload Too Large"), (414, "URI Too Long"), (415, "Unsupported Media Type"),
    (416, "Range Not Satisfiable"), (417, "Expectation Failed"), (418, "I'm a teapot"),
    (421, "Misdirected Request"), (422, "Unprocessable Entity"), (423, "Locked"),
    (424, "Failed Dependency"), (425, "Too Early"), (426, "Upgrade Required"),
    (428, "Precondition Required"), (429, "Too Many Requests"),
    (431, "Request Header Fields Too Large"), (451, "Unavailable For Legal Reasons"),
    (500, "Internal Server Error"), (501, "Not Implemented"), (502, "Bad Gateway"),
    (503, "Service Unavailable"), (504, "Gateway Timeout"), (505, "HTTP Version Not Supported"),
    (506, "Variant Also Negotiates"), (507, "Insufficient Storage"), (508, "Loop Detected"),
    (510, "Not Extended"), (511, "Network Authentication Required") ]

/-- The form in which the API reports an error. -/
def errorShape : Shape :=
  .record "struct ErrorEnvelope"
    [("error", true, .record "struct ErrorBody"
      [("code", false, .optionalText), ("message", true, .text)])]

/-- The code and the message of an answer that is no success. -/
def reportedError (r : Response) : Option String × String :=
  match parseShape errorShape r.text with
  | .ok report =>
    let body := (report.asObject?.bind (·.get? "error")).bind Json.asObject?
    let member (key : String) := (body.bind (·.get? key)).bind Json.asString?
    (member "code", (member "message").getD "")
  | .error _ =>
    if Text.isBlankText r.text then (none, (statusWords.lookup r.status).getD "unknown error")
    else (none, r.text)

/-- What an answer means. A blank one stands for null. -/
def Response.read (r : Response) (url : Url) : Except ApiError Json :=
  if r.status = 404 then .error (.notFound url.pathText)
  else if r.status < 200 || 300 ≤ r.status then
    let (code, text) := reportedError r
    .error (.status r.status code text)
  else if Text.isBlankText r.text then .ok .null
  else
    match parse r.text with
    | .ok v => .ok v
    | .error e => .error (.decode s!"{url.pathText}: {e.message}")

namespace Client

/-! ## Construction -/

def defaultUrl : String := "https://api.fleetform.cloud/v1"

/-- A client of the API at a place. Slashes at the end of its path do not count. -/
def new (apiUrl token : String) (project : Option String) (retry : RetryPolicy) :
    Except ApiError Client :=
  if Text.isBlankText token then .error (.invalidConfig "API token is empty")
  else
    match Url.parse apiUrl with
    | .error e => .error (.url e)
    | .ok base =>
      if base.canExtend then .ok ⟨base.trimmed, token, project, retry⟩
      else .error (.invalidConfig s!"{apiUrl} cannot be used as an API base URL")

/-- The place of an object of the API. -/
def url (c : Client) (segments : List String) : Url :=
  c.base.extend segments

/-! ## Requests -/

def isHeaderChar (char : Char) : Bool :=
  char = '\t' || (32 ≤ char.toNat && char.toNat ≠ 127)

def headers (c : Client) (body : Option Json) : List (String × String) :=
  [("authorization", s!"Bearer {c.token}")] ++
    (if body.isSome then [("content-type", "application/json")] else []) ++
    [("user-agent", "fleetform/0.3.0")] ++
    (match c.project with
      | some project => [("x-project-id", project)]
      | none => [])

/-- The request for a method and a path, if its headers and its URL allow one. -/
def request (c : Client) (method : Method) (segments : List String) (body : Option Json) :
    Except Transport Request :=
  let url := c.url segments
  let headers := c.headers body
  if headers.any fun header => !header.2.toList.all isHeaderChar then .error .badHeader
  else if url.isHttp then .ok ⟨method, url, headers, body⟩
  else .error (.badScheme url)

/-- The value of a header, which has no blanks around it. -/
def headerValue (text : String) : String :=
  let isBlank (char : Char) : Bool := char = ' ' || char = '\t'
  String.ofList ((text.toList.dropWhile isBlank).reverse.dropWhile isBlank).reverse

/-- The pause that an answer asks for, in seconds. -/
def requestedPause (r : Response) : Option Duration := do
  return .ofSeconds (← Text.readBounded? UInt64.size (headerValue (← r.retryAfter)))

/-- One attempt: its outcome and the pause that was asked for. -/
def attempt (r : Except Transport Request) (w : World) :
    (Except ApiError Json × Option Duration) × World :=
  match r with
  | .error failure => ((.error (.http failure), none), w)
  | .ok r =>
    match w.exchange r with
    | (.error failure, w) => ((.error (.http failure), none), w)
    | (.ok response, w) => ((response.read r.url, requestedPause response), w)

/-- The request may be repeated. What is not idempotent is repeated only if the server did not act
on it. -/
def shouldRetry (method : Method) (e : ApiError) : Bool :=
  e.retryable && (method ≠ .post || e.status? = some 429 || e.status? = some 503)

/-- The pause before the next attempt: the one asked for, but not above the longest delay, or else
the delay of the policy. -/
def pause? (p : RetryPolicy) (requested : Option Duration) (attempt : Nat) : Option Duration :=
  match requested with
  | some d => some (d.min p.maxDelay)
  | none => p.delay? attempt

/-- Attempts a request, after `done` attempts that failed and with `left` that may follow. -/
def sendFrom (c : Client) (method : Method) (r : Except Transport Request) (done : Nat) :
    Nat → World → Except ApiError Json × World
  | left, w =>
    match attempt r w with
    | ((.ok v, _), w) => (.ok v, w)
    | ((.error e, requested), w) =>
      match left with
      | 0 => (.error e, w)
      | left + 1 =>
        if !shouldRetry method e then (.error e, w)
        else
          match pause? c.retry requested done with
          | none => (.error .endlessDelay, w)
          | some d => c.sendFrom method r (done + 1) left (w.sleep d)

/-- Sends a request, repeats it while that helps, and reads the answer. -/
def send (c : Client) (method : Method) (segments : List String) (body : Option Json) : Call Json :=
  fun w => c.sendFrom method (c.request method segments body) 0 (c.retry.maxAttempts - 1) w

/-! ## Decoded answers -/

variable {α : Type}

/-- A value of the API in its type. -/
def decoded (decode : Decoder α) (v : Json) : Call α :=
  match decode v with
  | .ok a => return a
  | .error m => throw (.decode m.message)

def get (c : Client) (decode : Decoder α) (segments : List String) : Call α := do
  decoded decode (← c.send .get segments none)

/-- A missing object is no failure. -/
def getOptional (c : Client) (decode : Decoder α) (segments : List String) : Call (Option α) :=
  tryCatch (some <$> c.get decode segments) fun e => if e.isNotFound then return none else throw e

def post (c : Client) (decode : Decoder α) (segments : List String) (body : Json) : Call α := do
  decoded decode (← c.send .post segments (some body))

def put (c : Client) (decode : Decoder α) (segments : List String) (body : Json) : Call α := do
  decoded decode (← c.send .put segments (some body))

def patch (c : Client) (decode : Decoder α) (segments : List String) (body : Json) : Call α := do
  decoded decode (← c.send .patch segments (some body))

/-- A missing object counts as deleted. -/
def delete (c : Client) (segments : List String) : Call Unit :=
  tryCatch (do let _ ← c.send .delete segments none) fun e =>
    if e.isNotFound then return () else throw e

end Client

end CloudProvider
