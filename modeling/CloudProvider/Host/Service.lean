import CloudProvider.Host.Command

/-!
# Services

A service answers the requests of a host, one a line, until the host stops it.

- `Service`: what a service does with one request.
- `Service.handshake`: the line that is written first.
- `Service.answer`, `Service.answers`: the answer to a line, and to lines one after another.
- `Service.serve`: all lines that are written for a text of requests.
-/

namespace CloudProvider
set_option autoImplicit false

/-- What a service does with one request, and when it is over. -/
structure Service (σ : Type) where
  name : String
  handle : Query → σ → Answer × σ
  stopped : σ → Bool

namespace Service

/-! ## Lines of a text -/

def withoutReturn (line : List Char) : List Char :=
  if line.getLast? = some '\r' then line.dropLast else line

/-- The lines of a text. What comes after the last line feed is a line unless it is empty. -/
def lines (text : String) : List String :=
  let parts := text.toList.splitOn '\n'
  let last := parts.getLast?.getD []
  (parts.dropLast.map withoutReturn ++ (if last.isEmpty then [] else [last])).map String.ofList

/-! ## Answers -/

/-- What is wrong with a line that is no request. -/
def malformed (fault : String) : String := s!"malformed request: {fault}"

variable {σ : Type} (v : Service σ)

/-- The first line that is written: the protocol, its version and the name of the service. -/
def handshake : String := s!"FLEETFORM_PLUGIN|1|{v.name}"

/-- The answer to a line. One that is no request changes nothing. -/
def answer (line : String) (s : σ) : Answer × σ :=
  match Query.parse line with
  | .error fault => (⟨0, .error (malformed fault)⟩, s)
  | .ok q => v.handle q s

/-- The answers to lines, up to the one that stops the service. Blank lines get none. -/
def answers : List String → σ → List Answer × σ
  | [], s => ([], s)
  | line :: rest, s =>
    if Text.isBlankText line then answers rest s
    else
      let (a, s) := v.answer line s
      if v.stopped s then ([a], s)
      else
        let (more, s) := answers rest s
        (a :: more, s)

/-- All lines that are written for a text of requests. -/
def serve (input : String) (s : σ) : List String × σ :=
  let (as, s) := v.answers (lines input) s
  (v.handshake :: as.map Answer.line, s)

end Service

end CloudProvider
