import CloudProvider.Host.Outcome
import CloudProvider.Json.Shape

/-!
# Commands of the host

The host sends one request a line, and gets one answer a line.

- `Query`: a request as it is written.
- `Query.parse`: the request on a line.
- `Command`: what a request asks for.
- `Query.command`: the command of a request.
- `Answer`: the answer to a request, and how it is written.
-/

namespace CloudProvider
open Json
set_option autoImplicit false

/-! ## Requests -/

/-- A request as it is written. -/
structure Query where
  id : UInt64
  method : String
  params : Json

namespace Query

def shape : Shape :=
  .record "struct Request"
    [("id", true, .natural), ("method", true, .text), ("params", false, .any)]

def decoder : Decoder Query :=
  Record.decoder "struct Request" <|
    Query.mk <$> Record.required "id" Decode.uint64
      <*> Record.required "method" Decode.text
      <*> Record.defaulted "params" Decode.any .null

/-- The request on a line, or what is wrong with the line. -/
def parse (line : String) : Except String Query :=
  match parseShape shape line with
  | .error e => .error e.message
  | .ok v => (decoder v).mapError Mismatch.message

end Query

/-! ## Commands -/

inductive Command where
  | getSchema
  | validateProvider (config : Json)
  | configure (config : Json)
  | validateResource (type : ResourceType) (config : Json)
  | create (type : ResourceType) (planned : Json)
  | read (type : ResourceType) (current : Json)
  | update (type : ResourceType) (prior planned : Json)
  | delete (type : ResourceType) (prior : Json)
  | adopt (type : ResourceType) (id : String)
  | stop

structure ResourceParams where
  typeName : String
  config : Json
  plannedState : Json
  priorState : Json
  currentState : Json
  id : Option String

namespace ResourceParams

def decoder : Decoder ResourceParams :=
  Record.decoder "struct ResourceParams" <|
    ResourceParams.mk <$> Record.required "type_name" Decode.text
      <*> Record.defaulted "config" Decode.any .null
      <*> Record.defaulted "planned_state" Decode.any .null
      <*> Record.defaulted "prior_state" Decode.any .null
      <*> Record.defaulted "current_state" Decode.any .null
      <*> Record.optional "id" Decode.text

def type (p : ResourceParams) : Except ProviderError ResourceType :=
  match ResourceType.ofName? p.typeName with
  | some t => .ok t
  | none => .error (.unknownResource p.typeName)

def requiredId (p : ResourceParams) : Except ProviderError String :=
  match p.id with
  | some id => .ok id
  | none => .error (.protocol "import requires an id")

end ResourceParams

/-- The configuration among the parameters of commands on the provider. -/
def configDecoder : Decoder Json :=
  Record.decoder "struct ConfigParams" (Record.defaulted "config" Decode.any .null)

namespace Query

variable {α : Type}

/-- The parameters of a request in their type. -/
def decoded (q : Query) (decode : Decoder α) : Except ProviderError α :=
  (decode q.params).mapError fun m => .json m.message

def command (q : Query) : Except ProviderError Command :=
  let config := q.decoded configDecoder
  let params := q.decoded ResourceParams.decoder
  match q.method with
  | "get_schema" => .ok .getSchema
  | "validate_provider_config" => return .validateProvider (← config)
  | "configure" => return .configure (← config)
  | "validate_resource_config" => do
    let p ← params
    return .validateResource (← p.type) p.config
  | "create" => do
    let p ← params
    return .create (← p.type) p.plannedState
  | "read" => do
    let p ← params
    return .read (← p.type) p.currentState
  | "update" => do
    let p ← params
    return .update (← p.type) p.priorState p.plannedState
  | "delete" => do
    let p ← params
    return .delete (← p.type) p.priorState
  | "import" => do
    let p ← params
    let id ← p.requiredId
    return .adopt (← p.type) id
  | "stop" => .ok .stop
  | other => .error (.protocol s!"unknown method: {other}")

end Query

/-! ## Answers -/

/-- The answer to a request: a result or an error. -/
structure Answer where
  id : UInt64
  outcome : Except String Json

namespace Answer

/-- The member of an answer beside the number of the request. -/
def body (a : Answer) : String × Json :=
  match a.outcome with
  | .ok result => ("result", result)
  | .error text => ("error", .string text)

def toJson (a : Answer) : Json :=
  .object (Keyed.ofList [("id", .uint64 a.id), a.body])

/-- The answer as a line, with the number of the request first. -/
def line (a : Answer) : String :=
  (Json.object [("id", .uint64 a.id), a.body]).compact

end Answer

end CloudProvider
