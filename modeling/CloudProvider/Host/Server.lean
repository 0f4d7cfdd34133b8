import CloudProvider.Host.Service
import CloudProvider.Provider
import CloudProvider.Schema.Validate
import CloudProvider.Schema.Wire

/-!
# The server

The server answers the requests of the host one after another.

- `Server`: the connection in force, and whether the host has stopped the server.
- `schemaDocument`: all schemas.
- `Server.run`: carries out a command.
- `Server.handle`: the answer to a request.
- `Server.service`, `Server.serve`: the server on lines.
-/

namespace CloudProvider
set_option autoImplicit false

/-- The connection in force, and whether the host has stopped the server. -/
structure Server where
  connection : Option Connection
  stopped : Bool

/-! ## Schemas -/

/-- The schema of a type of resource, with the attributes that replace the resource. -/
def ResourceType.schemaDocument (t : ResourceType) : Json :=
  .object
    [("force_new", .strings t.resource.schema.forceNewNames),
      ("schema", t.resource.schema.toJson)]

def schemaDocument : Json :=
  .object
    [("provider", Provider.schema.toJson),
      ("resources", .object (ResourceType.all.map fun t => (t.name, t.schemaDocument)))]

/-- The member of an answer that reports problems. -/
def Diagnostics.report (ds : Diagnostics) : Json :=
  .object [("diagnostics", ds.toJson)]

namespace Server

def start : Server := ⟨none, false⟩

/-! ## Commands -/

/-- The error that reports a configuration that cannot be used. -/
def configurationFailed (e : ProviderError) : Diagnostic :=
  { Diagnostic.error "Provider configuration failed" with detail := some e.message }

/-- Configures the provider. What goes wrong leaves the connection in force. -/
def configure (env : Environment) (config : Json) (s : Server) (w : World) :
    Diagnostics × Server × World :=
  let problems := Provider.schema.validate config
  if problems.hasErrors then (problems, s, w)
  else
    match (ResourceState.ofJson config).prepare Provider.schema .default with
    | .error e => (problems ++ [configurationFailed e], s, w)
    | .ok values =>
      match Provider.configure env values w with
      | (.ok conn, w) => (problems, { s with connection := some conn }, w)
      | (.error e, w) => (problems ++ [configurationFailed e], s, w)

/-- Works with the connection in force. -/
def connected {α : Type} (s : Server) (work : Connection → Serving α) : Serving α :=
  match s.connection with
  | some conn => work conn
  | none => throw .notConfigured

def run (env : Environment) (c : Command) (s : Server) (w : World) :
    Except ProviderError Json × Server × World :=
  let serve {α : Type} (toJson : α → Json) (work : Connection → Serving α) :=
    let (result, w) := s.connected work w
    (toJson <$> result, s, w)
  match c with
  | .getSchema => (.ok schemaDocument, s, w)
  | .validateProvider config => (.ok (Provider.schema.validate config).report, s, w)
  | .configure config =>
    let (problems, s, w) := configure env config s w
    (.ok problems.report, s, w)
  | .validateResource t config => (.ok (t.resource.schema.validate config).report, s, w)
  | .create t planned => serve Outcome.toJson (t.resource.created · planned)
  | .read t current => serve Outcome.toJson (t.resource.refreshed · current)
  | .update t prior planned => serve Outcome.toJson (t.resource.updated · prior planned)
  | .delete t prior => serve Diagnostics.report (t.resource.deleted · prior)
  | .adopt t id => serve Outcome.toJson (t.resource.imported · t.name id)
  | .stop => (.ok (.object []), { s with stopped := true }, w)

/-! ## Requests -/

def handle (env : Environment) (q : Query) (s : Server) (w : World) : Answer × Server × World :=
  match q.command with
  | .error e => (⟨q.id, .error e.message⟩, s, w)
  | .ok c =>
    let (result, s, w) := s.run env c w
    (⟨q.id, result.mapError ProviderError.message⟩, s, w)

/-- The server and the world outside as a service. -/
def service (env : Environment) : Service (Server × World) where
  name := Provider.name
  handle q now := now.1.handle env q now.2
  stopped now := now.1.stopped

/-- All lines that are written for a text of requests. -/
def serve (env : Environment) (input : String) (w : World) : List String × World :=
  let (lines, _, w) := (service env).serve input (start, w)
  (lines, w)

end Server

end CloudProvider
