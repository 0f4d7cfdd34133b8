import CloudProvider.Diagnostics
import CloudProvider.Resource.Type

/-!
# Outcomes of operations

What the host learns about an operation on a resource: the state afterwards, and what went wrong.

- `Outcome`: a state and diagnostics.
- `Resource.prepared`: the state that an operation starts from.
- `Resource.created`, `Resource.refreshed`, `Resource.updated`, `Resource.deleted`,
  `Resource.imported`: the operations.
-/

namespace CloudProvider
set_option autoImplicit false

/-- The state after an operation, if the resource exists, and what went wrong. -/
structure Outcome where
  newState : Option Json
  diagnostics : Diagnostics

def Outcome.toJson (o : Outcome) : Json :=
  .object [("diagnostics", o.diagnostics.toJson), ("new_state", .option id o.newState)]

/-- Work that may be refused altogether, in the world outside. -/
abbrev Serving := ExceptT ProviderError (StateM World)

def Diagnostics.ofResult : Except ProviderError Unit → Diagnostics
  | .ok () => []
  | .error e => [.ofFailure e]

namespace Resource

/-- The state that an operation starts from. -/
def prepared (r : Resource) (s : ResourceState) : Except ProviderError ResourceState :=
  s.prepare r.schema r.timeouts

/-- The same for an operation on a resource that exists. -/
def preparedExisting (r : Resource) (s : ResourceState) : Except ProviderError ResourceState := do
  let s ← r.prepared s
  let _ ← s.requireId
  return s

/-- Creates a resource. One that failed after it got its identity is kept. -/
def created (r : Resource) (conn : Connection) (planned : Json) : Serving Outcome := fun w =>
  match r.prepared (.ofJson planned) with
  | .error e => (.error e, w)
  | .ok s =>
    let (result, work) := r.create conn ⟨s, w⟩
    (.ok ⟨work.state.toJson?, .ofResult result⟩, work.world)

/-- What reading a resource gives. A failure leaves the state as it was sent. -/
def look (r : Resource) (conn : Connection) (sent : Json) (s : ResourceState) (w : World) :
    Outcome × World :=
  match r.read conn ⟨s, w⟩ with
  | (.ok (), work) => (⟨work.state.toJson?, []⟩, work.world)
  | (.error e, work) => (⟨some sent, [.ofFailure e]⟩, work.world)

def refreshed (r : Resource) (conn : Connection) (current : Json) : Serving Outcome := fun w =>
  match r.preparedExisting (.ofJson current) with
  | .error e => (.error e, w)
  | .ok s =>
    let (outcome, w) := r.look conn current s w
    (.ok outcome, w)

/-- Changes a resource. After a failure the resource is read, since some of the changes may have
been made; what goes wrong with that is not reported. -/
def updated (r : Resource) (conn : Connection) (prior planned : Json) : Serving Outcome := fun w =>
  match r.preparedExisting ((ResourceState.ofJson planned).withPrior prior) with
  | .error e => (.error e, w)
  | .ok s =>
    match r.update conn ⟨s, w⟩ with
    | (.ok (), work) => (.ok ⟨work.state.toJson?, []⟩, work.world)
    | (.error e, work) =>
      match r.prepared (.ofJson prior) with
      | .error refusal => (.error refusal, work.world)
      | .ok before =>
        let (outcome, w) := r.look conn prior before work.world
        (.ok ⟨outcome.newState, [.ofFailure e]⟩, w)

def deleted (r : Resource) (conn : Connection) (prior : Json) : Serving Diagnostics := fun w =>
  match r.preparedExisting (.ofJson prior) with
  | .error e => (.error e, w)
  | .ok s =>
    let (result, work) := r.delete conn ⟨s, w⟩
    (.ok (.ofResult result), work.world)

/-- The error that reports an import of nothing. -/
def notThere (type id : String) : Diagnostic :=
  .error s!"Cannot import non-existent remote object {type} {id}"

/-- Takes over an object that exists, which has to be there. -/
def imported (r : Resource) (conn : Connection) (type id : String) : Serving Outcome := fun w =>
  match r.prepared (.ofJson (.object [])) with
  | .error e => (.error e, w)
  | .ok s =>
    match r.adopt id s with
    | .error e => (.ok ⟨s.toJson?, [.ofFailure e]⟩, w)
    | .ok s =>
      let (result, work) := r.read conn ⟨s, w⟩
      let newState := work.state.toJson?
      let problems := Diagnostics.ofResult result
      let problems :=
        if newState.isNone && problems.isEmpty then [notThere type id] else problems
      (.ok ⟨newState, problems⟩, work.world)

end Resource

end CloudProvider
