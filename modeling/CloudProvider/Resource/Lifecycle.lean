import CloudProvider.Resource.Basic

/-!
# Life cycles

Most types of resource are kept in the same way: an object of a collection is created, read,
changed attribute by attribute, and deleted. A life cycle says what differs from type to type.

- `Place`, `Collection`: where the objects of a type are.
- `Phases`: the statuses of objects that take time to become usable.
- `Attachment`: a text kept beside an object.
- `Lifecycle`: all that differs from type to type.
- `Lifecycle.create`, `Lifecycle.read`, `Lifecycle.update`, `Lifecycle.delete`: the operations.
- `Lifecycle.resource`: the type of resource.
-/

namespace CloudProvider
open Json
set_option autoImplicit false

/-! ## Where objects are -/

/-- A collection of objects, maybe inside a parent. -/
structure Collection where
  path : List String
  parent : Option String
deriving DecidableEq

def Collection.object (c : Collection) (id : String) : List String :=
  c.path ++ [id]

/-- An object of the collection in words. -/
def Collection.label (c : Collection) (kind id : String) : String :=
  match c.parent with
  | none => s!"{kind} {id}"
  | some parent => s!"{kind} {parent}/{id}"

/-- Where the objects of a type are. -/
inductive Place where
  /-- All in one collection. -/
  | top (path : List String)
  /-- In a collection of a parent, whose identity is an attribute of the resource. -/
  | inside (parents : List String) (attr : String) (name : String)
deriving DecidableEq

/-- The collection that a resource belongs to. -/
def Place.collection (p : Place) (s : ResourceState) : Except ProviderError Collection :=
  match p with
  | top path => .ok ⟨path, none⟩
  | inside parents attr name => do
    let parent ← s.requiredText attr
    return ⟨parents ++ [parent, name], some parent⟩

/-! ## What differs from type to type -/

/-- The statuses of objects that take time to become usable. -/
structure Phases (α : Type) where
  status : α → String
  creating : List String
  updating : List String
  deleting : List String
  ready : String

/-- A text kept beside an object: the name of its path, of the member of the answer and of the
attribute, and when it can be read. -/
structure Attachment (α : Type) where
  name : String
  title : String
  available : α → Bool

/-- All that differs from type to type. -/
structure Lifecycle (α : Type) where
  kind : String
  schema : Schema
  timeouts : Timeouts
  place : Place
  decoder : Decoder α
  identity : α → String
  /-- What is sent to create an object, given the region to fall back on. -/
  draft : Option String → ResourceState → Except ProviderError Json
  /-- The attributes that can be changed. -/
  updatable : List String
  /-- What is sent to change an object. -/
  changes : ResourceState → Except ProviderError Json
  /-- Writes an object into the state of its resource. -/
  writeTo : α → ResourceState → ResourceState
  phases : Option (Phases α)
  attachment : Option (Attachment α)
  adopt : String → ResourceState → Except ProviderError ResourceState

/-- An imported resource has the given identity. -/
def adoptVerbatim (id : String) (s : ResourceState) : Except ProviderError ResourceState :=
  .ok (s.setId id)

namespace Lifecycle

variable {α : Type}

/-! ## Waiting -/

def waiter (l : Lifecycle α) (conn : Connection) (c : Collection) (id : String)
    (pending targets : List String) (timeout : Duration) : Waiter :=
  { Waiter.new (c.label l.kind id) timeout with
    pending := pending
    targets := targets
    pollInterval := conn.pollInterval }

/-- The object under an identity, if it is there. -/
def fetch (l : Lifecycle α) (conn : Connection) (c : Collection) (id : String) :
    Call (Option α) :=
  conn.client.getOptional l.decoder (c.object id)

/-- Waits until an object is ready, out of one of the `pending` statuses. -/
def awaitReady (l : Lifecycle α) (p : Phases α) (conn : Connection) (c : Collection) (id : String)
    (pending : List String) (timeout : Duration) : Step α := do
  let waiter := l.waiter conn c id pending [p.ready] timeout
  match ← Step.await waiter (l.fetch conn c id) p.status with
  | some found => return found
  | none => throw (.notFound s!"{l.kind} {id} disappeared after creation")

/-- Waits until an object is gone. -/
def awaitGone (l : Lifecycle α) (p : Phases α) (conn : Connection) (c : Collection) (id : String)
    (timeout : Duration) : Step Unit := do
  let _ ← Step.await (l.waiter conn c id p.deleting [] timeout) (l.fetch conn c id) p.status

/-! ## Writing objects into the state -/

/-- Reads the text beside an object and writes it into the state. -/
def attach (l : Lifecycle α) (conn : Connection) (c : Collection) (object : α) : Step Unit :=
  match l.attachment with
  | none => return ()
  | some a =>
    if a.available object then do
      let decoder := Record.decoder a.title (Record.required a.name Decode.text)
      let text ← Step.call (conn.client.get decoder (c.object (l.identity object) ++ [a.name]))
      Step.change (·.set a.name (.string text))
    else return ()

/-- Writes an object and the text beside it into the state. -/
def record (l : Lifecycle α) (conn : Connection) (c : Collection) (object : α) : Step Unit := do
  Step.change (l.writeTo object)
  l.attach conn c object

/-- Records an object that was created or changed, once it is ready. -/
def settle (l : Lifecycle α) (conn : Connection) (c : Collection) (id : String)
    (pending : Phases α → List String) (timeout : Timeouts → Duration) (object : α) :
    Step Unit := do
  match l.phases with
  | none => l.record conn c object
  | some p =>
    let deadline ← Step.ofState fun s => .ok (timeout s.timeouts)
    l.record conn c (← l.awaitReady p conn c id (pending p) deadline)

/-! ## The operations -/

/-- Creates the object. Its identity is kept whatever happens afterwards. -/
def create (l : Lifecycle α) (conn : Connection) : Step Unit := do
  let c ← Step.ofState l.place.collection
  let body ← Step.ofState (l.draft conn.region)
  let object ← Step.call (conn.client.post l.decoder c.path body)
  Step.change (·.setId (l.identity object))
  l.settle conn c (l.identity object) (·.creating) (·.create) object

/-- Reads the object. If it is missing, so is the identity of the resource afterwards. -/
def read (l : Lifecycle α) (conn : Connection) : Step Unit := do
  let id ← Step.ofState (·.requireId)
  let c ← Step.ofState l.place.collection
  match ← Step.call (l.fetch conn c id) with
  | some found => l.record conn c found
  | none => Step.change (·.clearId)

/-- Changes the object, or only reads it if nothing is to be changed. -/
def update (l : Lifecycle α) (conn : Connection) : Step Unit := do
  let id ← Step.ofState (·.requireId)
  let c ← Step.ofState l.place.collection
  if ← Step.ofState fun s => .ok (s.hasChanges l.updatable) then
    let body ← Step.ofState l.changes
    let object ← Step.call (conn.client.patch l.decoder (c.object id) body)
    l.settle conn c id (·.updating) (·.update) object
  else l.read conn

/-- Deletes the object, and waits until it is gone if that takes time. -/
def delete (l : Lifecycle α) (conn : Connection) : Step Unit := do
  let id ← Step.ofState (·.requireId)
  let c ← Step.ofState l.place.collection
  Step.call (conn.client.delete (c.object id))
  match l.phases with
  | none => return ()
  | some p =>
    let deadline ← Step.ofState fun s => .ok s.timeouts.delete
    l.awaitGone p conn c id deadline

/-- The type of resource with this life cycle. -/
def resource (l : Lifecycle α) : Resource where
  schema := l.schema
  timeouts := l.timeouts
  create := l.create
  read := l.read
  update := l.update
  delete := l.delete
  adopt := l.adopt

end Lifecycle

end CloudProvider
