import CloudProvider.Http.Client
import CloudProvider.ResourceState
import CloudProvider.Wait

/-!
# Resources

What the provider does for one resource: it works on the state of the resource and talks to the
API. A step that fails leaves what it has written so far.

- `Connection`: how the API is reached.
- `Work`, `Step`: the state of the resource with the world outside, and a step in both.
- `Step.ofState`, `Step.change`, `Step.call`, `Step.await`: the single steps.
- `Resource`: a type of resource with its operations.
- `ResourceState.region`, `ResourceState.ifChanged`: what requests are made of.
- `splitImportId`: the identity of a parent and of an object inside it.
-/

namespace CloudProvider
set_option autoImplicit false

/-- How the API is reached, and what resources fall back on. -/
structure Connection where
  client : Client
  /-- The region of resources that name none. -/
  region : Option String
  /-- The pause between two looks at an object that is waited for. -/
  pollInterval : Duration

/-- The state of a resource and the world outside. -/
structure Work where
  state : ResourceState
  world : World

/-- A step in the work on a resource. -/
abbrev Step := ExceptT ProviderError (StateM Work)

namespace Step

variable {α : Type}

/-- What the state of the resource gives, or refuses. -/
def ofState (f : ResourceState → Except ProviderError α) : Step α := fun work =>
  (f work.state, work)

def change (f : ResourceState → ResourceState) : Step Unit := fun work =>
  (.ok (), { work with state := f work.state })

def call (c : Call α) : Step α := fun work =>
  let (outcome, world) := c work.world
  (outcome.mapError ApiError.toProviderError, { work with world := world })

/-- A look at an object of the API. -/
def look (read : Call (Option α)) (status : α → String) (w : World) : Reading α × World :=
  match read w with
  | (.ok (some object), w) => (.found object (status object), w)
  | (.ok none, w) => (.absent, w)
  | (.error e, w) => (.failed e.toProviderError, w)

/-- Looks at an object of the API until the wait for it is over. -/
def await (waiter : Waiter) (read : Call (Option α)) (status : α → String) : Step (Option α) :=
  fun work =>
    let observer : Observer World α := ⟨look read status, World.nanos, World.sleep⟩
    let ended := waiter.wait observer work.world.replyCount work.world
    (waiter.conclude ended.1, { work with world := ended.2 })

end Step

structure Resource where
  schema : Schema
  timeouts : Timeouts
  create : Connection → Step Unit
  read : Connection → Step Unit
  update : Connection → Step Unit
  delete : Connection → Step Unit
  /-- The state that an import starts from: the identity that the given one stands for. -/
  adopt : String → ResourceState → Except ProviderError ResourceState

/-! ## Regions -/

/-- The region that a resource is in: its own, or else the one it falls back on. -/
def ResourceState.region (s : ResourceState) (fallback : Option String) :
    Except ProviderError String :=
  match s.text? "region" <|> fallback with
  | some region => .ok region
  | none =>
    .error
      (.invalidConfig "region must be set on the resource or in the provider configuration")

/-! ## Numbers and changes -/

/-- An integer as an unsigned number of 32 bits, if it is one. -/
def uint32OfInt64? (n : Int64) : Option UInt32 :=
  if 0 ≤ n.toInt ∧ n.toInt < UInt32.size then some (UInt32.ofNat n.toInt.toNat) else none

/-- What is sent for an attribute, if its value changes. -/
def ResourceState.ifChanged {α : Type} (s : ResourceState) (key : String)
    (value : Except ProviderError α) : Except ProviderError (Option α) :=
  if s.hasChange key then some <$> value else .ok none

/-! ## Imports -/

/-- The identities of a parent and of an object inside it, written with a slash between them. -/
def splitImportId (form id : String) : Except ProviderError (String × String) :=
  match id.toList.splitOn '/' with
  | [parent, child] =>
    if parent.isEmpty || child.isEmpty then refuse
    else .ok (String.ofList parent, String.ofList child)
  | _ => refuse
where
  /-- The identity does not have the form. -/
  refuse : Except ProviderError (String × String) :=
    .error (.invalidConfig ("unexpected import id " ++ Text.quote id ++ ", expected " ++ form))

end CloudProvider
