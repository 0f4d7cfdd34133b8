import CloudProvider.Proofs.Host.Deletion
import CloudProvider.Proofs.Host.Fallback
import CloudProvider.Proofs.Host.GroupCreation
import CloudProvider.Proofs.Host.Importing
import CloudProvider.Proofs.Host.Session
import CloudProvider.Proofs.Url.Inverting

/-!
# Which object a request is about

Every request of an operation on an object that exists is about that object or about something beneath
it. Its path has one component for the identity exactly if the identity is a plain segment.

* `Collection.Anchored`, `ResourceType.anchored`: the fixed segments of collections.
* `Exchange.Itself`, `Exchange.Beneath`: what a request is about.
* `ResourceType.read_about`, `ResourceType.update_about`, `ResourceType.delete_about`: the operations.
* `Command.StartsFrom`: the states that the operations on a resource start from.
* `Server.requests_address`: what the requests of a command address.
-/

namespace CloudProvider
set_option autoImplicit false

/-! ## Collections -/

/-- The collection ends with a plain segment, behind the parent if there is one, and only the parent may
not be plain. -/
structure Collection.Anchored (c : Collection) : Prop where
  ends : ∃ above name, c.path = above ++ [name] ∧ Url.Plain name
  fixed : ∀ segment ∈ c.path, Url.Plain segment ∨ c.parent = some segment
  parent : ∀ p, c.parent = some p → ∃ parents, c.path.dropLast = parents ++ [p]

/-- The segments of the place are plain. -/
def Place.Plain : Place → Prop
  | top path => path ≠ [] ∧ ∀ segment ∈ path, Url.Plain segment
  | inside parents _ name => ∀ segment ∈ name :: parents, Url.Plain segment

instance (p : Place) : Decidable p.Plain :=
  match p with
  | .top _ => inferInstanceAs (Decidable (_ ∧ _))
  | .inside _ _ _ => List.decidableBAll _ _

theorem Place.Plain.anchored {p : Place} (h : p.Plain) {s : ResourceState} {c : Collection}
    (hc : p.collection s = .ok c) : c.Anchored := by
  cases p with
  | top path =>
    obtain rfl := Except.ok.inj hc
    obtain ⟨hne, hplain⟩ := h
    have hends := List.dropLast_concat_getLast hne
    exact ⟨⟨_, _, hends.symm, hplain _ (List.getLast_mem hne)⟩, fun segment hs => .inl (hplain segment hs),
      by simp⟩
  | inside parents attr name =>
    obtain ⟨parent, -, hc⟩ := bind_ok.mp hc
    obtain rfl := Except.ok.inj hc
    obtain ⟨hname, hparents⟩ := List.forall_mem_cons.mp h
    refine ⟨⟨parents ++ [parent], name, by simp, hname⟩, fun segment hs => ?_, ?_⟩
    · rcases List.mem_append.mp hs with hs | hs
      · exact .inl (hparents segment hs)
      · rcases List.mem_cons.mp hs with rfl | hs
        · exact .inr rfl
        · exact .inl (List.mem_singleton.mp hs ▸ hname)
    · rintro p hp
      obtain rfl := Option.some.inj hp
      exact ⟨parents, by rw [List.append_cons parents parent [name], List.dropLast_concat]⟩

namespace Collection.Anchored

variable {c : Collection}

theorem plain_object (h : c.Anchored) (id : String) :
    (∀ segment ∈ c.object id, Url.Plain segment) ↔
      Url.Plain id ∧ ∀ p, c.parent = some p → Url.Plain p := by
  simp only [object, List.forall_mem_append, List.forall_mem_singleton]
  constructor
  · rintro ⟨hpath, hid⟩
    refine ⟨hid, fun p hp => hpath p ?_⟩
    obtain ⟨parents, habove⟩ := h.parent p hp
    exact List.dropLast_subset _ (habove ▸ List.mem_concat_self)
  · rintro ⟨hid, hparent⟩
    refine ⟨fun segment hs => ?_, hid⟩
    rcases h.fixed segment hs with hplain | hp
    · exact hplain
    · exact hparent segment hp

/-- The URL of an object addresses it exactly if its identity and that of its parent are plain. -/
theorem addresses_object (h : c.Anchored) {client : Client} {base : List (List Char)}
    (hbase : client.base.path = .segments base) (id : String) :
    Url.Addresses (Url.root base) (c.object id) (client.url (c.object id)) ↔
      Url.Plain id ∧ ∀ p, c.parent = some p → Url.Plain p := by
  rw [← h.plain_object]
  exact Url.addresses_extend hbase (by simp [object])

/-- An identity of which two dots are left leads above the collection. -/
theorem url_above (h : c.Anchored) (client : Client) {id : String} (hdots : id ≠ "..")
    (hkept : id.toList.filter (!Url.isDropped ·) = ['.', '.']) :
    client.url (c.object id) = client.url (c.path.dropLast ++ [""]) := by
  obtain ⟨above, name, hpath, hname⟩ := h.ends
  rw [object, hpath, List.dropLast_concat]
  exact Url.extend_above hdots hkept hname above

end Collection.Anchored

namespace ResourceType

/-- The collection that a resource belongs to. -/
def collection (t : ResourceType) (s : ResourceState) : Except ProviderError Collection :=
  match t.lifecycle? with
  | some l => l.place.collection s
  | none => .ok ⟨FirewallGroup.groups, none⟩

theorem anchored {t : ResourceType} {s : ResourceState} {c : Collection} (hc : t.collection s = .ok c) :
    c.Anchored := by
  have hplace (l : Lifecycle t.Object) (hlife : t.lifecycle? = some l) : l.place.Plain := by
    cases t <;> cases hlife <;> decide
  rw [collection] at hc
  cases hlife : t.lifecycle? with
  | some l =>
    rw [hlife] at hc
    exact (hplace l hlife).anchored hc
  | none =>
    rw [hlife] at hc
    obtain rfl := Except.ok.inj hc
    refine ⟨⟨[], _, rfl, by decide⟩, fun segment hs => .inl ?_, by simp⟩
    obtain rfl := List.mem_singleton.mp hs
    decide

end ResourceType

/-! ## What requests are about -/

namespace Exchange

/-- The request is for the object itself. -/
structure Itself (client : Client) (c : Collection) (id : String) (e : Exchange) : Prop where
  method : e.request.method ∈ [.get, .patch, .delete]
  url : e.request.url = client.url (c.object id)

/-- What there is beneath objects: the credentials of a cluster and the rules of a group. -/
def namesBeneath : List String := ["kubeconfig", "rules"]

/-- The request is for something beneath an object. -/
def Beneath (client : Client) (c : Collection) (e : Exchange) : Prop :=
  ∃ id name rest, name ∈ namesBeneath ∧ e.request.url = client.url (c.object id ++ name :: rest)

/-- The request is for the object of a state in this collection, or for something beneath one. -/
def About (client : Client) (s : ResourceState) (collection : Except ProviderError Collection)
    (e : Exchange) : Prop :=
  ∃ id c, s.id = some id ∧ collection = .ok c ∧ (e.Itself client c id ∨ e.Beneath client c)

variable {client : Client} {s : ResourceState} {collection : Except ProviderError Collection}
  {c : Collection} {id : String} {e : Exchange}

theorem About.itself (hid : s.requireId = .ok id) (hc : collection = .ok c) {method : Method}
    {headers : List (String × String)} {body : Option Json} (hmethod : method ∈ [.get, .patch, .delete])
    (h : e.request = ⟨method, client.url (c.object id), headers, body⟩) :
    e.About client s collection := by
  refine ⟨id, c, ResourceState.requireId_ok.mp hid, hc, .inl ⟨?_, congrArg Request.url h⟩⟩
  rwa [h]

theorem About.beneath (hid : s.requireId = .ok id) (hc : collection = .ok c) {id' name : String}
    (hname : name ∈ namesBeneath) (rest : List String)
    (h : e.request.url = client.url (c.object id' ++ name :: rest)) : e.About client s collection :=
  ⟨id, c, ResourceState.requireId_ok.mp hid, hc, .inr ⟨id', name, rest, hname, h⟩⟩

end Exchange

namespace Lifecycle

variable {α : Type} (l : Lifecycle α) (conn : Connection) {s : ResourceState}

section

variable {c : Collection} {id : String} (hid : s.requireId = .ok id) (hc : l.place.collection s = .ok c)
include hid hc

theorem fetch_about (w : World) : ∃ es, Traffic w es (l.fetch conn c id w).2 ∧
    ∀ e ∈ es, e.About conn.client s (l.place.collection s) := by
  obtain ⟨es, hasked, -⟩ := l.fetch_asked conn c id w
  exact ⟨es, hasked.traffic, fun e he => .itself hid hc (by decide) (hasked.request e he)⟩

variable (hbeside : ∀ a, l.attachment = some a → a.name ∈ Exchange.namesBeneath)
include hbeside

theorem record_about (x : α) :
    Step.Sends (·.About conn.client s (l.place.collection s)) (l.record conn c x) := by
  refine (Step.Sends.change _).bind fun _ => ?_
  unfold attach
  split
  · exact (Step.Keeps.pure ()).sends
  · next a ha =>
    split
    · refine (Step.Keeps.get fun e he => ?_).sends.bind fun _ => .change _
      exact .beneath hid hc (hbeside a ha) [] (congrArg Request.url he)
    · exact (Step.Keeps.pure ()).sends

theorem settle_about (pending : Phases α → List String) (timeout : Timeouts → Duration) (x : α) :
    Step.Sends (·.About conn.client s (l.place.collection s))
      (l.settle conn c id pending timeout x) := by
  unfold settle
  split
  · exact l.record_about conn hid hc hbeside x
  · refine (Step.Keeps.ofState _).sends.bind fun deadline => ?_
    have hawait (waiter : Waiter) (status : α → String) :=
      Step.Keeps.await status waiter (l.fetch_about conn hid hc)
    refine .bind ((hawait _ _).sends.bind fun found => ?_) fun y => l.record_about conn hid hc hbeside y
    cases found with
    | some y => exact (Step.Keeps.pure y).sends
    | none => exact (Step.Keeps.throw _).sends

end

variable (s)

theorem read_about (hbeside : ∀ a, l.attachment = some a → a.name ∈ Exchange.namesBeneath) :
    Step.SendsFrom (·.About conn.client s (l.place.collection s)) s (l.read conn) := by
  refine .ofState_bind fun id hid => .ofState_bind fun c hc => ?_
  refine .keeps_bind (.call (l.fetch_about conn hid hc)) fun found => ?_
  cases found with
  | some x => exact (l.record_about conn hid hc hbeside x).sendsFrom s
  | none => exact (Step.Sends.change _).sendsFrom s

theorem update_about (hbeside : ∀ a, l.attachment = some a → a.name ∈ Exchange.namesBeneath) :
    Step.SendsFrom (·.About conn.client s (l.place.collection s)) s (l.update conn) := by
  refine .ofState_bind fun id hid => .ofState_bind fun c hc => .ofState_bind fun changed _ => ?_
  cases changed with
  | false => exact l.read_about conn s hbeside
  | true =>
    refine .ofState_bind fun body _ => .keeps_bind (.patch fun e he => ?_) fun x => ?_
    · exact .itself hid hc (by decide) he
    · exact (l.settle_about conn hid hc hbeside _ _ x).sendsFrom s

theorem delete_about :
    Step.SendsFrom (·.About conn.client s (l.place.collection s)) s (l.delete conn) := by
  refine .ofState_bind fun id hid => .ofState_bind fun c hc => .keeps_bind (.delete fun e he => ?_) ?_
  · exact .itself hid hc (by decide) he
  · intro _
    split
    · exact (Step.Keeps.pure ()).sends.sendsFrom s
    · refine .ofState_bind fun deadline _ => .keeps_bind ?_ fun _ => (Step.Keeps.pure ()).sends.sendsFrom s
      exact .await _ _ (l.fetch_about conn hid hc)

end Lifecycle

namespace FirewallGroup

variable (conn : Connection) (s : ResourceState)

/-- The collection of all groups. -/
def collection : Collection := ⟨groups, none⟩

theorem rules_about {id group : String} {e : Exchange} (hid : s.requireId = .ok id)
    (h : AboutRules conn.client group e) : e.About conn.client s (.ok collection) := by
  rcases h with hurl | ⟨rule, hurl⟩
  · exact .beneath hid rfl (by decide) [] hurl
  · exact .beneath hid rfl (by decide) [rule] hurl

theorem read_about : Step.SendsFrom (·.About conn.client s (.ok collection)) s (read conn) := by
  refine .ofState_bind fun id hid => .keeps_bind (.call fun w => ?_) fun found => ?_
  · obtain ⟨es, hasked, -⟩ := conn.client.getOptional_asked (groups ++ [id]) w decoder
    exact ⟨es, hasked.traffic, fun e he => .itself hid rfl (by decide) (hasked.request e he)⟩
  · cases found with
    | none => exact (Step.Sends.change _).sendsFrom s
    | some group =>
      refine .keeps_bind (.get fun e he => ?_) fun _ => (Step.Sends.change _).sendsFrom s
      exact rules_about conn s hid (.inl (congrArg Request.url he))

theorem update_about : Step.SendsFrom (·.About conn.client s (.ok collection)) s (update conn) := by
  -- What comes after the description is the same whether or not it was sent.
  have hrules (id : String) (hid : s.requireId = .ok id) :
      Step.SendsFrom (·.About conn.client s (.ok collection)) s (do
        if ← Step.ofState fun s => .ok (s.hasChange "rule") then
          syncRules conn id
        read conn : Step Unit) := by
    refine .ofState_bind fun changed _ => ?_
    cases changed with
    | false => exact read_about conn s
    | true =>
      have hsync := (syncRules_about conn id).mono fun e he => rules_about conn s hid he
      exact .keeps_bind hsync fun _ => read_about conn s
  refine .ofState_bind fun id hid => .ofState_bind fun changed _ => ?_
  cases changed with
  | false => exact hrules id hid
  | true =>
    refine .ofState_bind fun body _ => .keeps_bind (.patch fun e he => ?_) fun _ => hrules id hid
    exact .itself hid rfl (by decide) he

theorem delete_about : Step.SendsFrom (·.About conn.client s (.ok collection)) s (delete conn) := by
  refine .ofState_bind fun id hid => (Step.Keeps.delete fun e he => ?_).sends.sendsFrom s
  exact .itself hid rfl (by decide) he

end FirewallGroup

namespace ResourceType

theorem requests_about (t : ResourceType) (conn : Connection) (s : ResourceState) :
    Step.SendsFrom (·.About conn.client s (t.collection s)) s (t.resource.read conn) ∧
      Step.SendsFrom (·.About conn.client s (t.collection s)) s (t.resource.update conn) ∧
      Step.SendsFrom (·.About conn.client s (t.collection s)) s (t.resource.delete conn) := by
  cases hlife : t.lifecycle? with
  | some l =>
    rw [resource_of_lifecycle? hlife, collection, hlife]
    have hbeside (a : Attachment t.Object) (ha : l.attachment = some a) :
        a.name ∈ Exchange.namesBeneath := by
      cases t <;> cases hlife <;> cases ha
      decide
    exact ⟨l.read_about conn s hbeside, l.update_about conn s hbeside, l.delete_about conn s⟩
  | none =>
    rw [collection, hlife]
    cases t with
    | firewallGroup =>
      exact ⟨FirewallGroup.read_about conn s, FirewallGroup.update_about conn s,
        FirewallGroup.delete_about conn s⟩
    | _ => cases hlife

end ResourceType

/-! ## Commands -/

/-- The states that the operations of a command start from. An update that fails reads the resource in
the state before it. -/
inductive Command.StartsFrom : Command → ResourceType → ResourceState → Prop where
  | read (t : ResourceType) (current : Json) (s : ResourceState)
    (hs : t.resource.preparedExisting (.ofJson current) = .ok s) : StartsFrom (.read t current) t s
  | update (t : ResourceType) (prior planned : Json) (s : ResourceState)
    (hs : t.resource.preparedExisting ((ResourceState.ofJson planned).withPrior prior) = .ok s) :
    StartsFrom (.update t prior planned) t s
  | fallback (t : ResourceType) (prior planned : Json) (s : ResourceState)
    (hs : t.resource.prepared (.ofJson prior) = .ok s) : StartsFrom (.update t prior planned) t s
  | delete (t : ResourceType) (prior : Json) (s : ResourceState)
    (hs : t.resource.preparedExisting (.ofJson prior) = .ok s) : StartsFrom (.delete t prior) t s
  | adopt (t : ResourceType) (id : String) (s s' : ResourceState)
    (hs : t.resource.prepared (.ofJson (.object [])) = .ok s) (hadopt : t.resource.adopt id s = .ok s') :
    StartsFrom (.adopt t id) t s'

namespace ResourceType

variable (t : ResourceType) (conn : Connection)

theorem look_about (sent : Json) (s : ResourceState) (w : World) :
    ∃ es, Traffic w es (t.resource.look conn sent s w).2 ∧
      ∀ e ∈ es, e.About conn.client s (t.collection s) := by
  obtain ⟨es, htraffic, habout⟩ := (t.requests_about conn s).1 w
  refine ⟨es, ?_, habout⟩
  rw [Resource.look]
  rcases hread : t.resource.read conn ⟨s, w⟩ with ⟨failure | _, work⟩ <;> rw [hread] at htraffic <;>
    exact htraffic

theorem refreshed_about (current : Json) (w : World) :
    ∃ es, Traffic w es (t.resource.refreshed conn current w).2 ∧ ∀ e ∈ es, ∃ s,
      (Command.read t current).StartsFrom t s ∧ e.About conn.client s (t.collection s) := by
  rw [Resource.refreshed]
  cases hs : t.resource.preparedExisting (.ofJson current) with
  | error failure => exact ⟨[], .refl w, by simp⟩
  | ok s =>
    obtain ⟨es, htraffic, habout⟩ := t.look_about conn current s w
    exact ⟨es, htraffic, fun e he => ⟨s, .read t current s hs, habout e he⟩⟩

theorem updated_about (prior planned : Json) (w : World) :
    ∃ es, Traffic w es (t.resource.updated conn prior planned w).2 ∧ ∀ e ∈ es, ∃ s,
      (Command.update t prior planned).StartsFrom t s ∧ e.About conn.client s (t.collection s) := by
  rw [Resource.updated]
  cases hs : t.resource.preparedExisting ((ResourceState.ofJson planned).withPrior prior) with
  | error failure => exact ⟨[], .refl w, by simp⟩
  | ok s =>
    obtain ⟨es, htraffic, habout⟩ := (t.requests_about conn s).2.1 w
    have hchanges : ∀ e ∈ es, ∃ s, (Command.update t prior planned).StartsFrom t s ∧
        e.About conn.client s (t.collection s) :=
      fun e he => ⟨s, .update t prior planned s hs, habout e he⟩
    dsimp only
    rcases hrun : t.resource.update conn ⟨s, w⟩ with ⟨failure | _, work⟩ <;> rw [hrun] at htraffic
    · dsimp only
      cases hbefore : t.resource.prepared (.ofJson prior) with
      | error refusal => exact ⟨es, htraffic, hchanges⟩
      | ok before =>
        obtain ⟨es', htraffic', habout'⟩ := t.look_about conn prior before work.world
        refine ⟨es ++ es', htraffic.trans htraffic', fun e he => ?_⟩
        rcases List.mem_append.mp he with he | he
        · exact hchanges e he
        · exact ⟨before, .fallback t prior planned before hbefore, habout' e he⟩
    · exact ⟨es, htraffic, hchanges⟩

theorem deleted_about (prior : Json) (w : World) :
    ∃ es, Traffic w es (t.resource.deleted conn prior w).2 ∧ ∀ e ∈ es, ∃ s,
      (Command.delete t prior).StartsFrom t s ∧ e.About conn.client s (t.collection s) := by
  rw [Resource.deleted]
  cases hs : t.resource.preparedExisting (.ofJson prior) with
  | error failure => exact ⟨[], .refl w, by simp⟩
  | ok s =>
    obtain ⟨es, htraffic, habout⟩ := (t.requests_about conn s).2.2 w
    exact ⟨es, htraffic, fun e he => ⟨s, .delete t prior s hs, habout e he⟩⟩

theorem imported_about (id : String) (w : World) :
    ∃ es, Traffic w es (t.resource.imported conn t.name id w).2 ∧ ∀ e ∈ es, ∃ s,
      (Command.adopt t id).StartsFrom t s ∧ e.About conn.client s (t.collection s) := by
  rw [Resource.imported]
  cases hs : t.resource.prepared (.ofJson (.object [])) with
  | error failure => exact ⟨[], .refl w, by simp⟩
  | ok s =>
    dsimp only
    cases hadopt : t.resource.adopt id s with
    | error failure => exact ⟨[], .refl w, by simp⟩
    | ok s' =>
      obtain ⟨es, htraffic, habout⟩ := (t.requests_about conn s').1 w
      exact ⟨es, htraffic, fun e he => ⟨s', .adopt t id s s' hs hadopt, habout e he⟩⟩

end ResourceType

theorem Client.new_base {apiUrl token : String} {project : Option String} {retry : RetryPolicy}
    {client : Client} (h : Client.new apiUrl token project retry = .ok client) :
    ∃ base, client.base.path = .segments base := by
  obtain ⟨-, base, -, hextends, rfl⟩ := Client.new_ok.mp h
  cases hpath : base.path with
  | segments path => exact ⟨_, by rw [Url.trimmed, hpath]⟩
  | bare text => simp [Url.canExtend, hpath] at hextends

theorem Client.new_usual :
    Client.new "https://api.fleetform.cloud/v1" "secret" none .default =
      .ok Connection.usual.client := by
  have hblank : Text.isBlankText "secret" = false := by decide +kernel
  have hparse : (Url.parse "https://api.fleetform.cloud/v1").toOption =
      some Connection.usual.client.base := by decide +kernel
  rw [Client.new, hblank]
  cases hurl : Url.parse "https://api.fleetform.cloud/v1" with
  | error e =>
    rw [hurl] at hparse
    cases hparse
  | ok base =>
    rw [hurl] at hparse
    obtain rfl := Option.some.inj hparse
    rfl

namespace Server

variable {env : Environment} {server : Server} {conn : Connection} {command : Command}

/-- Every request of a read, an update, a deletion or an import is about the object of a state that the
command starts from. -/
theorem run_about (hconn : server.connection = some conn)
    (hcommand : command.method ∈ ["read", "update", "delete", "import"]) (w : World) :
    ∃ es, Traffic w es (server.run env command w).2.2 ∧ ∀ e ∈ es, ∃ t s,
      command.StartsFrom t s ∧ e.About conn.client s (t.collection s) := by
  cases command with
  | read t current =>
    obtain ⟨es, htraffic, habout⟩ := t.refreshed_about conn current w
    rw [run_read hconn]
    exact ⟨es, htraffic, fun e he => ⟨t, habout e he⟩⟩
  | update t prior planned =>
    obtain ⟨es, htraffic, habout⟩ := t.updated_about conn prior planned w
    rw [run_update hconn]
    exact ⟨es, htraffic, fun e he => ⟨t, habout e he⟩⟩
  | delete t prior =>
    obtain ⟨es, htraffic, habout⟩ := t.deleted_about conn prior w
    rw [run_delete hconn]
    exact ⟨es, htraffic, fun e he => ⟨t, habout e he⟩⟩
  | adopt t id =>
    obtain ⟨es, htraffic, habout⟩ := t.imported_about conn id w
    rw [run_import hconn]
    exact ⟨es, htraffic, fun e he => ⟨t, habout e he⟩⟩
  | _ => simp [Command.method] at hcommand

/-- A request for the object itself has the path of the base, the segments of the collection and one
component that stands for the identity exactly if the identity is a plain segment, and the identity of
the parent too. A dot or two dots are left out, so that the request is for the collection. So are
characters that do not count: the request is for the object that has the rest as its identity, with
nothing or a dot as the rest for an empty one in the collection, and with two dots for what is above the
collection, which is the parent if there is one. -/
theorem requests_address (hconn : server.connection = some conn) {apiUrl token : String}
    {project : Option String} {retry : RetryPolicy}
    (hclient : Client.new apiUrl token project retry = .ok conn.client)
    (hcommand : command.method ∈ ["read", "update", "delete", "import"]) (w : World) :
    ∃ base, conn.client.base.path = .segments base ∧
      ∃ es, Traffic w es (server.run env command w).2.2 ∧ ∀ e ∈ es, ∃ t s id c,
        command.StartsFrom t s ∧ s.id = some id ∧ t.collection s = .ok c ∧
        (e.Itself conn.client c id ∨ e.Beneath conn.client c) ∧
        (e.Itself conn.client c id →
          (Url.Addresses (Url.root base) (c.object id) e.request.url ↔
            Url.Plain id ∧ ∀ p, c.parent = some p → Url.Plain p) ∧
          (id = "." ∨ id = ".." → e.request.url = conn.client.url c.path) ∧
          (∀ sibling, Url.Plain sibling → sibling.toList = id.toList.filter (!Url.isDropped ·) →
            e.request.url = conn.client.url (c.object sibling)) ∧
          (id ≠ "." → id.toList.filter (!Url.isDropped ·) ∈ [[], ['.']] →
            e.request.url = conn.client.url (c.object "")) ∧
          (id ≠ ".." → id.toList.filter (!Url.isDropped ·) = ['.', '.'] →
            e.request.url = conn.client.url (c.path.dropLast ++ [""]) ∧
            ∀ p, c.parent = some p → ∃ parents, c.path.dropLast = parents ++ [p])) := by
  obtain ⟨base, hbase⟩ := Client.new_base hclient
  obtain ⟨es, htraffic, habout⟩ := @run_about env server conn command hconn hcommand w
  refine ⟨base, hbase, es, htraffic, fun e he => ?_⟩
  obtain ⟨t, s, hstarts, id, c, hid, hc, hcases⟩ := habout e he
  refine ⟨t, s, id, c, hstarts, hid, hc, hcases, fun hitself => ?_⟩
  rw [hitself.url]
  have hanchored := ResourceType.anchored hc
  refine ⟨hanchored.addresses_object hbase id, fun hdot => ?_, ?_, ?_, ?_⟩
  · exact Url.extend_dot hdot c.path
  · intro sibling hplain hsame
    exact Url.extend_dropped hplain hsame c.path
  · intro hdot hkept
    exact Url.extend_level hdot hkept c.path
  · intro hdots hkept
    exact ⟨hanchored.url_above conn.client hdots hkept, hanchored.parent⟩

/-- The deletion of a network whose identity ends with a tab is sent for another network. -/
theorem requests_address_sibling :
    let server : Server := ⟨some .usual, false⟩
    let env : Environment := ⟨[], none, fun _ => .missing⟩
    let w : World := ⟨⟨true, [(.answer ⟨404, "", none⟩, 2)]⟩, 0, []⟩
    let prior := Json.object [("id", .string "lan-1\t")]
    ∃ es e, Traffic w es (server.run env (.delete .privateLan prior) w).2.2 ∧ e ∈ es ∧
      e.Itself Connection.usual.client ⟨["private-lans"], none⟩ "lan-1\t" ∧
      e.request.url = Connection.usual.client.url ["private-lans", "lan-1"] ∧
      ¬ Url.Addresses [['v', '1']] ["private-lans", "lan-1\t"] e.request.url := by
  intro server env w prior
  -- What went out is computed; what it addresses is the law.
  have hlog : (server.run env (.delete .privateLan prior) w).2.2.log.map
      (fun r => (r.method, r.url)) =
        [(.delete, Connection.usual.client.url ["private-lans", "lan-1"]),
          (.get, Connection.usual.client.url ["private-lans", "lan-1"])] := by
    decide +kernel
  obtain ⟨base, hbase, es, htraffic, habout⟩ :=
    @requests_address env server .usual (.delete .privateLan prior) rfl _ _ _ _ Client.new_usual (by decide) w
  obtain rfl : [['v', '1']] = base := UrlPath.segments.inj hbase
  rw [htraffic.log, List.nil_append, List.map_map] at hlog
  obtain ⟨e, rest, rfl⟩ : ∃ e rest, es = e :: rest := by
    cases es with
    | nil => cases hlog
    | cons e rest => exact ⟨e, rest, rfl⟩
  obtain ⟨hmethod, hurl⟩ := Prod.mk.inj (List.cons.inj hlog).1
  obtain ⟨t, s, id, c, hstarts, hid, hc, -, hitself⟩ := habout e List.mem_cons_self
  cases hstarts with
  | delete _ _ _ hs =>
    obtain ⟨-, hsid⟩ := Resource.preparedExisting_ok rfl (Portrait.prepared_of_existing hs)
    obtain rfl := Option.some.inj (hsid.symm.trans hid)
    obtain rfl := Except.ok.inj hc
    have hfor : e.Itself Connection.usual.client ⟨["private-lans"], none⟩ "lan-1\t" :=
      ⟨by rw [show e.request.method = .delete from hmethod]; decide, hurl.trans (by decide +kernel)⟩
    obtain ⟨haddresses, -, hsibling, -⟩ := hitself hfor
    have hurl' := hsibling "lan-1" (by decide) (by decide)
    refine ⟨_, e, htraffic, List.mem_cons_self, hfor, hurl', ?_⟩
    intro h
    exact absurd (haddresses.mp h).1 (by decide)

end Server

end CloudProvider
