import CloudProvider.Proofs.Host.Reading

/-!
# Reads that find something missing

A read looks for the object of a resource, and two types need something besides it. An object that is
missing is dropped from the state without a word. What is missing besides an object that was found a
moment ago is a failure, although the object has disappeared in between, and the state stays as it was
sent.

* `Step.Needs`: a step that fails if something that it asks for is missing.
* `Searches`: the exchanges of a read, and what a missing answer makes of it.
* `Searches.of_look`: a look at an object, and a step that needs more.
* `ResourceType.read_searches`: the searches of every type.
* `Server.read_missing`: what a read returns if something is missing.
-/

namespace CloudProvider
open Json
set_option autoImplicit false

/-- From the state `s` the step asks for nothing but `P` and keeps the identity. It fails if something
that it asks for is missing. -/
def Step.Needs (P : Exchange → Prop) (s : ResourceState) (m : Step Unit) : Prop :=
  ∀ w, ∃ result s' w' es, m ⟨s, w⟩ = (result, ⟨s', w'⟩) ∧ s'.id = s.id ∧ Traffic w es w' ∧
    (∀ e ∈ es, P e) ∧ ∀ e ∈ es, e.Missing → result = .error (.notFound e.request.url.pathText)

namespace Step.Needs

variable {P Q : Exchange → Prop} {s : ResourceState} {m : Step Unit}

theorem mono (h : Needs P s m) (hPQ : ∀ e, P e → Q e) : Needs Q s m := by
  intro w
  obtain ⟨result, s', w', es, hrun, hsame, htraffic, hP, hfailed⟩ := h w
  exact ⟨result, s', w', es, hrun, hsame, htraffic, fun e he => hPQ e (hP e he), hfailed⟩

theorem pure (s : ResourceState) : Needs P s (Pure.pure () : Step Unit) :=
  fun w => ⟨_, s, w, [], rfl, rfl, .refl w, by simp, by simp⟩

theorem change_bind {f : ResourceState → ResourceState} (hid : (f s).id = s.id)
    (h : Needs P (f s) m) : Needs P s (Step.change f >>= fun _ => m) := by
  intro w
  obtain ⟨result, s', w', es, hrun, hsame, hrest⟩ := h w
  exact ⟨result, s', w', es, hrun, hsame.trans hid, hrest⟩

theorem get {α : Type} {client : Client} {segments : List String} {decode : Decoder α}
    {f : α → ResourceState → ResourceState} (hid : ∀ x, (f x s).id = s.id) :
    Needs (·.Gets client segments) s
      (Step.call (client.get decode segments) >>= fun x => Step.change (f x)) := by
  intro w
  obtain ⟨es, hasked, -, -⟩ := client.get_asked segments w decode
  have hmissing : ∀ e ∈ es, e.Missing →
      (client.get decode segments w).1 = .error (.notFound e.request.url.pathText) :=
    fun e he hmiss => Client.get_missing hasked.traffic he hmiss
  simp only [run_bind, Step.call_run]
  rcases hget : client.get decode segments w with ⟨failure | x, w'⟩ <;> rw [hget] at hasked hmissing
  · refine ⟨_, s, w', es, rfl, rfl, hasked.traffic, hasked.request, fun e he hmiss => ?_⟩
    obtain rfl := Except.error.inj (hmissing e he hmiss)
    rfl
  · refine ⟨_, f x s, w', es, rfl, hid x, hasked.traffic, hasked.request, fun e he hmiss => ?_⟩
    cases hmissing e he hmiss

end Step.Needs

/-- The exchanges of a read: those about the object, whose path may be refused, and those besides it.
The read ends with a result and a state. -/
structure Searches (client : Client) (path : Except ProviderError (List String))
    (beside : Exchange → Prop) (w w' : World) (result : Except ProviderError Unit) (s' : ResourceState)
    (looks rest : List Exchange) : Prop where
  traffic : Traffic w (looks ++ rest) w'
  looked : ∀ e ∈ looks, ∃ segments, path = .ok segments ∧ e.Gets client segments
  asked : ∀ e ∈ rest, beside e
  /-- Nothing follows on an object that is missing. -/
  dropped : ∀ e ∈ looks, e.Missing → rest = [] ∧ result = .ok () ∧ s'.id = none
  kept : s'.id = none → ∃ e ∈ looks, e.Missing
  failed : ∀ e ∈ rest, e.Missing → result = .error (.notFound e.request.url.pathText)

namespace Searches

variable {client : Client} {beside : Exchange → Prop} {s : ResourceState} {id : String} {w : World}

theorem of_refused (hid : s.id = some id) (failure : ProviderError) :
    Searches client (.error failure) beside w w (.error failure) s [] [] where
  traffic := .refl w
  looked := by simp
  asked := by simp
  dropped := by simp
  kept := by simp [hid]
  failed := by simp

/-- An object is looked for, and then what is needed besides it unless it is missing. -/
theorem of_look {α : Type} (hid : s.id = some id) (decode : Decoder α) (segments : List String)
    {next : Option α → Step Unit} (hdrop : next none = Step.change (·.clearId))
    (hnext : ∀ x, Step.Needs beside s (next (some x))) :
    ∃ result s' w' looks rest,
      (Step.call (client.getOptional decode segments) >>= next) ⟨s, w⟩ = (result, ⟨s', w'⟩) ∧
      Searches client (.ok segments) beside w w' result s' looks rest := by
  obtain ⟨looks, hasked, -, hnone⟩ := client.getOptional_asked segments w decode
  have hlooked : ∀ e ∈ looks, ∃ path,
      (Except.ok segments : Except ProviderError (List String)) = .ok path ∧ e.Gets client path :=
    fun e he => ⟨segments, rfl, hasked.request e he⟩
  have hmissing : ∀ e ∈ looks, e.Missing → (client.getOptional decode segments w).1 = .ok none :=
    fun e he hmiss => Client.getOptional_missing hasked.traffic he hmiss
  simp only [run_bind, Step.call_run]
  rcases hget : client.getOptional decode segments w with ⟨failure | _ | x, w₁⟩ <;>
    rw [hget] at hasked hmissing hnone
  · refine ⟨_, s, w₁, looks, [], rfl, by simpa using hasked.traffic, hlooked, by simp, ?_, ?_, by simp⟩
    · intro e he hmiss
      cases hmissing e he hmiss
    · simp [hid]
  · obtain ⟨e, he, hmiss⟩ := hnone.mp rfl
    refine ⟨_, s.clearId, w₁, looks, [], congrFun hdrop _, by simpa using hasked.traffic, hlooked,
      by simp, ?_, ?_, by simp⟩
    · intro _ _ _
      exact ⟨rfl, rfl, rfl⟩
    · intro _
      exact ⟨e, List.mem_of_getLast? he, hmiss⟩
  · obtain ⟨result, s', w', rest, hrun, hsame, htraffic, hasks, hfailed⟩ := hnext x w₁
    refine ⟨result, s', w', looks, rest, hrun, hasked.traffic.trans htraffic, hlooked, hasks, ?_, ?_,
      hfailed⟩
    · intro e he hmiss
      cases hmissing e he hmiss
    · simp [hsame, hid]

end Searches

/-! ## The types -/

namespace Lifecycle

variable {α : Type} {l : Lifecycle α} {conn : Connection} {s : ResourceState} {id : String}

theorem record_needs (h : l.Writing) (c : Collection) (object : α) :
    Step.Needs (fun e => ∃ a, l.attachment = some a ∧
        e.Gets conn.client (c.object (l.identity object) ++ [a.name])) s
      (l.record conn c object) := by
  have hsame : (l.writeTo object s).id = s.id := by
    rw [h.writeTo_frame]
  refine Step.Needs.change_bind hsame ?_
  rw [attach]
  cases hattachment : l.attachment with
  | none => exact .pure _
  | some a =>
    cases havailable : a.available object with
    | false =>
      simp only [havailable, Bool.false_eq_true, if_false]
      exact .pure _
    | true =>
      simp only [havailable, if_true]
      have hset (text : String) (s : ResourceState) : (s.set a.name (.string text)).id = s.id := rfl
      exact (Step.Needs.get (hset · _)).mono fun e he => ⟨a, rfl, he⟩

theorem read_searches (h : l.Writing) (hid : s.id = some id) {beside : Exchange → Prop}
    (hbeside : ∀ c object a e, l.place.collection s = .ok c → l.attachment = some a →
      e.Gets conn.client (c.object (l.identity object) ++ [a.name]) → beside e) (w : World) :
    ∃ result s' w' looks rest, l.read conn ⟨s, w⟩ = (result, ⟨s', w'⟩) ∧
      Searches conn.client ((l.place.collection s).map (·.object id)) beside w w' result s'
        looks rest := by
  rw [read, run_bind, Step.ofState_run]
  simp only [ResourceState.requireId, hid]
  rw [run_bind, Step.ofState_run]
  cases hcollection : l.place.collection s with
  | error failure => exact ⟨_, s, w, [], [], rfl, .of_refused hid failure⟩
  | ok c =>
    refine Searches.of_look hid l.decoder (c.object id) rfl fun object => ?_
    refine (record_needs h c object).mono fun e he => ?_
    obtain ⟨a, hattachment, hgets⟩ := he
    exact hbeside c object a e hcollection hattachment hgets

end Lifecycle

namespace FirewallGroup

variable {conn : Connection} {s : ResourceState} {id : String}

theorem read_searches (hid : s.id = some id) (w : World) :
    ∃ result s' w' looks rest, read conn ⟨s, w⟩ = (result, ⟨s', w'⟩) ∧
      Searches conn.client (.ok (groups ++ [id])) (·.Gets conn.client (rules id)) w w' result s'
        looks rest := by
  rw [read, run_bind, Step.ofState_run]
  simp only [ResourceState.requireId, hid]
  refine Searches.of_look hid decoder (groups ++ [id]) rfl fun group => ?_
  exact .get fun rules => rfl

end FirewallGroup

namespace ResourceType

/-- The exchange asks for what a read needs besides the object under an identity: the rules of a firewall
group, or the credentials of a Kubernetes cluster. -/
def AsksBeside (t : ResourceType) (client : Client) (id : String) (e : Exchange) : Prop :=
  match t with
  | firewallGroup => e.Gets client (FirewallGroup.rules id)
  | kubernetesCluster =>
    ∃ cluster : KubernetesCluster, e.Gets client ["kubernetes", "clusters", cluster.id, "kubeconfig"]
  | _ => False

theorem asksBeside_of_gets {t : ResourceType} {l : Lifecycle t.Object} (h : t.lifecycle? = some l)
    {client : Client} {id : String} {s : ResourceState} {c : Collection} {object : t.Object}
    {a : Attachment t.Object} {e : Exchange} (hc : l.place.collection s = .ok c)
    (ha : l.attachment = some a) (he : e.Gets client (c.object (l.identity object) ++ [a.name])) :
    t.AsksBeside client id e := by
  cases t <;> cases h
  case kubernetesCluster =>
    obtain rfl := Option.some.inj ha
    obtain rfl := Except.ok.inj hc
    exact ⟨object, he⟩
  all_goals cases ha

theorem read_searches (t : ResourceType) (conn : Connection) {s : ResourceState} {id : String}
    (hid : s.id = some id) (w : World) :
    ∃ result s' w' looks rest, t.resource.read conn ⟨s, w⟩ = (result, ⟨s', w'⟩) ∧
      Searches conn.client (t.objectPath id s) (t.AsksBeside conn.client id) w w' result s'
        looks rest := by
  cases hlife : t.lifecycle? with
  | some l =>
    obtain ⟨hwriting⟩ := writing hlife
    rw [resource_of_lifecycle? hlife, objectPath, hlife]
    exact Lifecycle.read_searches hwriting hid (fun c object a e => asksBeside_of_gets hlife) w
  | none =>
    rw [objectPath, hlife]
    cases t with
    | firewallGroup => exact FirewallGroup.read_searches hid w
    | _ => cases hlife

end ResourceType

/-! ## The server -/

namespace Server

variable {env : Environment} {server : Server} {conn : Connection} {t : ResourceType}
  {current : Json} {id : String}

/-- If a look at the object says that it is missing, a read returns no state and reports nothing. If what
is needed besides it is missing, a read reports that and returns the state as it was sent. -/
theorem read_missing (hconn : server.connection = some conn)
    (hid : (ResourceState.ofJson current).id = some id) (w : World) :
    (∃ failure, t.resource.prepared (ResourceState.ofJson current) = .error failure ∧
        server.run env (.read t current) w = (.error failure, server, w)) ∨
      ∃ s o w' looks rest, t.resource.prepared (ResourceState.ofJson current) = .ok s ∧
        server.run env (.read t current) w = (.ok (Outcome.toJson o), server, w') ∧
        Traffic w (looks ++ rest) w' ∧
        (∀ e ∈ looks, ∃ segments, t.objectPath id s = .ok segments ∧ e.Gets conn.client segments) ∧
        (∀ e ∈ rest, t.AsksBeside conn.client id e) ∧
        (o.newState = none ↔ ∃ e ∈ looks, ∃ r, e.reply = .answer r ∧ r.status = 404) ∧
        (∀ e ∈ looks, (∃ r, e.reply = .answer r ∧ r.status = 404) →
          rest = [] ∧ o.newState = none ∧ o.diagnostics = []) ∧
        ∀ e ∈ rest, (∃ r, e.reply = .answer r ∧ r.status = 404) →
          o.newState = some current ∧
            o.diagnostics = [.ofFailure (.notFound e.request.url.pathText)] := by
  rw [run_read hconn]
  simp only [← Exchange.missing_iff]
  cases hs : t.resource.prepared (ResourceState.ofJson current) with
  | error failure =>
    left
    have hexisting : t.resource.preparedExisting (ResourceState.ofJson current) = .error failure := by
      simp only [Resource.preparedExisting, hs, bind, Except.bind]
    simp only [Resource.refreshed, hexisting]
    exact ⟨failure, rfl, rfl⟩
  | ok s =>
    right
    obtain ⟨hexisting, hsid⟩ := Resource.preparedExisting_ok hid hs
    obtain ⟨result, s', w', looks, rest, hread, h⟩ := t.read_searches conn hsid w
    simp only [Resource.refreshed, hexisting, Resource.look, hread]
    rcases result with failure | ⟨⟩
    · refine ⟨s, _, w', looks, rest, rfl, rfl, h.traffic, h.looked, h.asked, ?_, ?_, ?_⟩
      · simp only [reduceCtorEq, false_iff, not_exists, not_and]
        intro e he hmiss
        cases (h.dropped e he hmiss).2.1
      · intro e he hmiss
        cases (h.dropped e he hmiss).2.1
      · intro e he hmiss
        obtain rfl := Except.error.inj (h.failed e he hmiss)
        exact ⟨rfl, rfl⟩
    · have hstate : s'.toJson? = none ↔ s'.id = none := by simp [ResourceState.toJson?]
      refine ⟨s, _, w', looks, rest, rfl, rfl, h.traffic, h.looked, h.asked, ?_, ?_, ?_⟩
      · rw [hstate]
        refine ⟨h.kept, ?_⟩
        rintro ⟨e, he, hmiss⟩
        exact (h.dropped e he hmiss).2.2
      · intro e he hmiss
        obtain ⟨hrest, -, hnone⟩ := h.dropped e he hmiss
        exact ⟨hrest, hstate.mpr hnone, rfl⟩
      · intro e he hmiss
        cases h.failed e he hmiss

/-- A group is found, and its rules are missing a moment later. The group stays in the state. -/
theorem read_missing_rules :
    let server : Server := ⟨some .usual, false⟩
    let env : Environment := ⟨[], none, fun _ => .missing⟩
    let group := "\x7b\"id\":\"g\",\"description\":\"web\"\x7d"
    let w : World := ⟨⟨true, [(.answer ⟨200, group, none⟩, 1), (.answer ⟨404, "", none⟩, 1)]⟩, 0, []⟩
    let current := Json.object [("id", .string "g"), ("description", .string "web")]
    ∃ (o : Outcome) (w' : World) (e : Exchange), server.run env (.read .firewallGroup current) w =
        (.ok (Outcome.toJson o), server, w') ∧
      e.Gets Connection.usual.client (FirewallGroup.rules "g") ∧ e.Missing ∧
      o.newState = some current ∧
      o.diagnostics = [.ofFailure (.notFound e.request.url.pathText)] := by
  intro server env group w current
  have hstate : ((((server.run env (.read .firewallGroup current) w).1.toOption.bind
      Json.asObject?).bind (Keyed.get? "new_state")).any Json.isNull) = false := by decide +kernel
  have hlog : (server.run env (.read .firewallGroup current) w).2.2.log.length = 2 := by
    decide +kernel
  rcases @read_missing env server .usual .firewallGroup current "g" rfl rfl w with
    ⟨failure, -, hrun⟩ | ⟨s, o, w', looks, rest, -, hrun, htraffic, -, hasked, hgone, -, hfailed⟩
  · have hok : (server.run env (.read .firewallGroup current) w).1.toOption.isSome = true := by
      decide +kernel
    rw [hrun] at hok
    cases hok
  · rw [hrun] at hstate hlog
    -- Two replies are used up, and the second one says that something is missing.
    have hlength : (looks ++ rest).length = 2 := by
      have hlog' := congrArg List.length htraffic.log
      rw [hlog] at hlog'
      simpa [w] using hlog'.symm
    have hreplies := htraffic.replies
    rw [hlength] at hreplies
    have hmap : (looks ++ rest).map (·.reply) = [.answer ⟨200, group, none⟩, .answer ⟨404, "", none⟩] :=
      (congrArg Prod.fst hreplies).symm
    obtain ⟨e, he, hreply⟩ : ∃ e ∈ looks ++ rest, e.reply = .answer ⟨404, "", none⟩ := by
      rw [← List.mem_map, hmap]
      simp
    have hmissing : ∃ r, e.reply = .answer r ∧ r.status = 404 := ⟨_, hreply, rfl⟩
    rcases List.mem_append.mp he with he | he
    · have hnone := hgone.mpr ⟨e, he, hmissing⟩
      rw [Outcome.toJson, hnone] at hstate
      cases hstate
    · obtain ⟨hkept, hreported⟩ := hfailed e he hmissing
      exact ⟨o, w', e, hrun, hasked e he, e.missing_iff.mpr hmissing, hkept, hreported⟩

end Server

end CloudProvider
