import CloudProvider.Proofs.Host.Creation
import CloudProvider.Proofs.Host.Stability

/-!
# Reading is faithful or leaves the state alone

A read looks at the object of a resource first. The state is gone if and only if the last answer to
that says that the object is missing, and a failure leaves the state as it was sent.

* `Looks`: a read in two parts, the looks at the object and the rest.
* `ResourceType.objectPath`, `ResourceType.read_looks`: the looks of every type.
* `Server.read_faithful`: what a read returns.
-/

namespace CloudProvider
set_option autoImplicit false

/-- The exchanges of a read that ends with a result and a state: looks at the object, whose path may
be refused, and what is asked for after them. -/
structure Looks (conn : Connection) (path : Except ProviderError (List String)) (w w' : World)
    (result : Except ProviderError Unit) (s' : ResourceState) (looks rest : List Exchange) : Prop where
  traffic : Traffic w (looks ++ rest) w'
  looked : ∀ e ∈ looks, ∃ segments, path = .ok segments ∧ e.Gets conn.client segments
  sent : looks ≠ [] ↔ ∃ segments, path = .ok segments ∧ conn.client.Reaches .get segments none w
  reads : ∀ e ∈ rest, e.Reads
  refused : ∀ failure, path = .error failure → result = .error failure
  gone : (∃ e, looks.getLast? = some e ∧ e.Missing) ↔ result = .ok () ∧ s'.id = none

namespace Looks

variable {conn : Connection} {w w' : World} {s' : ResourceState}

theorem of_refused (w : World) (s' : ResourceState) (failure : ProviderError) :
    Looks conn (.error failure) w w (.error failure) s' [] [] where
  traffic := .refl w
  looked := by simp
  sent := by simp
  reads := by simp
  refused _ h := congrArg Except.error (Except.error.inj h)
  gone := by simp

theorem of_asked {segments : List String} {looks rest : List Exchange} {w₁ : World}
    {result : Except ProviderError Unit} (hasked : conn.client.Asked .get segments none w looks w₁)
    (htraffic : Traffic w₁ rest w') (hreads : ∀ e ∈ rest, e.Reads)
    (hgone : (∃ e, looks.getLast? = some e ∧ e.Missing) ↔ result = .ok () ∧ s'.id = none) :
    Looks conn (.ok segments) w w' result s' looks rest where
  traffic := hasked.traffic.trans htraffic
  looked e he := ⟨segments, rfl, hasked.request e he⟩
  sent := by simp [hasked.sent]
  reads := hreads
  refused := by simp
  gone := hgone

end Looks

/-! ## The types -/

namespace Lifecycle

variable {α : Type} {l : Lifecycle α} {conn : Connection} {s : ResourceState} {id : String}

theorem read_looks (h : l.Writing) (hid : s.id = some id) (w : World) :
    ∃ result s' w' looks rest, l.read conn ⟨s, w⟩ = (result, ⟨s', w'⟩) ∧
      Looks conn ((l.place.collection s).map (·.object id)) w w' result s' looks rest := by
  rcases l.read_run conn s w with ⟨failure, hrun, hnone | hrefused⟩ |
    ⟨id', c, looks, w₁, hid', hcollection, hasked, hcases⟩
  · cases hid.symm.trans hnone
  · rw [hrefused]
    exact ⟨_, _, _, [], [], hrun, .of_refused w s failure⟩
  · obtain rfl := Option.some.inj (hid.symm.trans hid')
    rw [hcollection]
    rcases hcases with ⟨failure, hrun, hnot⟩ | ⟨hrun, hmissing⟩ | ⟨e, x, he, hshows, hrun⟩
    · refine ⟨_, _, _, looks, [], hrun, .of_asked hasked (.refl w₁) (by simp) ?_⟩
      simpa using hnot
    · refine ⟨_, _, _, looks, [], hrun, .of_asked hasked (.refl w₁) (by simp) ?_⟩
      simpa [ResourceState.clearId] using hmissing
    · obtain ⟨result, s', w', rest, hrecord, hsame, htraffic, hbeside, -⟩ :=
        record_outcome conn c h x s w₁
      refine ⟨_, _, _, looks, rest, hrun.trans hrecord, .of_asked hasked htraffic ?_ ?_⟩
      · intro e he
        obtain ⟨a, -, hget⟩ := hbeside e he
        exact congrArg Request.method hget
      · -- The object was shown, and recording it keeps the identity.
        simpa [he, hsame, hid] using hshows.not_missing

end Lifecycle

namespace FirewallGroup

variable {conn : Connection} {s : ResourceState} {id : String}

theorem read_looks (hid : s.id = some id) (w : World) :
    ∃ result s' w' looks rest, read conn ⟨s, w⟩ = (result, ⟨s', w'⟩) ∧
      Looks conn (.ok (groups ++ [id])) w w' result s' looks rest := by
  obtain ⟨looks, hasked, hok, hmissing⟩ := conn.client.getOptional_asked (groups ++ [id]) w decoder
  simp only [read, run_bind, Step.ofState_run, ResourceState.requireId, hid]
  cases hget : (conn.client.getOptional decoder (groups ++ [id]) w).1 with
  | error e =>
    rw [Step.call_error ⟨s, w⟩ hget]
    refine ⟨_, _, _, looks, [], rfl, .of_asked hasked (.refl _) (by simp) ?_⟩
    simp [← hmissing, hget]
  | ok found =>
    rw [Step.call_ok ⟨s, w⟩ hget]
    generalize (conn.client.getOptional decoder (groups ++ [id]) w).2 = w₁ at hasked ⊢
    cases found with
    | none =>
      refine ⟨_, _, _, looks, [], rfl, .of_asked hasked (.refl w₁) (by simp) ?_⟩
      simp [← hmissing, hget, ResourceState.clearId]
    | some group =>
      -- From here on the rules are read, and neither they nor a failure touch the identity.
      obtain ⟨rest, w', htraffic, hreads, hstate, -⟩ := listRules_run conn id s w₁
      simp only [run_bind]
      rcases hrules : listRules conn id ⟨s, w₁⟩ with ⟨e | rules, work⟩ <;> rw [hrules] at hstate
      · obtain rfl : work = ⟨s, w'⟩ := hstate
        refine ⟨_, _, _, looks, rest, rfl, .of_asked hasked htraffic hreads ?_⟩
        simp [← hmissing, hget]
      · obtain rfl : work = ⟨s, w'⟩ := hstate
        refine ⟨_, _, _, looks, rest, rfl, .of_asked hasked htraffic hreads ?_⟩
        simp [← hmissing, hget, writeTo, ResourceState.set, hid]

end FirewallGroup

namespace ResourceType

/-- Where the object of a resource is, unless an attribute that says so is missing. -/
def objectPath (t : ResourceType) (id : String) (s : ResourceState) :
    Except ProviderError (List String) :=
  match t.lifecycle? with
  | some l => (l.place.collection s).map (·.object id)
  | none => .ok (FirewallGroup.groups ++ [id])

theorem read_looks (t : ResourceType) (conn : Connection) {s : ResourceState} {id : String}
    (hid : s.id = some id) (w : World) :
    ∃ result s' w' looks rest, t.resource.read conn ⟨s, w⟩ = (result, ⟨s', w'⟩) ∧
      Looks conn (t.objectPath id s) w w' result s' looks rest := by
  cases hlife : t.lifecycle? with
  | some l =>
    obtain ⟨hwriting⟩ := writing hlife
    rw [resource_of_lifecycle? hlife, objectPath, hlife]
    exact Lifecycle.read_looks hwriting hid w
  | none =>
    rw [objectPath, hlife]
    cases t with
    | firewallGroup => exact FirewallGroup.read_looks hid w
    | _ => cases hlife

end ResourceType

/-! ## The server -/

theorem Resource.preparedExisting_ok {r : Resource} {s s' : ResourceState} {id : String}
    (hid : s.id = some id) (h : r.prepared s = .ok s') :
    r.preparedExisting s = .ok s' ∧ s'.id = some id := by
  have hsame : s'.id = some id := by
    simp only [prepared, ResourceState.prepare, bind, Except.bind] at h
    split at h
    · cases h
    · obtain rfl := Except.ok.inj h
      exact hid
  refine ⟨?_, hsame⟩
  simp only [preparedExisting, h, bind, Except.bind, ResourceState.requireId, hsame]
  rfl

/-- A connection to the usual place of the API. -/
def Connection.usual : Connection where
  client :=
    ⟨⟨"https", some ⟨[], "api.fleetform.cloud".toList, none⟩, .segments [['v', '1']], none, none⟩,
      "secret", none, .default⟩
  region := none
  pollInterval := .ofSeconds 10

namespace Server

variable {env : Environment} {server : Server} {conn : Connection} {t : ResourceType}

theorem run_read (hconn : server.connection = some conn) (current : Json) (w : World) :
    server.run env (.read t current) w =
      (Outcome.toJson <$> (t.resource.refreshed conn current w).1, server,
        (t.resource.refreshed conn current w).2) := by
  unfold run connected
  rw [hconn]
  rfl

theorem run_create (hconn : server.connection = some conn) (planned : Json) (w : World) :
    server.run env (.create t planned) w =
      (Outcome.toJson <$> (t.resource.created conn planned w).1, server,
        (t.resource.created conn planned w).2) := by
  unfold run connected
  rw [hconn]
  rfl

variable {current : Json} {s : ResourceState} {id : String}

/-- A read returns no state if and only if the last look at the object says that it is missing. If it
fails it returns the state as it was sent and one error. Otherwise nothing is reported, and a state has
the identity that was sent and what the answers show. -/
theorem read_faithful (hconn : server.connection = some conn)
    (hid : (ResourceState.ofJson current).id = some id)
    (hs : t.resource.prepared (ResourceState.ofJson current) = .ok s) (w : World) :
    ∃ o result s' w' looks rest,
      server.run env (.read t current) w = (.ok (Outcome.toJson o), server, w') ∧
      t.resource.read conn ⟨s, w⟩ = (result, ⟨s', w'⟩) ∧
      Looks conn (t.objectPath id s) w w' result s' looks rest ∧
      (o.newState = none ↔
        ∃ e, looks.getLast? = some e ∧ ∃ r, e.reply = .answer r ∧ r.status = 404) ∧
      (∀ failure, result = .error failure →
        o.newState = some current ∧ ∃ d, o.diagnostics = [d] ∧ d.severity = .error) ∧
      (result = .ok () → o.diagnostics = [] ∧ (o.newState = none ∨
        o.value? ResourceState.idKey = some (.string id) ∧
          ∃ v, o.newState = (t.portrait.write v s).toJson? ∧ t.portrait.ShownIn v (looks ++ rest))) := by
  obtain ⟨hexisting, hsid⟩ := Resource.preparedExisting_ok hid hs
  simp only [← Exchange.missing_iff]
  obtain ⟨result, s', w', looks, rest, hrun, hlooks⟩ := t.read_looks conn hsid w
  have hrefreshed : t.resource.refreshed conn current w =
      (.ok (t.resource.look conn current s w).1, (t.resource.look conn current s w).2) := by
    simp only [Resource.refreshed, hexisting]
  rw [run_read hconn, hrefreshed]
  cases result with
  | error failure =>
    have hlook : t.resource.look conn current s w =
        (⟨some current, [.ofFailure failure]⟩, w') := by
      simp only [Resource.look, hrun]
    rw [hlook]
    refine ⟨_, _, s', w', looks, rest, rfl, hrun, hlooks, ?_, ?_, by simp⟩
    · simp [hlooks.gone]
    · intro _ _
      exact ⟨rfl, _, rfl, rfl⟩
  | ok =>
    have hlook : t.resource.look conn current s w = (⟨s'.toJson?, []⟩, w') := by
      simp only [Resource.look, hrun]
    rw [hlook]
    refine ⟨_, _, s', w', looks, rest, rfl, hrun, hlooks, ?_, by simp, ?_⟩
    · simp [hlooks.gone, ResourceState.toJson?]
    · intro _
      refine ⟨rfl, ?_⟩
      rcases t.portrait.read_ends conn s w _ hrun with hnone | ⟨v, es, hwritten, htraffic, hshown⟩
      · left
        simp [ResourceState.toJson?, show s'.id = none from hnone]
      · right
        -- What the state was made of is shown in the same exchanges as the look at the object.
        obtain rfl := htraffic.unique hlooks.traffic
        obtain rfl : s' = t.portrait.write v s := hwritten
        have hkept : (t.portrait.write v s).id = some id := by
          rw [t.portrait.frame]
          exact hsid
        exact ⟨Outcome.value?_id hkept _, v, rfl, hshown⟩

/-- A cluster is there, but not what is kept beside it, so that its state stays as it was sent. -/
theorem read_faithful_without_credentials :
    let server : Server := ⟨some .usual, false⟩
    let env : Environment := ⟨[], none, fun _ => .missing⟩
    let cluster := "\x7b\"id\":\"c\",\"name\":\"prod\",\"version\":\"1.30\",\"region\":\"eu\"," ++
      "\"status\":\"active\"\x7d"
    let w : World := ⟨⟨true, [(.answer ⟨200, cluster, none⟩, 1)]⟩, 0, []⟩
    let current := Json.object [("id", .string "c"), ("name", .string "production")]
    ∃ o w', server.run env (.read .kubernetesCluster current) w =
        (.ok (Outcome.toJson o), server, w') ∧
      o.newState = some current ∧ ∃ d, o.diagnostics = [d] ∧ d.severity = .error := by
  intro server env cluster w current
  have hfails : (match ResourceType.kubernetesCluster.resource.prepared (.ofJson current) with
      | .ok s => ((KubernetesCluster.lifecycle.read .usual ⟨s, w⟩).1 matches .error _)
      | .error _ => false) = true := by
    decide +kernel
  cases hs : ResourceType.kubernetesCluster.resource.prepared (.ofJson current) with
  | error failure =>
    rw [hs] at hfails
    cases hfails
  | ok s =>
    rw [hs] at hfails
    obtain ⟨o, result, s', w', looks, rest, hserved, hread, -, -, hfailed, -⟩ :=
      @read_faithful env server .usual .kubernetesCluster current s "c" rfl rfl hs w
    cases result with
    | ok =>
      have hok : (KubernetesCluster.lifecycle.read .usual ⟨s, w⟩).1 = .ok () :=
        congrArg Prod.fst hread
      simp [hok] at hfails
    | error failure =>
      obtain ⟨hstate, hone⟩ := hfailed failure rfl
      exact ⟨o, w', hserved, hstate, hone⟩

end Server

end CloudProvider
