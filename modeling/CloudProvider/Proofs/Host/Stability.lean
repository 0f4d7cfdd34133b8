import CloudProvider.Host.Server
import CloudProvider.Proofs.Json.Decode
import CloudProvider.Proofs.Resource.FirewallGroup

/-!
# Plans without changes

A state that an operation returned, sent back as prior and as planned state, is stable: the update only
reads, and if it finds what the state was made of, it returns the state.

* `ResourceType.portrait`: what is seen of a resource of each type.
* `Portrait.BuiltFrom`: the state is what was seen, written into a sound state.
* `Portrait.created_builtFrom`, …: the states that the operations return.
* `Server.update_stable`: sending such a state back.
-/

namespace CloudProvider
set_option autoImplicit false

namespace ResourceType

/-! ## All types -/

variable {s s' : ResourceState} {schema : Schema} {defaults : Timeouts} {id : String}

theorem adoptVerbatim_sound (h : adoptVerbatim id s = .ok s') (hs : s.Sound schema defaults) :
    s'.Sound schema defaults := by
  obtain rfl := Except.ok.inj h
  exact hs.setId id

theorem adoptInside_ok_iff {form key : String} :
    (do
      let (parent, child) ← splitImportId form id
      return (s.set key (.string parent)).setId child : Except ProviderError ResourceState) = .ok s' ↔
      ∃ parent child, splitImportId form id = .ok (parent, child) ∧
        (s.set key (.string parent)).setId child = s' := by
  rw [bind_ok]
  constructor
  · rintro ⟨⟨parent, child⟩, hsplit, hs⟩
    exact ⟨parent, child, hsplit, Except.ok.inj hs⟩
  · rintro ⟨parent, child, hsplit, rfl⟩
    exact ⟨(parent, child), hsplit, rfl⟩

theorem adoptInside_sound {form key : String} (hplain : plainAll schema.attributes = true)
    (hid : key ≠ ResourceState.idKey) (htimeouts : key ≠ Schema.timeoutsName)
    (h : (do
      let (parent, child) ← splitImportId form id
      return (s.set key (.string parent)).setId child : Except ProviderError ResourceState) = .ok s')
    (hs : s.Sound schema defaults) : s'.Sound schema defaults := by
  obtain ⟨parent, child, -, rfl⟩ := adoptInside_ok_iff.mp h
  exact (hs.set hplain hid htimeouts (fitsAt_of_isScalar _ _ rfl)).setId child

/-- What is seen of a resource of each type. -/
def portrait : (t : ResourceType) → Portrait t.resource
  | dnsDomain => DnsDomain.lifecycle.portrait DnsDomain.writing fun _ _ _ h hs => by
      obtain rfl := Except.ok.inj h
      exact hs.setId _
  | dnsRecord => DnsRecord.lifecycle.portrait DnsRecord.writing fun _ _ _ h hs =>
      adoptInside_sound DnsRecord.writing.plain (by decide) (by decide) h hs
  | emailIdentity => EmailIdentity.lifecycle.portrait EmailIdentity.writing fun id s s' h hs => by
      change EmailIdentity.adopt id s = .ok s' at h
      rw [EmailIdentity.adopt] at h
      split at h
      · cases h
      · obtain rfl := Except.ok.inj h
        exact hs.setId _
  | firewallGroup => FirewallGroup.portrait
  | kubernetesCluster => KubernetesCluster.lifecycle.portrait KubernetesCluster.writing
      fun _ _ _ => adoptVerbatim_sound
  | nodePool => NodePool.lifecycle.portrait NodePool.writing fun _ _ _ h hs =>
      adoptInside_sound NodePool.writing.plain (by decide) (by decide) h hs
  | loadBalancer => LoadBalancer.lifecycle.portrait LoadBalancer.writing
      fun _ _ _ => adoptVerbatim_sound
  | nasInstance => NasInstance.lifecycle.portrait NasInstance.writing
      fun _ _ _ => adoptVerbatim_sound
  | privateLan => PrivateLan.lifecycle.portrait PrivateLan.writing
      fun _ _ _ => adoptVerbatim_sound

end ResourceType

/-! ## States that operations return -/

namespace Portrait

variable {r : Resource} (p : Portrait r) {conn : Connection} {w w' : World}
  {S planned prior current : Json}

/-- The state is what is seen in the view, written into a sound state. -/
def BuiltFrom (v : p.View) (S : Json) : Prop :=
  ∃ s : ResourceState, s.Sound r.schema r.timeouts ∧ (p.write v s).toJson? = some S

include p in
theorem sound_of_prepared {s s' : ResourceState} (hs : s.values.get? ResourceState.idKey = none)
    (h : r.prepared s = .ok s') : s'.Sound r.schema r.timeouts :=
  (ResourceState.sound_of_prepare p.plain p.noIdAttribute hs h).1

theorem ofResult_eq_nil {result : Except ProviderError Unit} (h : Diagnostics.ofResult result = []) :
    result = .ok () := by
  cases result with
  | ok => rfl
  | error e => cases h

theorem created_builtFrom (h : r.created conn planned w = (.ok ⟨some S, []⟩, w')) :
    ∃ v es, p.BuiltFrom v S ∧ Traffic w es w' ∧ p.ShownIn v es := by
  unfold Resource.created at h
  split at h
  · cases h
  · next s hs =>
    have hsound := p.sound_of_prepared (ResourceState.ofJson_noIdentity planned) hs
    rcases hrun : r.create conn ⟨s, w⟩ with ⟨result, work⟩
    simp only [hrun] at h
    obtain ⟨hout, rfl⟩ := Prod.mk.inj h
    obtain ⟨hstate, hresult⟩ := Outcome.mk.inj (Except.ok.inj hout)
    rw [ofResult_eq_nil hresult] at hrun
    rcases p.create_ends conn s w work hrun with hgone | ⟨v, id, es, hwritten, htraffic, hshown⟩
    · simp [ResourceState.toJson?, hgone] at hstate
    · exact ⟨v, es, ⟨s.setId id, hsound.setId id, hwritten ▸ hstate⟩, htraffic, hshown⟩

theorem look_builtFrom {s : ResourceState} {sent : Json} (hsound : s.Sound r.schema r.timeouts)
    (h : r.look conn sent s w = (⟨some S, []⟩, w')) :
    ∃ v es, p.BuiltFrom v S ∧ Traffic w es w' ∧ p.ShownIn v es := by
  unfold Resource.look at h
  split at h
  · next work hrun =>
    simp only [Prod.mk.injEq, Outcome.mk.injEq, and_true] at h
    obtain ⟨hstate, rfl⟩ := h
    rcases p.read_ends conn s w work hrun with hgone | ⟨v, es, hwritten, htraffic, hshown⟩
    · simp [ResourceState.toJson?, hgone] at hstate
    · exact ⟨v, es, ⟨s, hsound, hwritten ▸ hstate⟩, htraffic, hshown⟩
  · simp at h

theorem prepared_of_existing {s s' : ResourceState} (h : r.preparedExisting s = .ok s') :
    r.prepared s = .ok s' := by
  simp only [Resource.preparedExisting, bind, Except.bind] at h
  split at h
  · cases h
  · next s₁ hs =>
    split at h
    · cases h
    · obtain rfl := Except.ok.inj h
      exact hs

theorem refreshed_builtFrom (h : r.refreshed conn current w = (.ok ⟨some S, []⟩, w')) :
    ∃ v es, p.BuiltFrom v S ∧ Traffic w es w' ∧ p.ShownIn v es := by
  unfold Resource.refreshed at h
  split at h
  · cases h
  · next s hs =>
    have hsound := p.sound_of_prepared (ResourceState.ofJson_noIdentity current)
      (prepared_of_existing hs)
    rcases hrun : r.look conn current s w with ⟨outcome, w₁⟩
    simp only [hrun] at h
    obtain ⟨hout, rfl⟩ := Prod.mk.inj h
    obtain rfl := Except.ok.inj hout
    exact p.look_builtFrom hsound hrun

theorem updated_builtFrom (h : r.updated conn prior planned w = (.ok ⟨some S, []⟩, w')) :
    ∃ v es, p.BuiltFrom v S ∧ Traffic w es w' ∧ p.ShownIn v es := by
  unfold Resource.updated at h
  split at h
  · cases h
  · next s hs =>
    have hnoid : ((ResourceState.ofJson planned).withPrior prior).values.get?
        ResourceState.idKey = none := by
      rw [ResourceState.withPrior_values, ResourceState.ofJson_noIdentity]
    have hsound := p.sound_of_prepared hnoid (prepared_of_existing hs)
    -- After a failure there is a problem, so that only a success is left.
    split at h
    · next work hrun =>
      obtain ⟨hout, rfl⟩ := Prod.mk.inj h
      obtain ⟨hstate, -⟩ := Outcome.mk.inj (Except.ok.inj hout)
      rcases p.update_ends conn s w work hrun with hgone | ⟨v, es, hwritten, htraffic, hshown⟩
      · simp [ResourceState.toJson?, hgone] at hstate
      · exact ⟨v, es, ⟨s, hsound, hwritten ▸ hstate⟩, htraffic, hshown⟩
    · split at h
      · cases (Prod.mk.inj h).1
      · cases (Outcome.mk.inj (Except.ok.inj (Prod.mk.inj h).1)).2

theorem imported_builtFrom {type id : String}
    (h : r.imported conn type id w = (.ok ⟨some S, []⟩, w')) :
    ∃ v es, p.BuiltFrom v S ∧ Traffic w es w' ∧ p.ShownIn v es := by
  unfold Resource.imported at h
  split at h
  · cases h
  · next s hs =>
    have hsound := p.sound_of_prepared (ResourceState.ofJson_noIdentity _) hs
    split at h
    · cases (Outcome.mk.inj (Except.ok.inj (Prod.mk.inj h).1)).2
    · next s' hadopt =>
      have hsound' := p.adopt_sound id s s' hadopt hsound
      rcases hrun : r.read conn ⟨s', w⟩ with ⟨result, work⟩
      simp only [hrun] at h
      obtain ⟨hout, rfl⟩ := Prod.mk.inj h
      obtain ⟨hstate, hproblems⟩ := Outcome.mk.inj (Except.ok.inj hout)
      simp only [hstate, Option.isNone_some, Bool.false_and, Bool.false_eq_true, if_false]
        at hproblems
      rw [ofResult_eq_nil hproblems] at hrun
      rcases p.read_ends conn s' w work hrun with hgone | ⟨v, es, hwritten, htraffic, hshown⟩
      · simp [ResourceState.toJson?, hgone] at hstate
      · exact ⟨v, es, ⟨s', hsound', hwritten ▸ hstate⟩, htraffic, hshown⟩

/-! ## Sending a state back -/

variable {p} in
/-- A state that was returned is prepared as it is, and is no change of itself. -/
theorem BuiltFrom.prepared {v : p.View} (h : p.BuiltFrom v S) :
    ∃ s, r.preparedExisting ((ResourceState.ofJson S).withPrior S) = .ok s ∧
      s.values = s.prior ∧ s.toJson? = some S ∧
      ∀ v', p.BuiltFrom v' S → p.write v' s = s := by
  obtain ⟨s₀, hsound, hdoc⟩ := h
  have hwritten := p.sound v s₀ hsound
  refine ⟨⟨(p.write v s₀).id, (p.write v s₀).values, (p.write v s₀).values,
    (p.write v s₀).timeouts⟩, ?_, rfl, hdoc, ?_⟩
  · obtain ⟨id, hid, -⟩ := Option.map_eq_some_iff.mp hdoc
    have hprepare := hwritten.prepare_again hdoc
    rw [hid] at hprepare
    simp only [Resource.preparedExisting, Resource.prepared, hprepare, hid]
    rfl
  · rintro v' ⟨s₁, hsound', hdoc'⟩
    have hsame := (hwritten.ofJson_eq hdoc).symm.trans ((p.sound v' s₁ hsound').ofJson_eq hdoc')
    exact p.again v' s₁ _ (ResourceState.mk.inj hsame).2.1

variable (conn) in
include p in
theorem updated_after {s : ResourceState}
    (hs : r.preparedExisting ((ResourceState.ofJson planned).withPrior prior) = .ok s) (w : World) :
    ∃ es, Traffic (r.update conn ⟨s, w⟩).2.world es (r.updated conn prior planned w).2 ∧
      ∀ e ∈ es, e.Reads := by
  simp only [Resource.updated, hs]
  rcases r.update conn ⟨s, w⟩ with ⟨e | _, work⟩
  · dsimp only
    split
    · exact ⟨[], .refl _, by simp⟩
    · next before _ =>
      obtain ⟨es, htraffic, hreads⟩ := p.read_sends conn ⟨before, work.world⟩
      refine ⟨es, ?_, hreads⟩
      simp only [Resource.look]
      rcases hlook : r.read conn ⟨before, work.world⟩ with ⟨e' | _, work'⟩ <;>
        rw [hlook] at htraffic <;> exact htraffic
  · exact ⟨[], .refl _, by simp⟩

include p in
theorem updated_reads_of_read {s : ResourceState}
    (hs : r.preparedExisting ((ResourceState.ofJson planned).withPrior prior) = .ok s)
    (hread : r.update conn ⟨s, w⟩ = r.read conn ⟨s, w⟩) :
    ∃ es, Traffic w es (r.updated conn prior planned w).2 ∧ ∀ e ∈ es, e.Reads := by
  obtain ⟨es, htraffic, hreads⟩ := p.read_sends conn ⟨s, w⟩
  obtain ⟨es', htraffic', hreads'⟩ := p.updated_after conn hs w
  rw [hread] at htraffic'
  refine ⟨es ++ es', htraffic.trans htraffic', fun e he => ?_⟩
  exact (List.mem_append.mp he).elim (hreads e) (hreads' e)

variable {p}

/-- An update without changes reads, whatever the API answers. -/
theorem updated_reads {v : p.View} (h : p.BuiltFrom v S) (w : World) :
    ∃ es, Traffic w es (r.updated conn S S w).2 ∧ ∀ e ∈ es, e.Reads := by
  obtain ⟨s, hs, hsame, -, -⟩ := h.prepared
  exact p.updated_reads_of_read hs (p.update_same conn s w hsame)

/-- An update without changes returns the state if it sees what the state was made of. -/
theorem updated_same {v v' : p.View} (h : p.BuiltFrom v S) (h' : p.BuiltFrom v' S)
    {s : ResourceState} (hs : r.preparedExisting ((ResourceState.ofJson S).withPrior S) = .ok s)
    (hlook : p.look conn ⟨s, w⟩ = (.ok (some v'), ⟨s, w'⟩)) :
    r.updated conn S S w = (.ok ⟨some S, []⟩, w') := by
  obtain ⟨s₁, hs₁, hsame, hdoc, hagain⟩ := h.prepared
  obtain rfl := Except.ok.inj (hs.symm.trans hs₁)
  simp only [Resource.updated, hs, p.update_same conn s w hsame,
    p.read_of_look conn s w w' v' hlook, hagain v' h', hdoc]

end Portrait

/-! ## The server -/

/-- The command is to create, read, change or take over a resource of the type. -/
def Command.Yields (t : ResourceType) : Command → Prop
  | .create type _ | .read type _ | .update type _ _ | .adopt type _ => type = t
  | _ => False

theorem Outcome.quiet_of_toJson {o : Outcome} {S : Json} (h : o.toJson = Outcome.toJson ⟨some S, []⟩) :
    o.diagnostics = [] ∧ o.newState.getD .null = S := by
  simp only [toJson, Json.object.injEq, List.cons.injEq, Prod.mk.injEq, true_and, and_true,
    Diagnostics.toJson, Json.array.injEq, List.map_nil, List.map_eq_nil_iff] at h
  obtain ⟨hquiet, hstate⟩ := h
  refine ⟨hquiet, ?_⟩
  cases hnew : o.newState with
  | none => rwa [hnew] at hstate
  | some S' => rwa [hnew] at hstate

theorem Outcome.eq_of_toJson {o : Outcome} {S : Json} (hS : S ≠ .null)
    (h : o.toJson = Outcome.toJson ⟨some S, []⟩) : o = ⟨some S, []⟩ := by
  obtain ⟨hquiet, hstate⟩ := Outcome.quiet_of_toJson h
  obtain ⟨newState, diagnostics⟩ := o
  obtain rfl : diagnostics = [] := hquiet
  cases newState with
  | none => exact absurd hstate.symm hS
  | some S' =>
    obtain rfl : S' = S := hstate
    rfl

/-- The state in an answer without problems. -/
def stateOf? (answer : Except ProviderError Json) : Option Json :=
  match answer with
  | .ok (.object [("diagnostics", .array []), ("new_state", S)]) => some S
  | _ => none

theorem eq_of_stateOf? {answer : Except ProviderError Json} {S : Json} (h : stateOf? answer = some S) :
    answer = .ok (Outcome.toJson ⟨some S, []⟩) := by
  unfold stateOf? at h
  split at h
  · obtain rfl := Option.some.inj h
    rfl
  · cases h

theorem exists_of_stateOf? {answer : Except ProviderError Json}
    (h : ((stateOf? answer).bind Json.asObject?).isSome = true) :
    ∃ members, stateOf? answer = some (.object members) := by
  obtain ⟨members, hmembers⟩ := Option.isSome_iff_exists.mp h
  obtain ⟨S, hS, hmembers⟩ := Option.bind_eq_some_iff.mp hmembers
  exact ⟨members, hS.trans (congrArg some (Json.asObject?_eq_some.mp hmembers))⟩

theorem Outcome.eq_of_served {served : Except ProviderError Outcome × World} {server server' : Server}
    {w : World} {S : Json} (hS : S ≠ .null)
    (h : (Outcome.toJson <$> served.1, server, served.2) =
      (.ok (Outcome.toJson ⟨some S, []⟩), server', w)) : served = (.ok ⟨some S, []⟩, w) := by
  simp only [Prod.mk.injEq] at h
  obtain ⟨hresult, -, hworld⟩ := h
  refine Prod.ext ?_ hworld
  cases houtcome : served.1 with
  | error e =>
    rw [houtcome] at hresult
    cases hresult
  | ok o =>
    rw [houtcome] at hresult
    rw [eq_of_toJson hS (Except.ok.inj hresult)]

namespace Server

variable {env : Environment} {server server' : Server} {conn : Connection} {t : ResourceType}
  {c : Command} {w w₁ : World} {S : Json}

/-- The answer to a command that yields a resource comes from the connection in force. -/
theorem builtFrom_of_run (hconn : server.connection = some conn) (hc : c.Yields t) (hS : S ≠ .null)
    (h : server.run env c w = (.ok (Outcome.toJson ⟨some S, []⟩), server', w₁)) :
    ∃ v es, t.portrait.BuiltFrom v S ∧ Traffic w es w₁ ∧ t.portrait.ShownIn v es := by
  have hserve (work : Connection → Serving Outcome)
      (hrun : (Outcome.toJson <$> (server.connected work w).1, server, (server.connected work w).2) =
        (.ok (Outcome.toJson ⟨some S, []⟩), server', w₁)) :
      work conn w = (.ok ⟨some S, []⟩, w₁) := by
    simp only [connected, hconn] at hrun
    exact Outcome.eq_of_served hS hrun
  cases c with
  | create type planned =>
    obtain rfl : type = t := hc
    exact type.portrait.created_builtFrom (hserve _ h)
  | read type current =>
    obtain rfl : type = t := hc
    exact type.portrait.refreshed_builtFrom (hserve _ h)
  | update type prior planned =>
    obtain rfl : type = t := hc
    exact type.portrait.updated_builtFrom (hserve _ h)
  | adopt type id =>
    obtain rfl : type = t := hc
    exact type.portrait.imported_builtFrom (hserve _ h)
  | _ => cases hc

/-- A state that was returned without problems was made of what the API showed. Sent back as prior
and as planned state it is stable: the update only reads, and if it sees what the state was made of,
it returns the state without problems. -/
theorem update_stable (hconn : server.connection = some conn) (hc : c.Yields t) (hS : S ≠ .null)
    (h : server.run env c w = (.ok (Outcome.toJson ⟨some S, []⟩), server', w₁)) :
    ∃ v es s, t.portrait.BuiltFrom v S ∧ Traffic w es w₁ ∧ t.portrait.ShownIn v es ∧
      t.resource.preparedExisting ((ResourceState.ofJson S).withPrior S) = .ok s ∧
      (∀ w, ∃ es, Traffic w es (server.run env (.update t S S) w).2.2 ∧ ∀ e ∈ es, e.Reads) ∧
      ∀ v' w w', t.portrait.BuiltFrom v' S →
        t.portrait.look conn ⟨s, w⟩ = (.ok (some v'), ⟨s, w'⟩) →
        server.run env (.update t S S) w = (.ok (Outcome.toJson ⟨some S, []⟩), server, w') := by
  obtain ⟨v, es, hbuilt, htraffic, hshown⟩ := builtFrom_of_run hconn hc hS h
  obtain ⟨s, hs, -⟩ := hbuilt.prepared
  have hupdate (w : World) : server.run env (.update t S S) w =
      (Outcome.toJson <$> (t.resource.updated conn S S w).1, server,
        (t.resource.updated conn S S w).2) := by
    unfold run connected
    rw [hconn]
    rfl
  refine ⟨v, es, s, hbuilt, htraffic, hshown, hs, ?_, ?_⟩
  · intro w
    rw [hupdate]
    exact Portrait.updated_reads hbuilt w
  · intro v' w w' hbuilt' hlook
    rw [hupdate, Portrait.updated_same hbuilt hbuilt' hs hlook]
    rfl

/-- A group without rules that is read is stable. -/
theorem update_stable_read_group :
    let client : Client :=
      ⟨⟨"https", some ⟨[], "api.fleetform.cloud".toList, none⟩, .segments [['v', '1']], none, none⟩,
        "secret", none, .default⟩
    let conn : Connection := ⟨client, none, .ofSeconds 10⟩
    let server : Server := ⟨some conn, false⟩
    let env : Environment := ⟨[], none, fun _ => .missing⟩
    let group := "\x7b\"id\":\"g\"\x7d"
    let w : World :=
      ⟨⟨true, [(.answer ⟨200, group, none⟩, 1), (.answer ⟨200, "\x7b\x7d", none⟩, 1)]⟩, 0, []⟩
    let c := Command.read .firewallGroup (.object [("id", .string "g")])
    ∃ S, S ≠ .null ∧ (server.run env c w).1 = .ok (Outcome.toJson ⟨some S, []⟩) ∧
      ∀ w, ∃ es, Traffic w es (server.run env (.update .firewallGroup S S) w).2.2 ∧
        ∀ e ∈ es, e.Reads := by
  intro client conn server env group w c
  have hanswer : ((stateOf? (server.run env c w).1).bind Json.asObject?).isSome = true := by
    decide +kernel
  obtain ⟨members, hstate⟩ := exists_of_stateOf? hanswer
  have hresult := eq_of_stateOf? hstate
  refine ⟨.object members, by simp, hresult, ?_⟩
  rcases hrun : server.run env c w with ⟨result, server', w₁⟩
  rw [hrun] at hresult
  obtain rfl := hresult
  obtain ⟨-, -, -, -, -, -, -, hreads, -⟩ :=
    update_stable (c := c) rfl rfl (by simp) hrun
  exact hreads

end Server

end CloudProvider
