import CloudProvider.Proofs.Host.Fallback
import CloudProvider.Proofs.Resource.Channels.Kubernetes
import CloudProvider.Proofs.Resource.Channels.Names
import CloudProvider.Proofs.Resource.Channels.Network

/-!
# Updates that converge

An update against an API that stores what it is sent is followed by one with the same planned values. The
second one changes nothing, unless one of these values is stuck, and then it changes something each time.

* `ResourceType.Stuck`: the planned values that never arrive, type by type.
* `ResourceType.converges`: they are those that are stuck on the channels of the type.
* `Convergence.next_update`: what is left to change after an update.
* `Server.update_converges`: what the second update sends.
-/

namespace CloudProvider
open Json
set_option autoImplicit false

/-! ## Values that are stuck -/

namespace ResourceType

/-- A planned value never becomes equal to what is recorded, given the values before: an empty
description of a network, a window taken away from a cluster, and of records a priority taken away and
numbers that are too large. -/
def Stuck (t : ResourceType) (planned prior : Keyed Json) : Prop :=
  match t with
  | privateLan => planned.get? "description" = some (.string "")
  | kubernetesCluster =>
    Dropped (planned.get? "maintenance_window") (prior.get? "maintenance_window")
  | dnsRecord =>
    TooLarge (planned.get? "ttl") ∨ Dropped (planned.get? "priority") (prior.get? "priority") ∨
      TooLarge (planned.get? "priority")
  | _ => False

theorem converges {t : ResourceType} {l : Lifecycle t.Object} (hlife : t.lifecycle? = some l) :
    ∃ (h : l.Writing) (c : Convergence h),
      ∀ planned prior, c.Stuck planned prior ↔ t.Stuck planned prior := by
  have hnone {α : Type} {l : Lifecycle α} {h : l.Writing} {c : Convergence h}
      (hnever : ∀ ch ∈ c.channels, ∀ v w, ¬ ch.Stuck v w) (planned prior : Keyed Json) :
      c.Stuck planned prior ↔ False :=
    iff_of_false (Convergence.not_stuck hnever planned prior) id
  cases t <;> cases hlife
  · exact ⟨_, DnsDomain.convergence, hnone DnsDomain.never_stuck⟩
  · exact ⟨_, DnsRecord.convergence, DnsRecord.stuck_iff⟩
  · exact ⟨_, EmailIdentity.convergence, hnone EmailIdentity.never_stuck⟩
  · exact ⟨_, KubernetesCluster.convergence, KubernetesCluster.stuck_iff⟩
  · exact ⟨_, NodePool.convergence, hnone NodePool.never_stuck⟩
  · exact ⟨_, LoadBalancer.convergence, hnone LoadBalancer.never_stuck⟩
  · exact ⟨_, NasInstance.convergence, hnone NasInstance.never_stuck⟩
  · exact ⟨_, PrivateLan.convergence, PrivateLan.stuck_iff⟩

end ResourceType

/-! ## What is left to change -/

namespace Convergence

variable {α : Type} {l : Lifecycle α} {h : l.Writing} {c : Convergence h} {conn : Connection}
  {s : ResourceState} {w : World} {work : Work} {doc doc' : Keyed Json} {es : List Exchange}

/-- What is left to change after an update that was stored: nothing, or something that can be sent to the
same object. -/
theorem next_update (hprior : c.RecordedIn doc s.prior) (hplanned : Planned l.schema.attributes s.values)
    (hrun : l.update conn ⟨s, w⟩ = (.ok (), work)) (hid : work.state.id ≠ none)
    (htraffic : Traffic w es work.world) (hkeeps : l.Keeps doc es doc') {s' : ResourceState}
    (hsame : s'.id = s.id ∧ s'.values = s.values) (hprior' : s'.prior = work.state.values) :
    (¬ c.Stuck s.values s.prior → s'.hasChanges l.updatable = false) ∧
      (c.Stuck s.values s.prior → s'.hasChanges l.updatable = true ∧
        ∃ id place body, s'.id = some id ∧ l.place.collection s' = .ok place ∧
          l.changes s' = .ok body ∧
          ∀ w', w'.network.reachable = true →
            conn.client.Reaches .patch (place.object id) (some body) w') := by
  have hstored := Lifecycle.update_stored (c.object s) hrun hid htraffic hkeeps
  have hupdate : s.hasChanges l.updatable = false ∧ l.Recorded doc s work.state ∨
      ∃ body, l.Sends s body ∧ l.Recorded (Keyed.onto body doc) s work.state := by
    rcases hstored with hnone | ⟨hchanged, -, -, body, -, -, hchanges, hrecorded, -⟩
    · exact .inl hnone
    · exact .inr ⟨body, ⟨hplanned, hchanges, hchanged⟩, hrecorded⟩
  have hleft := hasChange_iff hprior hupdate hsame.2 fun ch _ => by rw [hprior']
  constructor
  · intro hnot
    refine Bool.eq_false_iff.mpr fun hchanged => ?_
    obtain ⟨ch, hch, hchange⟩ := (hasChanges_eq_true (c := c)).mp hchanged
    exact hnot ⟨ch, hch, (hleft ch hch).mp hchange⟩
  · rintro ⟨ch, hch, hstuck⟩
    refine ⟨hasChanges_eq_true.mpr ⟨ch, hch, (hleft ch hch).mpr hstuck⟩, ?_⟩
    rcases hstored with ⟨hunchanged, -⟩ | ⟨-, id, place, body, hsid, hplace, hchanges, -, hreaches⟩
    · -- A value that is stuck was a change.
      obtain ⟨m₀, x₀, -, -, hentries⟩ := hprior
      have hnot : s.hasChange ch.key = false := by
        refine Bool.eq_false_iff.mpr fun hchange => ?_
        cases hunchanged.symm.trans (hasChanges_eq_true.mpr ⟨ch, hch, hchange⟩)
      exact absurd hstuck (Channel.not_stuck (hentries ch hch) hnot)
    · obtain ⟨body', hbody'⟩ := c.again s s' _ hchanges hsame.2
        ⟨ch, hch, hstuck⟩ fun ch hch => (hleft ch hch).mp
      obtain ⟨sent, rfl⟩ := c.object _ _ hbody'
      refine ⟨id, place, _, hsame.1.trans hsid, ?_, hbody', fun w' hw' => hreaches.of_body hw'⟩
      rw [Place.collection_congr fun attr _ => congrArg (Keyed.get? attr) hsame.2, hplace]

end Convergence

/-! ## The operations -/

namespace ResourceState

variable {s s₁ : ResourceState} {id : String} {doc : Json}

theorem erase_toJson (hdoc : s₁.toJson? = some doc) (hnoid : s₁.values.get? idKey = none) :
    ∃ members : Keyed Json, doc = .object members ∧ members.erase idKey = s₁.values := by
  obtain ⟨id₁, -, rfl⟩ := Option.map_eq_some_iff.mp hdoc
  exact ⟨_, rfl, by rw [Keyed.erase_insert, Keyed.erase_of_get? hnoid]⟩

theorem ofJson_toJson (hdoc : s₁.toJson? = some doc) (hnoid : s₁.values.get? idKey = none) :
    (ofJson doc).values = s₁.values := by
  obtain ⟨members, rfl, hvalues⟩ := erase_toJson hdoc hnoid
  exact hvalues

theorem withPrior_toJson (hid : s.id = some id) (hdoc : s₁.toJson? = some doc)
    (hnoid : s₁.values.get? idKey = none) : s.withPrior doc = { s with prior := s₁.values } := by
  obtain ⟨members, rfl, hvalues⟩ := erase_toJson hdoc hnoid
  simp only [withPrior, Json.asObject?, hvalues, hid]
  rfl

end ResourceState

theorem Resource.preparedExisting_prior {r : Resource} {s s' : ResourceState} {p : Keyed Json}
    (h : r.preparedExisting { s with prior := p } = .ok s') (p' : Keyed Json) :
    r.preparedExisting { s with prior := p' } = .ok { s' with prior := p' } ∧ s'.prior = p ∧
      s'.id = s.id ∧ s'.values = r.schema.fill s.values := by
  simp only [preparedExisting, prepared, ResourceState.prepare, ResourceState.requireId, bind,
    Except.bind] at h ⊢
  split at h
  · cases h
  · next prepared hprepared =>
    split at hprepared
    · cases hprepared
    · next timeouts htimeouts =>
      obtain rfl := Except.ok.inj hprepared
      cases hid : s.id with
      | none =>
        simp only [hid] at h
        cases h
      | some id =>
        simp only [hid] at h
        obtain rfl := Except.ok.inj h
        exact ⟨rfl, rfl, rfl, rfl⟩

namespace Lifecycle

variable {α : Type} {l : Lifecycle α} {conn : Connection} {w w' : World} {doc doc' : Keyed Json}
  {es : List Exchange} {s : ResourceState}

theorem refreshed_recorded (h : l.Writing) {current prior : Json}
    (hrun : l.resource.refreshed conn current w = (.ok ⟨some prior, []⟩, w'))
    (htraffic : Traffic w es w') (hkeeps : l.Keeps doc es doc') :
    doc' = doc ∧ ∃ s s₁, s₁.toJson? = some prior ∧ s₁.Sound l.schema l.timeouts ∧
      l.Recorded doc s s₁ := by
  unfold Resource.refreshed at hrun
  split at hrun
  · cases hrun
  · next s hs =>
    have hsound := (ResourceState.sound_of_prepare h.plain h.noIdAttribute
      (ResourceState.ofJson_noIdentity current) (Portrait.prepared_of_existing hs)).1
    simp only [Resource.look] at hrun
    rcases hread : l.resource.read conn ⟨s, w⟩ with ⟨failure | _, work⟩ <;> rw [hread] at hrun
    · cases (Outcome.mk.inj (Except.ok.inj (Prod.mk.inj hrun).1)).2
    · obtain ⟨hout, rfl⟩ := Prod.mk.inj hrun
      obtain ⟨hstate, -⟩ := Outcome.mk.inj (Except.ok.inj hout)
      have hid : work.state.id ≠ none := by
        intro hnone
        simp [ResourceState.toJson?, hnone] at hstate
      obtain ⟨hdoc, hrecorded⟩ := read_stored hread hid htraffic hkeeps
      refine ⟨hdoc, s, work.state, hstate, ?_, hrecorded⟩
      obtain ⟨members, x, text, -, -, hwritten⟩ := hrecorded
      rw [hwritten]
      exact h.sound hsound (x, text)

theorem updated_ok {prior planned S : Json}
    (hrun : l.resource.updated conn prior planned w = (.ok ⟨some S, []⟩, w')) :
    ∃ s s', l.resource.preparedExisting ((ResourceState.ofJson planned).withPrior prior) = .ok s ∧
      l.update conn ⟨s, w⟩ = (.ok (), ⟨s', w'⟩) ∧ s'.toJson? = some S := by
  unfold Resource.updated at hrun
  split at hrun
  · cases hrun
  · next s hs =>
    split at hrun
    · next work hupdate =>
      obtain ⟨hout, rfl⟩ := Prod.mk.inj hrun
      exact ⟨s, work.state, hs, hupdate, (Outcome.mk.inj (Except.ok.inj hout)).1⟩
    · split at hrun
      · cases (Prod.mk.inj hrun).1
      · cases (Outcome.mk.inj (Except.ok.inj (Prod.mk.inj hrun).1)).2

theorem update_sends {id : String} {c : Collection} {body : Json}
    (hchanged : s.hasChanges l.updatable = true) (hid : s.id = some id)
    (hc : l.place.collection s = .ok c) (hbody : l.changes s = .ok body)
    (hreaches : conn.client.Reaches .patch (c.object id) (some body) w) :
    ∃ es, Traffic w es (l.update conn ⟨s, w⟩).2.world ∧ ∃ e ∈ es, e.request.method = .patch := by
  rcases l.update_run conn s w with ⟨failure, hrun, hrefused⟩ | ⟨hsame, -⟩ |
    ⟨id', c', body', patches, w₁, -, hid', hc', hbody', hasked, hcases⟩
  · rcases hrefused with hnone | herror | herror
    · cases hid.symm.trans hnone
    · cases hc.symm.trans herror
    · cases hbody.symm.trans herror
  · cases hchanged.symm.trans hsame
  · obtain rfl := Option.some.inj (hid.symm.trans hid')
    obtain rfl := Except.ok.inj (hc.symm.trans hc')
    obtain rfl := Except.ok.inj (hbody.symm.trans hbody')
    obtain ⟨e, he⟩ := List.exists_mem_of_ne_nil _ (hasked.sent.mpr hreaches)
    have hpatch : e.request.method = .patch := congrArg Request.method (hasked.request e he)
    rcases hcases with ⟨failure, hrun⟩ | ⟨-, x, -, -, hrun⟩
    · rw [hrun]
      exact ⟨patches, hasked.traffic, e, he, hpatch⟩
    · obtain ⟨rest, htraffic, -⟩ := l.settle_sends conn c id (·.updating) (·.update) x
        ⟨s, w₁⟩
      rw [hrun]
      exact ⟨patches ++ rest, hasked.traffic.trans htraffic, e, List.mem_append_left _ he, hpatch⟩

end Lifecycle

/-! ## The server -/

theorem World.takeReplies_forever (n : Nat) (reply : Reply) :
    World.takeReplies n [(reply, 0)] = (List.replicate n reply, [(reply, 0)]) := by
  induction n with
  | zero => rfl
  | succ n ih => simp only [takeReplies, nextReply, ih, List.replicate_succ]

theorem Traffic.reply_of_forever {w w' : World} {es : List Exchange} {reply : Reply}
    (h : Traffic w es w') (hreplies : w.network.replies = [(reply, 0)]) :
    ∀ e ∈ es, e.reply = reply := by
  have hall := h.replies
  rw [hreplies, World.takeReplies_forever] at hall
  intro e he
  have hmem : e.reply ∈ List.replicate es.length reply := by
    rw [(Prod.mk.inj hall).1]
    exact List.mem_map_of_mem he
  exact List.eq_of_mem_replicate hmem

theorem Exchange.parse_of_result {e : Exchange} {text : String} {v : Json}
    (hreply : e.reply = .answer ⟨200, text, none⟩) (h : e.result = .ok v)
    (hblank : Text.isBlankText text = false) : Json.parse text = .ok v := by
  have hread : (⟨200, text, none⟩ : Response).read e.request.url = .ok v := by
    rw [result, hreply] at h
    exact h
  simp only [Response.read, hblank] at hread
  cases hparse : Json.parse text with
  | error failure =>
    rw [hparse] at hread
    cases hread
  | ok parsed =>
    rw [hparse] at hread
    simpa using hread

/-- An API that shows the same document all the time and gets no changes keeps it. -/
theorem Lifecycle.Keeps.of_unchanged {α : Type} {l : Lifecycle α} {doc : Keyed Json}
    {es : List Exchange} (htells : ∀ e ∈ es, l.Tells doc e)
    (hsent : ∀ e ∈ es, e.Reads ∨ e.request.method = .patch ∧ e.request.body = some (.object [])) :
    l.Keeps doc es doc := by
  induction es with
  | nil => exact .done doc
  | cons e es ih =>
    obtain ⟨htell, htells⟩ := List.forall_mem_cons.mp htells
    obtain ⟨hsend, hsent⟩ := List.forall_mem_cons.mp hsent
    rcases hsend with hread | ⟨hpatch, hbody⟩
    · exact .shown hread htell (ih htells hsent)
    · exact .stored hpatch hbody (fun _ => htell) (ih htells hsent)

namespace Server

theorem run_server (env : Environment) (server : Server) {t : ResourceType} {c : Command}
    (hc : c.Yields t) (w : World) : (server.run env c w).2.1 = server := by
  cases c with
  | create | read | update | adopt => rfl
  | _ => cases hc

variable {env : Environment} {server : Server} {conn : Connection} {t : ResourceType}
  {l : Lifecycle t.Object} {current prior planned S : Json} {config doc doc' : Keyed Json}
  {id : String} {w₀ w₁ w w' : World} {looks es : List Exchange}

/-- An update of a resource that was read, to planned values without problems, against an API that stores
what it is sent: once it has succeeded, the same update again only reads, unless a planned value is stuck,
and then it changes something again. -/
theorem update_converges (hconn : server.connection = some conn) (hlife : t.lifecycle? = some l)
    (hprior : prior ≠ .null)
    (hread : server.run env (.read t current) w₀ = (.ok (Outcome.toJson ⟨some prior, []⟩), server, w₁))
    (hlooks : Traffic w₀ looks w₁) (hshown : l.Keeps doc looks doc)
    (hid : id ≠ "") (hsorted : (Json.object config).Sorted)
    (hvalid : t.resource.schema.validate (.object config) = [])
    (hplanned : planned = .object (config.insert ResourceState.idKey (.string id)))
    (hS : S ≠ .null)
    (hupdate : server.run env (.update t prior planned) w =
      (.ok (Outcome.toJson ⟨some S, []⟩), server, w'))
    (htraffic : Traffic w es w') (hkeeps : l.Keeps doc es doc') (w₂ : World) :
    let values := t.resource.schema.fill (ResourceState.ofJson planned).values
    let before := (ResourceState.ofJson prior).values
    (¬ t.Stuck values before →
        ∃ again, Traffic w₂ again (server.run env (.update t S planned) w₂).2.2 ∧
          ∀ e ∈ again, e.Reads) ∧
      (t.Stuck values before → w₂.network.reachable = true →
        ∃ again, Traffic w₂ again (server.run env (.update t S planned) w₂).2.2 ∧
          ∃ e ∈ again, e.request.method = .patch) := by
  intro values before
  obtain ⟨h, c, hstuck⟩ := ResourceType.converges hlife
  rw [run_read hconn] at hread
  rw [run_update hconn] at hupdate
  rw [run_update hconn]
  have hrefreshed := Outcome.eq_of_served hprior hread
  have hupdated := Outcome.eq_of_served hS hupdate
  have hresource := ResourceType.resource_of_lifecycle? hlife
  rw [hresource] at hrefreshed hupdated hvalid
  -- The state that was read, and the values that are planned.
  obtain ⟨-, s₀, s₁, hdoc₁, hsound₁, hrecorded⟩ :=
    Lifecycle.refreshed_recorded h hrefreshed hlooks hshown
  have hplannedId : (ResourceState.ofJson planned).id = some id := by
    simp [hplanned, ResourceState.ofJson, Json.asObject?, Json.asString?, hid]
  have hplannedValues : (ResourceState.ofJson planned).values = config.erase ResourceState.idKey := by
    rw [hplanned, ResourceState.ofJson]
    exact Keyed.erase_insert _ _ _
  -- The first update.
  obtain ⟨s, s', hs, hrun, hdoc'⟩ := Lifecycle.updated_ok hupdated
  rw [ResourceState.withPrior_toJson hplannedId hdoc₁ hsound₁.noIdentity] at hs
  obtain ⟨hs₂, hsprior, hsid, hsvalues⟩ :=
    Resource.preparedExisting_prior hs s'.values
  have hsound := (ResourceState.sound_of_prepare
    (s := { ResourceState.ofJson planned with prior := s₁.values }) h.plain h.noIdAttribute
    (ResourceState.ofJson_noIdentity planned) (Portrait.prepared_of_existing hs)).1
  have hexists : s'.id ≠ none := by
    intro hnone
    simp [ResourceState.toJson?, hnone] at hdoc'
  have hsound' : s'.Sound l.schema l.timeouts := by
    rcases Lifecycle.update_ends hrun with hnone | ⟨v, _, hwritten, -, -⟩
    · exact absurd hnone hexists
    · rw [show s' = l.write v s from hwritten]
      exact h.sound hsound v
  have hvalues : Planned l.schema.attributes s.values := by
    rw [hsvalues, hplannedValues]
    exact Planned.of_validate h.noIdAttribute hsorted hvalid
  have hrecordedIn : c.RecordedIn doc s.prior := by
    rw [hsprior]
    exact Convergence.recordedIn_of_recorded hrecorded
  -- The second update differs from the first in the values before.
  have hnext : let s₂ : ResourceState := { s with prior := s'.values }
      (s₂.id = s.id ∧ s₂.values = s.values) ∧ s₂.prior = s'.values := ⟨⟨rfl, rfl⟩, rfl⟩
  obtain ⟨hsame, hagain⟩ :=
    Convergence.next_update hrecordedIn hvalues hrun hexists htraffic hkeeps hnext.1 hnext.2
  rw [← ResourceState.withPrior_toJson hplannedId hdoc' hsound'.noIdentity, ← hresource] at hs₂
  have hiff : c.Stuck s.values s.prior ↔ t.Stuck values before := by
    have hbefore := ResourceState.ofJson_toJson hdoc₁ hsound₁.noIdentity
    rw [hstuck, hsprior, hsvalues, ← hresource, ← hbefore]
  rw [hiff] at hsame hagain
  constructor
  · intro hnot
    have hread₂ : t.resource.update conn ⟨{ s with prior := s'.values }, w₂⟩ =
        t.resource.read conn ⟨{ s with prior := s'.values }, w₂⟩ := by
      rw [hresource]
      exact Lifecycle.update_unchanged (hsame hnot)
    exact t.portrait.updated_reads_of_read hs₂ hread₂
  · intro hleft hreachable
    obtain ⟨hchanged, id₂, place, body, hid₂, hplace, hbody, hreaches⟩ := hagain hleft
    obtain ⟨again, hagain, e, he, hpatch⟩ :=
      Lifecycle.update_sends hchanged hid₂ hplace hbody (hreaches w₂ hreachable)
    obtain ⟨rest, hrest, -⟩ := t.portrait.updated_after conn hs₂ w₂
    have hafter : (t.resource.update conn ⟨{ s with prior := s'.values }, w₂⟩).2.world =
        (l.update conn ⟨{ s with prior := s'.values }, w₂⟩).2.world := by
      rw [hresource]
      rfl
    rw [hafter] at hrest
    exact ⟨again ++ rest, hagain.trans hrest, e, List.mem_append_left _ he, hpatch⟩

/-- The priority of a record is taken away, which is not sent, so that each update is followed by the
next. -/
theorem update_converges_dropped_priority :
    let server : Server := ⟨some .usual, false⟩
    let env : Environment := ⟨[], none, fun _ => .missing⟩
    let record := "\x7b\"id\":\"r\",\"name\":\"www\",\"type\":\"A\",\"data\":\"10.0.0.1\"," ++
      "\"ttl\":300,\"priority\":10\x7d"
    let w : World := ⟨⟨true, [(.answer ⟨200, record, none⟩, 0)]⟩, 0, []⟩
    let current := Json.object [("domain", .string "example.com"), ("id", .string "r")]
    let config : Keyed Json := [("data", .string "10.0.0.1"), ("domain", .string "example.com"),
      ("name", .string "www"), ("ttl", .uint32 300), ("type", .string "A")]
    let planned := Json.object (config.insert ResourceState.idKey (.string "r"))
    ResourceType.dnsRecord.resource.schema.validate (.object config) = [] ∧
      ∃ prior S w₁ w₂, server.run env (.read .dnsRecord current) w =
          (.ok (Outcome.toJson ⟨some prior, []⟩), server, w₁) ∧
        server.run env (.update .dnsRecord prior planned) w =
          (.ok (Outcome.toJson ⟨some S, []⟩), server, w₂) ∧
        ∃ again, Traffic w again (server.run env (.update .dnsRecord S planned) w).2.2 ∧
          ∃ e ∈ again, e.request.method = .patch := by
  intro server env record w current config planned
  have hvalid : ResourceType.dnsRecord.resource.schema.validate (.object config) = [] := by
    have hempty : (ResourceType.dnsRecord.resource.schema.validate (.object config)).isEmpty = true := by
      decide +kernel
    exact List.isEmpty_iff.mp hempty
  refine ⟨hvalid, ?_⟩
  have hparsed : ((Json.parse record).toOption.bind Json.asObject?).isSome = true := by
    decide +kernel
  obtain ⟨doc, hdoc⟩ : ∃ doc, Json.parse record = .ok (.object doc) := by
    cases hparse : Json.parse record with
    | error failure =>
      rw [hparse] at hparsed
      cases hparsed
    | ok v =>
      rw [hparse] at hparsed
      obtain ⟨doc, hdoc⟩ := Option.isSome_iff_exists.mp hparsed
      exact ⟨doc, congrArg Except.ok (Json.asObject?_eq_some.mp hdoc)⟩
  have htells {w' : World} {es : List Exchange} (h : Traffic w es w') :
      ∀ e ∈ es, DnsRecord.lifecycle.Tells doc e := by
    intro e he v x hv _
    have hreply := h.reply_of_forever rfl e he
    have hparse := Exchange.parse_of_result hreply hv (by decide +kernel)
    obtain rfl : Json.object doc = v := Except.ok.inj (hdoc.symm.trans hparse)
    exact ⟨doc, rfl, fun _ _ => rfl⟩
  -- What the read and the first update return and send.
  have hread : ((stateOf? (server.run env (.read .dnsRecord current) w).1).bind
      Json.asObject?).isSome = true := by
    decide +kernel
  have hgets : (server.run env (.read .dnsRecord current) w).2.2.log.all
      (fun q => q.method = .get) = true := by
    decide +kernel
  have hupdate : ((stateOf? (server.run env (.update .dnsRecord
      ((stateOf? (server.run env (.read .dnsRecord current) w).1).getD .null) planned) w).1).bind
        Json.asObject?).isSome = true := by
    decide +kernel
  have hpatches : (server.run env (.update .dnsRecord
      ((stateOf? (server.run env (.read .dnsRecord current) w).1).getD .null) planned) w).2.2.log.all
        (fun q => q.method = .patch && (q.body.bind Json.asObject?).any List.isEmpty) = true := by
    decide +kernel
  have hbefore : (((ResourceState.ofJson
      ((stateOf? (server.run env (.read .dnsRecord current) w).1).getD .null)).values.get?
        "priority").bind normalize).isSome = true := by
    decide +kernel
  have hafter : (((ResourceType.dnsRecord.resource.schema.fill
      (ResourceState.ofJson planned).values).get? "priority").bind normalize).isNone = true := by
    decide +kernel
  have hreturned (c : Command) (hc : c.Yields .dnsRecord)
      (h : ((stateOf? (server.run env c w).1).bind Json.asObject?).isSome = true) :
      ∃ members es, stateOf? (server.run env c w).1 = some (.object members) ∧
        server.run env c w = (.ok (Outcome.toJson ⟨some (.object members), []⟩), server,
          (server.run env c w).2.2) ∧
        Traffic w es (server.run env c w).2.2 := by
    obtain ⟨members, hstate⟩ := exists_of_stateOf? h
    have hanswer := eq_of_stateOf? hstate
    have hserver := run_server env server hc w
    have hrun : server.run env c w = (.ok (Outcome.toJson ⟨some (.object members), []⟩), server,
        (server.run env c w).2.2) := Prod.ext hanswer (Prod.ext hserver rfl)
    obtain ⟨-, es, -, htraffic, -⟩ := builtFrom_of_run (t := .dnsRecord) rfl hc (by simp) hrun
    exact ⟨members, es, hstate, hrun, htraffic⟩
  obtain ⟨members, looks, hstate, hrun, hlooks⟩ := hreturned (.read .dnsRecord current) rfl hread
  rw [hstate, Option.getD_some] at hupdate hpatches hbefore
  obtain ⟨members', changes, -, hrun', hchanges⟩ :=
    hreturned (.update .dnsRecord (.object members) planned) rfl hupdate
  have hshown : DnsRecord.lifecycle.Keeps doc looks doc := by
    refine .of_unchanged (htells hlooks) fun e he => .inl ?_
    have hlog := hlooks.log
    rw [hlog, List.all_eq_true] at hgets
    have hget : e.request.method = .get := by
      simpa using hgets e.request (List.mem_append_right _ (List.mem_map_of_mem he))
    exact hget
  have hkept : DnsRecord.lifecycle.Keeps doc changes doc := by
    refine .of_unchanged (htells hchanges) fun e he => .inr ?_
    have hlog := hchanges.log
    rw [hlog, List.all_eq_true] at hpatches
    have hpatch := hpatches e.request (List.mem_append_right _ (List.mem_map_of_mem he))
    simp only [Bool.and_eq_true, decide_eq_true_eq] at hpatch
    refine ⟨hpatch.1, ?_⟩
    obtain ⟨members, hmembers, hempty⟩ := (Option.any_eq_true _ _).mp hpatch.2
    obtain ⟨v, hv, hmembers⟩ := Option.bind_eq_some_iff.mp hmembers
    rw [hv, Json.asObject?_eq_some.mp hmembers, List.isEmpty_iff.mp hempty]
  have hsorted : (Json.object config).Sorted := by
    refine ⟨?_, trivial, trivial, trivial, trivial, trivial, trivial⟩
    unfold Keyed.Ordered
    decide
  have hplanned : planned = .object (config.insert ResourceState.idKey (.string "r")) := rfl
  have hconn : server.connection = some .usual := rfl
  obtain ⟨-, hagain⟩ := update_converges (t := .dnsRecord) hconn rfl (by simp) hrun hlooks hshown
    (by decide) hsorted hvalid hplanned (by simp) hrun' hchanges hkept w
  have hstuck : ResourceType.dnsRecord.Stuck
      (ResourceType.dnsRecord.resource.schema.fill (ResourceState.ofJson planned).values)
      (ResourceState.ofJson (.object members)).values := by
    refine .inr (.inl ⟨Option.isNone_iff_eq_none.mp hafter, fun hnone => ?_⟩)
    rw [hnone] at hbefore
    cases hbefore
  exact ⟨_, _, _, _, hrun, hrun', hagain hstuck rfl⟩

end Server

end CloudProvider
