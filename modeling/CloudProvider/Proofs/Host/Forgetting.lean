import CloudProvider.Proofs.Host.Reading
import CloudProvider.Proofs.Resource.Overwriting

/-!
# Reads forget the past

A read that succeeds returns what it sees. What stood in the state before does not show, unless it is
under a key that is never written.

* `ResourceType.kept`: what a type writes only where nothing stands.
* `ResourceType.spares_parent`: what names the parent of an object is never written.
* `ResourceType.readsAlike`, `ResourceType.overwrites`: resources of each type.
* `Server.read_forgets`: reads of two states of one object.
-/

namespace CloudProvider
set_option autoImplicit false

/-! ## All types -/

namespace ResourceType

/-- The keys that are written only where nothing stands: the default address of a zone. -/
def kept : ResourceType → List String
  | dnsDomain => ["default_ip"]
  | _ => []

theorem mem_kept {t : ResourceType} {key : String} (h : key ∈ t.kept) :
    t = dnsDomain ∧ key = "default_ip" := by
  cases t with
  | dnsDomain => exact ⟨rfl, List.mem_singleton.mp h⟩
  | _ => cases h

/-- All that there is of the resource is in the state: a cluster without credentials is not active. -/
def Complete (t : ResourceType) (s : ResourceState) : Prop :=
  t = kubernetesCluster → ∀ status, s.values.get? "status" = some (.string status) →
    Text.sameLetters status KubernetesCluster.active = true

end ResourceType

theorem DnsDomain.overwriting : lifecycle.Overwriting writing ResourceType.dnsDomain.kept where
  same zone s s' hkept := by
    have hset : s.isSet "default_ip" = s'.isSet "default_ip" := by
      rw [ResourceState.isSet, ResourceState.isSet, ResourceState.value?, ResourceState.value?,
        hkept _ (List.mem_singleton_self _)]
    simp only [writing, entries, hset]
  covered zone zone' s s' _ hkey := by
    simp only [writing, entries, List.map_append, List.mem_append] at hkey ⊢
    rcases hkey with hkey | hkey
    · exact .inl (.inl hkey)
    · right
      split at hkey
      · cases hkey
      · exact hkey

namespace ResourceType

/-- The attribute that names the parent. -/
def parentKey? : ResourceType → Option String
  | dnsRecord => some "domain"
  | nodePool => some "cluster_id"
  | _ => none

theorem spares_parent {t : ResourceType} {key : String} (h : t.parentKey? = some key) : t.portrait.Spares key := by
  cases t with
  | dnsRecord =>
    cases h
    refine Lifecycle.spares (h := DnsRecord.writing)
      (fun x s => by simp [DnsRecord.writing, DnsRecord.entries]) ?_
    rintro _ ⟨⟩
  | nodePool =>
    cases h
    refine Lifecycle.spares (h := NodePool.writing)
      (fun x s => by simp [NodePool.writing, NodePool.entries]) ?_
    rintro _ ⟨⟩
  | _ => cases h

theorem forgets (t : ResourceType) : t.portrait.Forgets t.kept t.Complete := by
  cases t with
  | dnsDomain =>
    refine Lifecycle.forgets DnsDomain.overwriting ?_ fun _ _ _ _ _ _ => rfl
    rintro _ ⟨⟩
  | dnsRecord =>
    refine Lifecycle.forgets (h := DnsRecord.writing)
      (.of_keys (fun _ _ _ => rfl) fun _ _ _ => rfl) ?_ fun _ _ _ _ _ _ => rfl
    rintro _ ⟨⟩
    exact spares_parent (t := dnsRecord) rfl
  | emailIdentity =>
    exact Lifecycle.forgets_of_keys (h := EmailIdentity.writing)
      (fun _ _ _ => rfl) (fun _ _ _ => rfl) rfl rfl
  | firewallGroup => exact FirewallGroup.forgets _
  | kubernetesCluster =>
    refine Lifecycle.forgets (h := KubernetesCluster.writing)
      (.of_keys (fun _ _ _ => rfl) fun _ _ _ => rfl) ?_ ?_
    · rintro _ ⟨⟩
    -- A cluster that is active comes with its credentials.
    rintro v es s ⟨-, -, hnone⟩ hcomplete htext
    have hstatus : (KubernetesCluster.lifecycle.write v s).values.get? "status" =
        some (.string v.1.status) :=
      (KubernetesCluster.writing.holds_write v s _
        (KubernetesCluster.writing.status _ rfl v.1 s)).get?
    cases (hcomplete rfl _ hstatus).symm.trans (hnone htext _ rfl)
  | nodePool =>
    refine Lifecycle.forgets (h := NodePool.writing)
      (.of_keys (fun _ _ _ => rfl) fun _ _ _ => rfl) ?_ fun _ _ _ _ _ _ => rfl
    rintro _ ⟨⟩
    exact spares_parent (t := nodePool) rfl
  | loadBalancer =>
    exact Lifecycle.forgets_of_keys (h := LoadBalancer.writing)
      (fun _ _ _ => rfl) (fun _ _ _ => rfl) rfl rfl
  | nasInstance =>
    exact Lifecycle.forgets_of_keys (h := NasInstance.writing)
      (fun _ _ _ => rfl) (fun _ _ _ => rfl) rfl rfl
  | privateLan =>
    exact Lifecycle.forgets_of_keys (h := PrivateLan.writing)
      (fun _ _ _ => rfl) (fun _ _ _ => rfl) rfl rfl

end ResourceType

/-! ## States that reads start from -/

namespace Portrait

variable {r : Resource} {p : Portrait r} {kept : List String} {Complete : ResourceState → Prop}
  {s₀ s₀' : ResourceState}

theorem Forgets.prepared (f : p.Forgets kept Complete) (hid : s₀.id = s₀'.id)
    (hspared : ∀ key, p.Spares key → s₀.values.get? key = s₀'.values.get? key) :
    (∃ e e', r.preparedExisting s₀ = .error e ∧ r.preparedExisting s₀' = .error e') ∨
      ∃ s s' id, r.preparedExisting s₀ = .ok s ∧ r.preparedExisting s₀' = .ok s' ∧
        s.id = some id ∧ s'.id = some id ∧ s.values = r.schema.fill s₀.values ∧
        s'.values = r.schema.fill s₀'.values := by
  have hdeadlines : (r.schema.fill s₀.values).get? Schema.timeoutsName =
      (r.schema.fill s₀'.values).get? Schema.timeoutsName :=
    get?_fillAll_congr (hspared _ f.deadlines)
  simp only [Resource.preparedExisting, Resource.prepared, ResourceState.prepare, hdeadlines, bind,
    Except.bind]
  cases r.timeouts.withOverrides ((r.schema.fill s₀'.values).get? Schema.timeoutsName) with
  | error e => exact .inl ⟨e, e, rfl, rfl⟩
  | ok timeouts =>
    simp only [pure, Except.pure, ResourceState.requireId, hid]
    cases s₀'.id with
    | none => exact .inl ⟨_, _, rfl, rfl⟩
    | some id => exact .inr ⟨_, _, id, rfl, rfl, rfl, rfl, rfl, rfl⟩

/-- States of one object that agree on what is spared and kept become the same. -/
theorem Forgets.written {s s' : ResourceState} {v : p.View} {es : List Exchange}
    (f : p.Forgets kept Complete) (hid : s.id = s'.id) (hordered : Keyed.Ordered s.values)
    (hordered' : Keyed.Ordered s'.values)
    (hagree : ∀ key, p.Spares key ∨ key ∈ kept → s.values.get? key = s'.values.get? key)
    (hshown : p.ShownIn v es) (hcomplete : Complete (p.write v s)) :
    (p.write v s).toJson? = (p.write v s').toJson? := by
  have hvalues : (p.write v s).values = (p.write v s').values :=
    (f.ordered v s hordered).ext (f.ordered v s' hordered')
      (f.overwrites v es s hshown hcomplete s s' hagree)
  rw [p.frame v s, p.frame v s']
  simp only [ResourceState.toJson?, hid, hvalues]

end Portrait

/-! ## The server -/

namespace Server

variable {env : Environment} {server : Server} {conn : Connection} {t : ResourceType}

/-- Two states of one object have the same values under the keys that are never written, the deadlines
among them. Reading them is refused for both, or goes to the API for both. With the same replies ahead
the two reads report the same, and if they succeed they return the same state. Of a zone the two states
have the same default address; a cluster is active. -/
theorem read_forgets (hconn : server.connection = some conn) {current current' : Json}
    (hordered : Keyed.Ordered (ResourceState.ofJson current).values)
    (hordered' : Keyed.Ordered (ResourceState.ofJson current').values)
    (hid : (ResourceState.ofJson current).id = (ResourceState.ofJson current').id)
    (hspared : ∀ key, t.portrait.Spares key →
      (ResourceState.ofJson current).values.get? key =
        (ResourceState.ofJson current').values.get? key)
    (haddress : t = .dnsDomain →
      (ResourceState.ofJson current).values.get? "default_ip" =
        (ResourceState.ofJson current').values.get? "default_ip")
    {w w' : World} (hnetwork : w.network = w'.network) :
    (∃ e e', server.run env (.read t current) w = (.error e, server, w) ∧
        server.run env (.read t current') w' = (.error e', server, w')) ∨
      ∃ o o' w₁ w₁', server.run env (.read t current) w = (.ok (Outcome.toJson o), server, w₁) ∧
        server.run env (.read t current') w' = (.ok (Outcome.toJson o'), server, w₁') ∧
        w₁.network = w₁'.network ∧ o.diagnostics = o'.diagnostics ∧
        (o.diagnostics = [] →
          (t = .kubernetesCluster → ∀ status, o.value? "status" = some (.string status) →
            Text.sameLetters status KubernetesCluster.active = true) →
          o.newState = o'.newState) := by
  have f := t.forgets
  simp only [run_read hconn, Resource.refreshed]
  rcases f.prepared hid hspared with
    ⟨e, e', hs, hs'⟩ | ⟨s, s', id, hs, hs', hsid, hsid', hvalues, hvalues'⟩
  · rw [hs, hs']
    exact .inl ⟨e, e', rfl, rfl⟩
  right
  rw [hs, hs']
  have hagree (key : String)
      (h : (ResourceState.ofJson current).values.get? key =
        (ResourceState.ofJson current').values.get? key) :
      s.values.get? key = s'.values.get? key := by
    rw [hvalues, hvalues']
    exact get?_fillAll_congr h
  obtain ⟨result, s₁, s₁', w₁, w₁', hrun, hrun', hleft, hends⟩ :=
    f.reads conn s s' w w' id hsid hsid' (fun key h => hagree key (hspared key h)) hnetwork
  simp only [Resource.look, hrun, hrun']
  cases result with
  | error failure => exact ⟨_, _, w₁, w₁', rfl, rfl, hleft, rfl, by simp⟩
  | ok =>
    refine ⟨_, _, w₁, w₁', rfl, rfl, hleft, rfl, fun _ hactive => ?_⟩
    rcases hends rfl with ⟨rfl, rfl⟩ | ⟨v, es, hshown, rfl, rfl⟩
    · rfl
    · refine f.written (hsid.trans hsid'.symm) ?_ ?_ ?_ hshown ?_
      · rw [hvalues]
        exact hordered.fillAll
      · rw [hvalues']
        exact hordered'.fillAll
      · rintro key (hspares | hkept)
        · exact hagree key (hspared key hspares)
        · obtain ⟨ht, rfl⟩ := ResourceType.mem_kept hkept
          exact hagree _ (haddress ht)
      · intro ht status hstatus
        have hwritten : (t.portrait.write v s).id = some id := by
          rw [t.portrait.frame]
          exact hsid
        refine hactive ht status ?_
        rw [Outcome.value?_of_ne hwritten (by decide)]
        exact hstatus

/-- The set of an email identity was taken away from outside, and the state still has it. -/
theorem read_forgets_stale_set :
    let server : Server := ⟨some .usual, false⟩
    let env : Environment := ⟨[], none, fun _ => .missing⟩
    let identity := "\x7b\"identity\":\"example.com\",\"verification_status\":\"SUCCESS\"\x7d"
    let w : World := ⟨⟨true, [(.answer ⟨200, identity, none⟩, 1)]⟩, 0, []⟩
    let stale := Json.object [("configuration_set", .string "old"), ("id", .string "example.com")]
    let bare := Json.object [("id", .string "example.com")]
    ∃ o o' w₁ w₁', server.run env (.read .emailIdentity stale) w =
        (.ok (Outcome.toJson o), server, w₁) ∧
      server.run env (.read .emailIdentity bare) w = (.ok (Outcome.toJson o'), server, w₁') ∧
      o.newState.isSome = true ∧ o.newState = o'.newState := by
  intro server env identity w stale bare
  have hserved : ((stateOf? (server.run env (.read .emailIdentity stale) w).1).bind
      Json.asObject?).isSome = true := by decide +kernel
  obtain ⟨members, hstate⟩ := exists_of_stateOf? hserved
  have hok := eq_of_stateOf? hstate
  have hspared : ∀ key, ResourceType.emailIdentity.portrait.Spares key →
      (ResourceState.ofJson stale).values.get? key = (ResourceState.ofJson bare).values.get? key := by
    intro key hspares
    have hkey : key ≠ "configuration_set" := by
      rintro rfl
      -- An identity without a set writes that there is none.
      have hwritten := hspares (⟨"", "", "", false, [], none⟩, none) ⟨none, [], [], .default⟩
      cases hwritten
    exact if_neg (Ne.symm hkey)
  rcases @read_forgets env server .usual .emailIdentity rfl stale bare
      (List.pairwise_singleton ..) .nil rfl hspared (by simp) w w rfl with
    ⟨e, e', hrun, -⟩ | ⟨o, o', w₁, w₁', hrun, hrun', -, -, hsame⟩
  · cases (congrArg Prod.fst hrun).symm.trans hok
  · have ho := Outcome.eq_of_toJson (S := .object members) (by simp)
      (Except.ok.inj ((congrArg Prod.fst hrun).symm.trans hok))
    subst ho
    exact ⟨_, o', w₁, w₁', hrun, hrun', rfl, hsame rfl (by simp)⟩

end Server

end CloudProvider
