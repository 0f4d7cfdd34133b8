import CloudProvider.Proofs.Host.Reading
import CloudProvider.Proofs.Resource.Typing

/-!
# Imported states fit the schema

An import starts from a state that has nothing but defaults, and reads the object into it. What it
returns has the types that the schema declares.

* `ResourceType.typed_write`, `ResourceType.typed_adopt`: the steps of an import keep the types.
* `ResourceType.prepared_empty`: the state that an import starts from.
* `Server.import_conforms`: the state that an import returns.
-/

namespace CloudProvider
set_option autoImplicit false

namespace ResourceType

variable {s s' : ResourceState} {id : String}

/-! ## The steps of an import -/

theorem typed_write (t : ResourceType) (v : t.portrait.View)
    (hs : Typed t.resource.schema.attributes s.values) :
    Typed t.resource.schema.attributes (t.portrait.write v s).values := by
  cases t with
  | dnsDomain => exact DnsDomain.writing.typed_write_alone DnsDomain.typed rfl v hs
  | dnsRecord => exact DnsRecord.writing.typed_write_alone (fun r _ => r.typed) rfl v hs
  | emailIdentity => exact EmailIdentity.writing.typed_write_alone (fun e _ => e.typed) rfl v hs
  | firewallGroup => exact ResourceState.typed_setAll hs (v.1.typed v.2)
  | kubernetesCluster =>
    refine KubernetesCluster.writing.typed_write (fun c _ => c.typed) ?_ v hs
    rintro _ ⟨⟩ text
    exact typedAt_of_hasType rfl rfl
  | nodePool => exact NodePool.writing.typed_write_alone (fun p _ => p.typed) rfl v hs
  | loadBalancer => exact LoadBalancer.writing.typed_write_alone (fun lb _ => lb.typed) rfl v hs
  | nasInstance => exact NasInstance.writing.typed_write_alone (fun nas _ => nas.typed) rfl v hs
  | privateLan => exact PrivateLan.writing.typed_write_alone (fun lan _ => lan.typed) rfl v hs

/-- The identity of a parent is the only attribute that an import id gives. -/
theorem typed_adopt (t : ResourceType) (h : t.resource.adopt id s = .ok s')
    (hs : Typed t.resource.schema.attributes s.values) :
    Typed t.resource.schema.attributes s'.values := by
  cases t with
  | dnsRecord =>
    obtain ⟨parent, child, -, rfl⟩ := adoptInside_ok_iff.mp h
    exact hs.insert (typedAt_of_hasType rfl rfl)
  | nodePool =>
    obtain ⟨parent, child, -, rfl⟩ := adoptInside_ok_iff.mp h
    exact hs.insert (typedAt_of_hasType rfl rfl)
  | emailIdentity =>
    change EmailIdentity.adopt id s = .ok s' at h
    rw [EmailIdentity.adopt] at h
    split at h
    · cases h
    · obtain rfl := Except.ok.inj h
      exact hs
  | _ =>
    obtain rfl := Except.ok.inj h
    exact hs

theorem prepared_empty (t : ResourceType) :
    ∃ s, t.resource.prepared (.ofJson (.object [])) = .ok s ∧
      Typed t.resource.schema.attributes s.values := by
  cases t <;> exact ⟨_, rfl, Json.membersHaveType_iff.mp (by decide)⟩

end ResourceType

/-- An import that reports nothing comes from a read that found the object. -/
theorem Resource.imported_clean {r : Resource} {s : ResourceState} (conn : Connection)
    (type id : String) (hs : r.prepared (.ofJson (.object [])) = .ok s) (w : World) :
    ∃ o w', r.imported conn type id w = (.ok o, w') ∧
      (o.diagnostics = [] → ∃ s' work id', r.adopt id s = .ok s' ∧
        r.read conn ⟨s', w⟩ = (.ok (), work) ∧ work.state.id = some id' ∧
        o.newState = work.state.toJson?) := by
  simp only [imported, hs]
  cases hadopt : r.adopt id s with
  | error failure => exact ⟨_, w, rfl, by simp⟩
  | ok s' =>
    dsimp only
    rcases hread : r.read conn ⟨s', w⟩ with ⟨result, work⟩
    refine ⟨_, work.world, rfl, fun hclean => ?_⟩
    dsimp only at hclean ⊢
    split at hclean
    · cases hclean
    · next hfound =>
      have hresult := Portrait.ofResult_eq_nil hclean
      subst hresult
      cases hid : work.state.id with
      | none => simp [ResourceState.toJson?, hid, Diagnostics.ofResult] at hfound
      | some id' => exact ⟨s', work, id', rfl, hread, hid, rfl⟩

/-! ## The server -/

namespace Server

variable {env : Environment} {server : Server} {conn : Connection}

theorem run_import (hconn : server.connection = some conn) (t : ResourceType) (id : String)
    (w : World) :
    server.run env (.adopt t id) w =
      (Outcome.toJson <$> (t.resource.imported conn t.name id w).1, server,
        (t.resource.imported conn t.name id w).2) := by
  unfold run connected
  rw [hconn]
  rfl

/-- An import always has an outcome. If it reports nothing, there is a state: each of its keys but the
identity is an attribute of the type, and each value that is not null has the type of the attribute,
at every level. -/
theorem import_conforms (hconn : server.connection = some conn) (t : ResourceType) (id : String)
    (w : World) :
    ∃ o w', server.run env (.adopt t id) w = (.ok (Outcome.toJson o), server, w') ∧
      (o.diagnostics = [] → ∃ members, o.newState = some (.object members) ∧
        ∀ entry ∈ members, entry.1 ≠ ResourceState.idKey →
          TypedAt t.resource.schema.attributes entry.1 entry.2) := by
  obtain ⟨s, hs, htyped⟩ := t.prepared_empty
  obtain ⟨o, w', himported, hclean⟩ := Resource.imported_clean conn t.name id hs w
  rw [run_import hconn, himported]
  refine ⟨o, w', rfl, fun hnothing => ?_⟩
  obtain ⟨s', work, id', hadopt, hread, hid, hstate⟩ := hclean hnothing
  have htyped' := t.typed_adopt hadopt htyped
  rcases t.portrait.read_ends conn s' w work hread with hnone | ⟨v, -, hwritten, -⟩
  · cases hid.symm.trans hnone
  · refine ⟨_, by rw [hstate, ResourceState.toJson?, hid]; rfl, ?_⟩
    intro entry hentry hkey
    rcases Keyed.mem_insert hentry with rfl | hentry
    · exact absurd rfl hkey
    · rw [hwritten] at hentry
      exact t.typed_write v htyped' entry hentry

/-- A balancer with a rule, a target and a health check without path. -/
theorem import_conforms_balancer :
    let server : Server := ⟨some .usual, false⟩
    let env : Environment := ⟨[], none, fun _ => .missing⟩
    let check := "\x7b\"protocol\":\"TCP\",\"port\":80,\"interval_seconds\":30," ++
      "\"unhealthy_threshold\":3\x7d"
    let rule := "\x7b\"name\":\"web\",\"protocol\":\"TCP\",\"listener_port\":80," ++
      "\"algorithm\":\"ROUND_ROBIN\"," ++
      "\"targets\":[\x7b\"ip\":\"10.0.0.2\",\"port\":8080,\"weight\":1\x7d]\x7d"
    let balancer := "\x7b\"id\":\"lb\",\"name\":\"front\",\"region\":\"eu\",\"status\":\"ACTIVE\"," ++
      "\"forwarding_rules\":[" ++ rule ++ "],\"health_check\":" ++ check ++ "\x7d"
    let w : World := ⟨⟨true, [(.answer ⟨200, balancer, none⟩, 1)]⟩, 0, []⟩
    ∃ members w', server.run env (.adopt .loadBalancer "lb") w =
        (.ok (Outcome.toJson ⟨some (.object members), []⟩), server, w') ∧
      ∀ entry ∈ members, entry.1 ≠ ResourceState.idKey →
        TypedAt LoadBalancer.schema.attributes entry.1 entry.2 := by
  intro server env check rule balancer w
  have hserved : ((stateOf? (server.run env (.adopt .loadBalancer "lb") w).1).bind
      Json.asObject?).isSome = true := by decide +kernel
  obtain ⟨members, hstate⟩ := exists_of_stateOf? hserved
  obtain ⟨o, w', hrun, hclean⟩ :=
    @import_conforms env server .usual rfl .loadBalancer "lb" w
  have ho := Outcome.eq_of_toJson (S := .object members) (by simp)
    (Except.ok.inj ((congrArg Prod.fst hrun).symm.trans (eq_of_stateOf? hstate)))
  subst ho
  obtain ⟨members', hmembers, htyped⟩ := hclean rfl
  obtain rfl := Json.object.inj (Option.some.inj hmembers)
  exact ⟨members, w', hrun, htyped⟩

end Server

end CloudProvider
