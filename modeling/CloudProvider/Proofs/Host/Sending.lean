import CloudProvider.Proofs.Host.Fallback
import CloudProvider.Proofs.Resource.Channel
import CloudProvider.Proofs.Resource.Checks

/-!
# What leaves the provider

Values are not validated again before they are sent. Whatever the host plans, what goes out about load
balancers, node pools, firewall rules and records has parts that fit each other.

* `LoadBalancer.Permits`, `NodePool.Permits`, …: what may go out about a resource of each type.
* `Lifecycle.create_carries`, `Lifecycle.update_carries`: beside reads one document is sent.
* `ResourceType.created_permits`, `ResourceType.updated_permits`: the operations send nothing else.
* `Server.sends_permitted`: nor does the server.
-/

namespace CloudProvider
open Json
set_option autoImplicit false

/-! ## Sending -/

/-- The exchange sends a document by a method. -/
def Exchange.Carries (method : Method) (body : Json) (e : Exchange) : Prop :=
  e.request.method = method ∧ e.request.body = some body

namespace Lifecycle

variable {α : Type} (l : Lifecycle α) (conn : Connection) (s : ResourceState) (w : World)

theorem create_carries : ∃ es, Traffic w es (l.create conn ⟨s, w⟩).2.world ∧
    ∀ e ∈ es, e.Reads ∨ ∃ body, l.draft conn.region s = .ok body ∧ e.Carries .post body := by
  rcases l.create_run conn s w with ⟨failure, hrun, -⟩ | ⟨c, body, posts, w₁, -, hbody, hasked, hcases⟩
  -- What cannot be drafted is refused before anything goes out.
  · rw [hrun]
    exact ⟨[], .refl w, by simp⟩
  have hposts : ∀ e ∈ posts, e.Reads ∨
      ∃ body, l.draft conn.region s = .ok body ∧ e.Carries .post body := by
    intro e he
    have hrequest := hasked.request e he
    exact .inr ⟨body, hbody, congrArg Request.method hrequest, congrArg Request.body hrequest⟩
  rcases hcases with ⟨failure, hrun, -⟩ | ⟨-, x, -, -, hrun⟩
  · rw [hrun]
    exact ⟨posts, hasked.traffic, hposts⟩
  · obtain ⟨rest, htraffic, hrest⟩ := l.settle_sends conn c (l.identity x) (·.creating)
      (·.create) x ⟨s.setId (l.identity x), w₁⟩
    rw [hrun]
    refine ⟨posts ++ rest, hasked.traffic.trans htraffic, fun e he => ?_⟩
    exact (List.mem_append.mp he).elim (hposts e) fun he => .inl (hrest e he)

theorem update_carries : ∃ es, Traffic w es (l.update conn ⟨s, w⟩).2.world ∧
    ∀ e ∈ es, e.Reads ∨ ∃ body, l.changes s = .ok body ∧ e.Carries .patch body := by
  rcases l.update_run conn s w with ⟨failure, hrun, -⟩ | ⟨-, hrun⟩ |
    ⟨id, c, body, patches, w₁, -, -, -, hbody, hasked, hcases⟩
  · rw [hrun]
    exact ⟨[], .refl w, by simp⟩
  · obtain ⟨es, htraffic, hreads⟩ := l.read_sends conn ⟨s, w⟩
    rw [hrun]
    exact ⟨es, htraffic, fun e he => .inl (hreads e he)⟩
  have hpatches : ∀ e ∈ patches, e.Reads ∨
      ∃ body, l.changes s = .ok body ∧ e.Carries .patch body := by
    intro e he
    have hrequest := hasked.request e he
    exact .inr ⟨body, hbody, congrArg Request.method hrequest, congrArg Request.body hrequest⟩
  rcases hcases with ⟨failure, hrun⟩ | ⟨-, x, -, -, hrun⟩
  · rw [hrun]
    exact ⟨patches, hasked.traffic, hpatches⟩
  · obtain ⟨rest, htraffic, hrest⟩ := l.settle_sends conn c id (·.updating) (·.update) x
      ⟨s, w₁⟩
    rw [hrun]
    refine ⟨patches ++ rest, hasked.traffic.trans htraffic, fun e he => ?_⟩
    exact (List.mem_append.mp he).elim (hpatches e) fun he => .inl (hrest e he)

end Lifecycle

/-! ## Load balancers -/

namespace LoadBalancer

/-- The rules among these members are distinct, and the parts of the check fit each other. -/
structure Admissible (members : Keyed Json) : Prop where
  rules : ∀ v, members.get? "forwarding_rules" = some v →
    ∃ rules, v = rulesJson rules ∧ ForwardingRule.Distinct rules
  check : ∀ v, members.get? "health_check" = some v →
    v = .null ∨ ∃ c : HealthCheck, v = c.toJson ∧ c.Fits

/-- A load balancer is created or changed only with admissible members, and created only with rules. -/
structure Permits (e : Exchange) : Prop where
  created : e.request.method = .post → ∃ members : Keyed Json,
    e.request.body = some (.object members) ∧ Admissible members ∧
      (members.get? "forwarding_rules").isSome = true
  changed : e.request.method = .patch → ∃ members : Keyed Json,
    e.request.body = some (.object members) ∧ Admissible members

variable {s : ResourceState} {body : Json} {e : Exchange}

theorem permits_of_draft {fallback : Option String} (h : lifecycle.draft fallback s = .ok body)
    (he : e.Carries .post body) : Permits e := by
  obtain ⟨region, -, h⟩ := bind_ok.mp h
  obtain ⟨d, hd, h⟩ := bind_ok.mp h
  obtain rfl := Except.ok.inj h
  obtain ⟨name, -, hd⟩ := bind_ok.mp hd
  obtain ⟨rules, hrules, hd⟩ := bind_ok.mp hd
  obtain ⟨check, hcheck, hd⟩ := bind_ok.mp hd
  obtain rfl := Except.ok.inj hd
  have hdistinct := (ForwardingRule.ofState_ok.mp hrules).2
  have hfits := (HealthCheck.ofState_ok.mp hcheck).2
  refine ⟨fun _ => ⟨_, he.2, ⟨fun v hv => ?_, fun v hv => ?_⟩, rfl⟩, fun hpatch => ?_⟩
  · exact ⟨rules, (Option.some.inj hv).symm, hdistinct⟩
  · cases check with
    | none =>
      -- No other member has this name, whether or not there is a network.
      cases hprivate : s.text? "private_lan_id" <;> simp [hprivate, member?, Keyed.get?] at hv
    | some c => exact .inr ⟨c, (Option.some.inj hv).symm, hfits c rfl⟩
  · cases he.1.symm.trans hpatch

theorem permits_of_changes (h : lifecycle.changes s = .ok body) (he : e.Carries .patch body) :
    Permits e := by
  obtain ⟨c, hc, h⟩ := bind_ok.mp h
  obtain rfl := Except.ok.inj h
  obtain ⟨name, -, hc⟩ := bind_ok.mp hc
  obtain ⟨rules, hrules, hc⟩ := bind_ok.mp hc
  obtain ⟨check, hcheck, hc⟩ := bind_ok.mp hc
  obtain rfl := Except.ok.inj hc
  refine ⟨fun hpost => ?_, fun _ => ⟨_, he.2, fun v hv => ?_, fun v hv => ?_⟩⟩
  · cases he.1.symm.trans hpost
  · rw [List.append_assoc, get?_member?, get?_member?, get?_member?_last] at hv
    rcases ResourceState.ifChanged_ok.mp hrules with ⟨-, rfl⟩ | ⟨-, rs, hrs, rfl⟩
    · simp at hv
    · exact ⟨rs, (by simpa using hv.symm), (ForwardingRule.ofState_ok.mp hrs).2⟩
  · rw [List.append_assoc, get?_member?, get?_member?, get?_member?_last] at hv
    rcases ResourceState.ifChanged_ok.mp hcheck with ⟨-, rfl⟩ | ⟨-, o, ho, rfl⟩
    · simp at hv
    · cases o with
      | none => exact .inl (by simpa [Json.option] using hv.symm)
      | some c =>
        exact .inr ⟨c, by simpa [Json.option] using hv.symm, (HealthCheck.ofState_ok.mp ho).2 c rfl⟩

end LoadBalancer

/-! ## Node pools -/

namespace NodePool

/-- A pool is created or changed only with limits that allow the number of nodes. -/
structure Permits (s : ResourceState) (e : Exchange) : Prop where
  created : e.request.method = .post → ∃ d : Draft, e.request.body = some d.toJson ∧
    ∀ a, d.autoscaling = some a → a.Allows d.nodeCount
  changed : e.request.method = .patch → ∃ count limits,
    s.values.get? "node_count" = some (.uint32 count) ∧
      s.decode (Decode.list (Autoscaling.decoder "struct AutoscalingBlock")) "autoscaling" = .ok limits ∧
      ∀ a, limits.bind List.head? = some a → a.Allows count

variable {s : ResourceState} {body : Json} {e : Exchange}

theorem permits_of_draft {fallback : Option String} (h : lifecycle.draft fallback s = .ok body)
    (he : e.Carries .post body) : Permits s e := by
  obtain ⟨d, hd, h⟩ := bind_ok.mp h
  obtain rfl := Except.ok.inj h
  obtain ⟨count, -, hd⟩ := bind_ok.mp hd
  obtain ⟨name, -, hd⟩ := bind_ok.mp hd
  obtain ⟨size, -, hd⟩ := bind_ok.mp hd
  obtain ⟨limits, hlimits, hd⟩ := bind_ok.mp hd
  obtain ⟨labels, -, hd⟩ := bind_ok.mp hd
  obtain rfl := Except.ok.inj hd
  refine ⟨fun _ => ⟨_, he.2, (Autoscaling.ofState_ok.mp hlimits).2⟩, fun hpatch => ?_⟩
  cases he.1.symm.trans hpatch

theorem permits_of_changes (h : lifecycle.changes s = .ok body) (he : e.Carries .patch body) :
    Permits s e := by
  obtain ⟨c, hc, -⟩ := bind_ok.mp h
  obtain ⟨count, hcount, hc⟩ := bind_ok.mp hc
  obtain ⟨limits, hlimits, -⟩ := bind_ok.mp hc
  obtain ⟨⟨blocks, hblocks, rfl⟩, hallows⟩ := Autoscaling.ofState_ok.mp hlimits
  refine ⟨fun hpost => ?_, fun _ => ⟨count, blocks, requestedCount_ok.mp hcount, hblocks, hallows⟩⟩
  cases he.1.symm.trans hpost

end NodePool

/-! ## Records -/

namespace DnsRecord

/-- A record is created or changed only if its parts fit each other. -/
structure Permits (s : ResourceState) (e : Exchange) : Prop where
  created : e.request.method = .post → ∃ d : Draft, e.request.body = some d.toJson ∧
    Fits d.type d.name d.data d.priority
  changed : e.request.method = .patch → ∃ type name data priority,
    s.values.get? "type" = some (.string type) ∧ s.values.get? "name" = some (.string name) ∧
      s.values.get? "data" = some (.string data) ∧ requestedPriority s = .ok priority ∧
      Fits type name data priority

variable {s : ResourceState} {body : Json} {e : Exchange}

theorem permits_of_draft {fallback : Option String} (h : lifecycle.draft fallback s = .ok body)
    (he : e.Carries .post body) : Permits s e := by
  obtain ⟨d, hd, h⟩ := bind_ok.mp h
  obtain rfl := Except.ok.inj h
  refine ⟨fun _ => ⟨d, he.2, (ofState_ok.mp hd).2⟩, fun hpatch => ?_⟩
  cases he.1.symm.trans hpatch

theorem permits_of_changes (h : lifecycle.changes s = .ok body) (he : e.Carries .patch body) :
    Permits s e := by
  obtain ⟨c, hc, -⟩ := bind_ok.mp h
  obtain ⟨d, hd, -⟩ := bind_ok.mp hc
  obtain ⟨⟨htype, hname, hdata, hpriority, -⟩, hfits⟩ := ofState_ok.mp hd
  refine ⟨fun hpost => ?_, fun _ => ⟨d.type, d.name, d.data, d.priority, ?_, ?_, ?_, hpriority, hfits⟩⟩
  · cases he.1.symm.trans hpost
  · exact ResourceState.requiredText_ok.mp htype
  · exact ResourceState.requiredText_ok.mp hname
  · exact ResourceState.requiredText_ok.mp hdata

end DnsRecord

/-! ## Firewall groups -/

namespace FirewallRule

/-- The last item takes the place of another, so that no item is new. -/
theorem mem_of_swapRemove {α : Type} {items : List α} {position : Nat} {x : α}
    (h : x ∈ swapRemove items position) : x ∈ items := by
  unfold swapRemove at h
  split at h
  · cases h
  · next last hlast =>
    rcases List.mem_or_eq_of_mem_set ((List.dropLast_subset _) h) with hx | rfl
    · exact hx
    · exact List.mem_of_getLast? hlast

theorem mem_of_plan {rules : List FirewallRule} {wanted : List Content} {c : Content}
    (h : c ∈ (plan rules wanted).create) : c ∈ wanted := by
  induction rules generalizing wanted with
  | nil => exact h
  | cons r rest ih =>
    rw [plan] at h
    split at h
    · exact mem_of_swapRemove (ih h)
    · exact ih h

end FirewallRule

namespace FirewallGroup

/-- A group is created with its description alone, and a rule only if its parts fit each other. -/
def Permits (client : Client) (e : Exchange) : Prop :=
  e.request.method = .post →
    (e.request.url = client.url groups ∧
        ∃ text, e.request.body = some (.object [("description", .string text)])) ∨
      ∃ group c, e.request.url = client.url (rules group) ∧
        e.request.body = some (FirewallRule.Content.toJson c) ∧ c.Fits

variable (conn : Connection)

theorem permits_of_method {method : Method} (hmethod : method ≠ .post) {segments : List String}
    {body : Option Json} (e : Exchange)
    (he : e.request = ⟨method, conn.client.url segments, conn.client.headers body, body⟩) :
    Permits conn.client e :=
  fun hpost => absurd ((congrArg Request.method he).symm.trans hpost) hmethod

theorem listRules_permits (group : String) :
    Step.Keeps (Permits conn.client) (listRules conn group) :=
  .get (permits_of_method conn (by decide))

theorem deleteRule_permits (group rule : String) :
    Step.Keeps (Permits conn.client) (deleteRule conn group rule) :=
  .delete (permits_of_method conn (by decide))

theorem createRule_permits (group : String) {c : FirewallRule.Content} (hc : c.Fits) :
    Step.Keeps (Permits conn.client) (createRule conn group c) := by
  refine .bind (.post fun e he _ => ?_) fun _ => .pure _
  exact .inr ⟨group, c, congrArg Request.url he, congrArg Request.body he, hc⟩

theorem read_permits : Step.Sends (Permits conn.client) (read conn) := by
  intro work
  obtain ⟨es, htraffic, hreads⟩ := read_sends conn work
  exact ⟨es, htraffic, fun e he hpost => by cases (hreads e he).symm.trans hpost⟩

/-- The rules that are created are among the wanted ones, which were checked. -/
theorem syncRules_permits (group : String) :
    Step.Keeps (Permits conn.client) (syncRules conn group) := by
  refine .ofState_bind fun s wanted hwanted => ?_
  have hfits := (FirewallRule.desired_ok.mp hwanted).2
  refine .bind (listRules_permits conn group) fun found => ?_
  refine .bind (.forM fun rule _ => deleteRule_permits conn group rule) fun _ => .forM fun c hc => ?_
  exact createRule_permits conn group <|
    FirewallRule.Content.fits_of_check (hfits c (FirewallRule.mem_of_plan hc))

theorem create_permits : Step.Sends (Permits conn.client) (create conn) := by
  refine .ofState_bind fun s wanted _ => .ofState_bind fun s' body hbody => ?_
  obtain rfl := Except.ok.inj hbody
  refine (Step.Keeps.post fun e he _ => ?_).sends.bind fun group => ?_
  · exact .inl ⟨congrArg Request.url he, _, congrArg Request.body he⟩
  · exact .bind (.change _) fun _ =>
      (syncRules_permits conn group.id).sends.bind fun _ => read_permits conn

theorem update_permits : Step.Sends (Permits conn.client) (update conn) := by
  -- What comes after the description is the same whether or not it was sent.
  have hrules (id : String) : Step.Sends (Permits conn.client) (do
      if ← Step.ofState fun s => .ok (s.hasChange "rule") then
        syncRules conn id
      read conn : Step Unit) := by
    refine .ofState_bind fun s changed _ => ?_
    cases changed with
    | false => exact read_permits conn
    | true => exact (syncRules_permits conn id).sends.bind fun _ => read_permits conn
  refine .ofState_bind fun s id _ => .ofState_bind fun s' changed _ => ?_
  cases changed with
  | false => exact hrules id
  | true =>
    refine .ofState_bind fun s'' body _ => (Step.Keeps.patch ?_).sends.bind fun _ => hrules id
    exact permits_of_method conn (by decide)

end FirewallGroup

/-! ## All types -/

namespace ResourceType

/-- What may go out about a resource of a type with the planned state `s`. -/
def Permits (t : ResourceType) (client : Client) (s : ResourceState) (e : Exchange) : Prop :=
  match t with
  | dnsRecord => DnsRecord.Permits s e
  | firewallGroup => FirewallGroup.Permits client e
  | nodePool => NodePool.Permits s e
  | loadBalancer => LoadBalancer.Permits e
  | _ => True

variable {t : ResourceType} {client : Client} {s s' : ResourceState} {e : Exchange}

theorem permits_of_reads (h : e.Reads) : t.Permits client s e := by
  have hpost : e.request.method ≠ .post := fun hpost => by cases h.symm.trans hpost
  have hpatch : e.request.method ≠ .patch := fun hpatch => by cases h.symm.trans hpatch
  cases t with
  | dnsRecord => exact ⟨fun h => absurd h hpost, fun h => absurd h hpatch⟩
  | firewallGroup => exact fun h => absurd h hpost
  | nodePool => exact ⟨fun h => absurd h hpost, fun h => absurd h hpatch⟩
  | loadBalancer => exact ⟨fun h => absurd h hpost, fun h => absurd h hpatch⟩
  | _ => trivial

theorem Permits.of_values (h : t.Permits client s e) (hs : s.values = s'.values) :
    t.Permits client s' e := by
  obtain ⟨id, values, prior, timeouts⟩ := s
  obtain ⟨id', values', prior', timeouts'⟩ := s'
  obtain rfl : values = values' := hs
  cases t with
  | dnsRecord => exact ⟨h.created, h.changed⟩
  | nodePool => exact ⟨h.created, h.changed⟩
  | _ => exact h

section Lifecycle

variable {l : Lifecycle t.Object} {body : Json} (hlife : t.lifecycle? = some l)
include hlife

theorem permits_of_draft {fallback : Option String} (h : l.draft fallback s = .ok body)
    (he : e.Carries .post body) : t.Permits client s e := by
  cases t with
  | dnsRecord => cases hlife; exact DnsRecord.permits_of_draft h he
  | firewallGroup => cases hlife
  | nodePool => cases hlife; exact NodePool.permits_of_draft h he
  | loadBalancer => cases hlife; exact LoadBalancer.permits_of_draft h he
  | _ => trivial

theorem permits_of_changes (h : l.changes s = .ok body) (he : e.Carries .patch body) :
    t.Permits client s e := by
  cases t with
  | dnsRecord => cases hlife; exact DnsRecord.permits_of_changes h he
  | firewallGroup => cases hlife
  | nodePool => cases hlife; exact NodePool.permits_of_changes h he
  | loadBalancer => cases hlife; exact LoadBalancer.permits_of_changes h he
  | _ => trivial

end Lifecycle

variable (t) (conn : Connection) (w : World)

theorem create_permits (s : ResourceState) :
    ∃ es, Traffic w es (t.resource.create conn ⟨s, w⟩).2.world ∧
      ∀ e ∈ es, t.Permits conn.client s e := by
  cases hlife : t.lifecycle? with
  | none =>
    cases t with
    | firewallGroup => exact FirewallGroup.create_permits conn ⟨s, w⟩
    | _ => cases hlife
  | some l =>
    obtain ⟨es, htraffic, hcarries⟩ := l.create_carries conn s w
    rw [resource_of_lifecycle? hlife]
    refine ⟨es, htraffic, fun e he => ?_⟩
    rcases hcarries e he with hreads | ⟨body, hbody, he⟩
    · exact permits_of_reads hreads
    · exact permits_of_draft hlife hbody he

theorem update_permits (s : ResourceState) :
    ∃ es, Traffic w es (t.resource.update conn ⟨s, w⟩).2.world ∧
      ∀ e ∈ es, t.Permits conn.client s e := by
  cases hlife : t.lifecycle? with
  | none =>
    cases t with
    | firewallGroup => exact FirewallGroup.update_permits conn ⟨s, w⟩
    | _ => cases hlife
  | some l =>
    obtain ⟨es, htraffic, hcarries⟩ := l.update_carries conn s w
    rw [resource_of_lifecycle? hlife]
    refine ⟨es, htraffic, fun e he => ?_⟩
    rcases hcarries e he with hreads | ⟨body, hbody, he⟩
    · exact permits_of_reads hreads
    · exact permits_of_changes hlife hbody he

/-! ## Operations -/

/-- The planned state with the defaults of its type. -/
def planned (t : ResourceType) (document : Json) : ResourceState :=
  let s := ResourceState.ofJson document
  { s with values := t.resource.schema.fill s.values }

variable {t} {prior document : Json}

theorem prepared_values (h : t.resource.prepared s = .ok s') :
    s'.values = t.resource.schema.fill s.values :=
  ResourceState.values_of_prepare h

theorem preparedExisting_values
    (h : t.resource.preparedExisting ((ResourceState.ofJson document).withPrior prior) = .ok s) :
    s.values = (t.planned document).values := by
  rw [prepared_values (Portrait.prepared_of_existing h), ResourceState.withPrior_values]
  rfl

variable (t)

theorem created_permits (document : Json) :
    ∃ es, Traffic w es (t.resource.created conn document w).2 ∧
      ∀ e ∈ es, t.Permits conn.client (t.planned document) e := by
  cases hs : t.resource.prepared (.ofJson document) with
  | error failure =>
    simp only [Resource.created, hs]
    exact ⟨[], .refl w, by simp⟩
  | ok s =>
    simp only [Resource.created, hs]
    obtain ⟨es, htraffic, hpermits⟩ := t.create_permits conn w s
    exact ⟨es, htraffic, fun e he => (hpermits e he).of_values (prepared_values hs)⟩

/-- After an update that failed the resource is only read. -/
theorem updated_permits (prior document : Json) :
    ∃ es, Traffic w es (t.resource.updated conn prior document w).2 ∧
      ∀ e ∈ es, t.Permits conn.client (t.planned document) e := by
  cases hs : t.resource.preparedExisting ((ResourceState.ofJson document).withPrior prior) with
  | error failure =>
    simp only [Resource.updated, hs]
    exact ⟨[], .refl w, by simp⟩
  | ok s =>
    obtain ⟨es, htraffic, hpermits⟩ := t.update_permits conn w s
    obtain ⟨rest, hrest, hreads⟩ := t.portrait.updated_after conn hs w
    refine ⟨es ++ rest, htraffic.trans hrest, fun e he => ?_⟩
    rcases List.mem_append.mp he with he | he
    · exact (hpermits e he).of_values (preparedExisting_values hs)
    · exact permits_of_reads (hreads e he)

end ResourceType

/-! ## The server -/

namespace Server

variable {env : Environment} {server : Server} {conn : Connection} {t : ResourceType} {w : World}

theorem run_unconnected (hconn : server.connection = none) (prior document : Json) :
    (server.run env (.create t document) w).2.2 = w ∧
      (server.run env (.update t prior document) w).2.2 = w := by
  unfold run connected
  rw [hconn]
  exact ⟨rfl, rfl⟩

/-- Whatever is planned and whatever is answered, creating and changing a resource send only what is
permitted for the planned state. -/
theorem sends_permitted (env : Environment) (server : Server) (t : ResourceType) (prior planned : Json)
    (w : World) :
    (∃ es, Traffic w es (server.run env (.create t planned) w).2.2 ∧
        ∀ e ∈ es, ∃ conn, server.connection = some conn ∧
          t.Permits conn.client (t.planned planned) e) ∧
      ∃ es, Traffic w es (server.run env (.update t prior planned) w).2.2 ∧
        ∀ e ∈ es, ∃ conn, server.connection = some conn ∧
          t.Permits conn.client (t.planned planned) e := by
  cases hconn : server.connection with
  | none =>
    obtain ⟨hcreate, hupdate⟩ := @run_unconnected env server t w hconn prior planned
    rw [hcreate, hupdate]
    exact ⟨⟨[], .refl w, by simp⟩, ⟨[], .refl w, by simp⟩⟩
  | some conn =>
    obtain ⟨es, hcreate, hes⟩ := t.created_permits conn w planned
    obtain ⟨es', hupdate, hes'⟩ := t.updated_permits conn w prior planned
    rw [run_create hconn, run_update hconn]
    exact ⟨⟨es, hcreate, fun e he => ⟨conn, rfl, hes e he⟩⟩,
      ⟨es', hupdate, fun e he => ⟨conn, rfl, hes' e he⟩⟩⟩

end Server

end CloudProvider
