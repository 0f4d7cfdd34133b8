import CloudProvider.Proofs.Resource.FirewallGroup
import CloudProvider.Proofs.Schema.Typed

/-!
# Objects are written in the declared types

Whatever object the API shows, what is written of it has the types that the schema declares, also where
the schema and the blocks that are written are given one by one.

* `ForwardingRule.hasType_toBlock`, `FirewallRule.hasType_toBlock`, …: the blocks.
* `PrivateLan.typed`, `LoadBalancer.typed`, …: the entries of each type.
* `Lifecycle.Writing.typed_write`: an object with the text beside it.
-/

namespace CloudProvider
open Json
set_option autoImplicit false

/-! ## Blocks -/

theorem Target.hasType_toJson (t : Target) : t.toJson.hasType Target.type = true := rfl

theorem ForwardingRule.hasType_toBlock (r : ForwardingRule) :
    r.toBlock.hasType ForwardingRule.type = true := by
  refine membersHaveType_iff.mpr ?_
  simp only [Typed, List.forall_mem_cons]
  exact ⟨typedAt_of_hasType rfl rfl, typedAt_of_hasType rfl rfl, typedAt_of_hasType rfl rfl,
    typedAt_of_hasType rfl rfl, typedAt_items rfl (.inl rfl) Target.hasType_toJson, by simp⟩

theorem HealthCheck.hasType_toBlock (c : HealthCheck) : c.toBlock.hasType HealthCheck.type = true := by
  obtain ⟨protocol, port, path, interval, threshold⟩ := c
  cases path <;> rfl

theorem Autoscaling.hasType_toJson (a : Autoscaling) : a.toJson.hasType Autoscaling.type = true := rfl

theorem MaintenanceWindow.hasType_toJson (w : MaintenanceWindow) :
    w.toJson.hasType MaintenanceWindow.type = true := rfl

theorem FirewallRule.hasType_toBlock (r : FirewallRule) : r.toBlock.hasType FirewallRule.type = true := by
  obtain ⟨id, protocol, ipType, subnet, size, port, notes⟩ := r
  cases port <;> cases notes <;> rfl

/-! ## The types -/

theorem PrivateLan.typed (lan : PrivateLan) :
    ∀ entry ∈ lan.entries, TypedAt schema.attributes entry.1 entry.2 := by
  simp only [entries, List.forall_mem_cons]
  exact ⟨typedAt_of_hasType rfl rfl, typedAt_of_hasType rfl rfl, typedAt_of_hasType rfl rfl,
    typedAt_option rfl fun _ => rfl, typedAt_of_hasType rfl rfl, by simp⟩

theorem NasInstance.typed (nas : NasInstance) :
    ∀ entry ∈ nas.entries, TypedAt schema.attributes entry.1 entry.2 := by
  simp only [entries, List.forall_mem_cons]
  exact ⟨typedAt_of_hasType rfl rfl, typedAt_of_hasType rfl rfl, typedAt_of_hasType rfl rfl,
    typedAt_of_hasType rfl rfl, typedAt_of_hasType rfl rfl, typedAt_option rfl fun _ => rfl,
    typedAt_option rfl fun _ => rfl, typedAt_of_hasType rfl rfl, by simp⟩

theorem LoadBalancer.typed (lb : LoadBalancer) :
    ∀ entry ∈ lb.entries, TypedAt schema.attributes entry.1 entry.2 := by
  simp only [entries, List.forall_mem_cons]
  exact ⟨typedAt_of_hasType rfl rfl, typedAt_of_hasType rfl rfl, typedAt_option rfl fun _ => rfl,
    typedAt_items rfl (.inl rfl) ForwardingRule.hasType_toBlock,
    typedAt_items rfl (.inl rfl) HealthCheck.hasType_toBlock, typedAt_strings rfl (.inl rfl),
    typedAt_of_hasType rfl rfl, by simp⟩

theorem NodePool.typed (pool : NodePool) :
    ∀ entry ∈ pool.entries, TypedAt schema.attributes entry.1 entry.2 := by
  simp only [entries, List.forall_mem_cons]
  exact ⟨typedAt_of_hasType rfl rfl, typedAt_of_hasType rfl rfl, typedAt_of_hasType rfl rfl,
    typedAt_items rfl (.inl rfl) Autoscaling.hasType_toJson,
    typedAt_of_hasType rfl (valuesHaveType_map (fun _ => rfl) _), typedAt_of_hasType rfl rfl, by simp⟩

theorem KubernetesCluster.typed (cluster : KubernetesCluster) :
    ∀ entry ∈ cluster.entries, TypedAt schema.attributes entry.1 entry.2 := by
  simp only [entries, List.forall_mem_cons]
  exact ⟨typedAt_of_hasType rfl rfl, typedAt_of_hasType rfl rfl, typedAt_of_hasType rfl rfl,
    typedAt_option rfl fun _ => rfl, typedAt_items rfl (.inl rfl) MaintenanceWindow.hasType_toJson,
    typedAt_strings rfl (.inr rfl), typedAt_option rfl fun _ => rfl, typedAt_of_hasType rfl rfl, by simp⟩

theorem DnsRecord.typed (r : DnsRecord) :
    ∀ entry ∈ r.entries, TypedAt schema.attributes entry.1 entry.2 := by
  simp only [entries, List.forall_mem_cons]
  exact ⟨typedAt_of_hasType rfl rfl, typedAt_of_hasType rfl rfl, typedAt_of_hasType rfl rfl,
    typedAt_of_hasType rfl rfl, typedAt_option rfl fun _ => rfl, by simp⟩

theorem EmailIdentity.typed (e : EmailIdentity) :
    ∀ entry ∈ e.entries, TypedAt schema.attributes entry.1 entry.2 := by
  simp only [entries, List.forall_mem_cons]
  exact ⟨typedAt_of_hasType rfl rfl, typedAt_of_hasType rfl rfl, typedAt_option rfl fun _ => rfl,
    typedAt_of_hasType rfl rfl, typedAt_of_hasType rfl rfl, typedAt_strings rfl (.inl rfl), by simp⟩

theorem DnsDomain.typed (zone : DnsDomain) (s : ResourceState) :
    ∀ entry ∈ zone.entries s, TypedAt schema.attributes entry.1 entry.2 := by
  have hbase : ∀ entry ∈ [("domain", Json.string zone.domain),
      ("dnssec_enabled", .bool zone.dnssecEnabled), ("name_servers", .strings zone.nameServers)],
      TypedAt schema.attributes entry.1 entry.2 := by
    simp only [List.forall_mem_cons]
    exact ⟨typedAt_of_hasType rfl rfl, typedAt_of_hasType rfl rfl, typedAt_strings rfl (.inl rfl), by simp⟩
  intro entry hentry
  rcases List.mem_append.mp hentry with hentry | hentry
  · exact hbase entry hentry
  · split at hentry
    · cases hentry
    · obtain rfl := List.mem_singleton.mp hentry
      exact typedAt_option rfl fun _ => rfl

theorem FirewallGroup.typed (group : FirewallGroup) (rules : List FirewallRule) :
    ∀ entry ∈ group.entries rules, TypedAt schema.attributes entry.1 entry.2 := by
  simp only [entries, List.forall_mem_cons]
  exact ⟨typedAt_of_hasType rfl rfl, typedAt_items rfl (.inr rfl) FirewallRule.hasType_toBlock, by simp⟩

/-! ## Objects with the text beside them -/

theorem Lifecycle.Writing.typed_write {α : Type} {l : Lifecycle α} (h : l.Writing)
    (hentries : ∀ x s, ∀ entry ∈ h.entries x s, TypedAt l.schema.attributes entry.1 entry.2)
    (hbeside : ∀ a, l.attachment = some a →
      ∀ text, TypedAt l.schema.attributes a.name (.string text))
    (v : α × Option String) {s : ResourceState} (hs : Typed l.schema.attributes s.values) :
    Typed l.schema.attributes (l.write v s).values := by
  have hobject : Typed l.schema.attributes (l.writeTo v.1 s).values := by
    rw [h.writeTo_eq]
    exact ResourceState.typed_setAll hs (hentries v.1 s)
  unfold write
  split
  · next a text ha _ => exact hobject.insert (hbeside a ha text)
  · exact hobject

theorem Lifecycle.Writing.typed_write_alone {α : Type} {l : Lifecycle α} (h : l.Writing)
    (hentries : ∀ x s, ∀ entry ∈ h.entries x s, TypedAt l.schema.attributes entry.1 entry.2)
    (hbeside : l.attachment = none) (v : α × Option String) {s : ResourceState}
    (hs : Typed l.schema.attributes s.values) :
    Typed l.schema.attributes (l.write v s).values := by
  refine h.typed_write hentries (fun a ha => ?_) v hs
  rw [hbeside] at ha
  cases ha

end CloudProvider
