import CloudProvider.Proofs.Resource.Writing
import CloudProvider.Resource.Type

/-!
# The entries of each type

What each type with a life cycle writes into the state of its resource, and that it is as required.

* `fill_items`: a list of blocks that have their defaults.
* `PrivateLan.writing`, `LoadBalancer.writing`, …: one for each type.
* `ResourceType.Object`, `ResourceType.lifecycle?`, `ResourceType.writing`: all types at once.
-/

namespace CloudProvider
open Json Lifecycle
set_option autoImplicit false

/-! ## Blocks -/

theorem fill_items {α : Type} {attributes : Keyed Attribute} {toBlock : α → Json}
    (hblock : ∀ x, (AttrType.object attributes).fill (toBlock x) = toBlock x)
    (hobject : ∀ x, ∃ members, toBlock x = .object members) (xs : List α) :
    Json.mapObjects (fillAll attributes) (.array (xs.map toBlock)) = .array (xs.map toBlock) := by
  simp only [Json.mapObjects, List.map_map, array.injEq]
  apply List.map_congr_left
  intro x _
  obtain ⟨members, hmembers⟩ := hobject x
  have hfill := hblock x
  simp only [hmembers, AttrType.fill, Json.mapObjects, object.injEq] at hfill
  simp only [Function.comp_apply, hmembers, hfill]

theorem fitsAt_items {attributes : Keyed Attribute} {key : String} {a : Attribute} {items : List Json}
    (ha : Keyed.get? key attributes = some a) (hfill : a.type.fill (.array items) = .array items) :
    FitsAt attributes key (.array items) := by
  intro a' ha'
  obtain rfl := Option.some.inj (ha.symm.trans ha')
  exact hfill

theorem Target.fill_toJson (t : Target) : Target.type.fill t.toJson = t.toJson := rfl

theorem ForwardingRule.fill_toBlock (r : ForwardingRule) :
    ForwardingRule.type.fill r.toBlock = r.toBlock := by
  have hfill : ForwardingRule.type.fill r.toBlock =
      .object
        [("algorithm", .string r.algorithm), ("listener_port", .uint16 r.listenerPort),
          ("name", .string r.name), ("protocol", .string r.protocol),
          ("target", (AttrType.list Target.type).fill (.array (r.targets.map Target.toJson)))] := rfl
  have htargets : (AttrType.list Target.type).fill (.array (r.targets.map Target.toJson)) =
      .array (r.targets.map Target.toJson) :=
    fill_items Target.fill_toJson (fun _ => ⟨_, rfl⟩) r.targets
  rw [hfill, htargets]
  rfl

theorem HealthCheck.fill_toBlock (c : HealthCheck) : HealthCheck.type.fill c.toBlock = c.toBlock := by
  obtain ⟨protocol, port, path, interval, threshold⟩ := c
  cases path <;> rfl

theorem Autoscaling.fill_toJson (a : Autoscaling) : Autoscaling.type.fill a.toJson = a.toJson := rfl

theorem MaintenanceWindow.fill_toJson (w : MaintenanceWindow) :
    MaintenanceWindow.type.fill w.toJson = w.toJson := rfl

theorem FirewallRule.fill_toBlock (r : FirewallRule) : FirewallRule.type.fill r.toBlock = r.toBlock := by
  obtain ⟨id, protocol, ipType, subnet, size, port, notes⟩ := r
  cases port <;> cases notes <;> rfl

/-! ## The types -/

namespace PrivateLan

def entries (lan : PrivateLan) : List (String × Json) :=
  [("name", .string lan.name), ("region", .string lan.region), ("ip_range", .string lan.ipRange),
    ("description", .option .string (lan.description.filter (· ≠ ""))),
    ("status", .string lan.status)]

def writing : lifecycle.Writing where
  entries lan _ := lan.entries
  writeTo_eq _ _ := rfl
  nodup _ _ := by simp [entries]
  fits lan _ := by
    simp only [entries, List.forall_mem_cons]
    exact ⟨fitsAt_of_isScalar _ _ rfl, fitsAt_of_isScalar _ _ rfl, fitsAt_of_isScalar _ _ rfl,
      fitsAt_of_isFlat rfl rfl rfl _, fitsAt_of_isScalar _ _ rfl, by simp⟩
  noId _ _ := by simp [entries, ResourceState.idKey]
  noTimeouts _ _ := by simp [entries, Schema.timeoutsName]
  beside := by simp [lifecycle]
  stays _ _ _ hholds _ := hholds
  status p hp lan _ := by
    obtain rfl := Option.some.inj hp
    simp [entries, phases]
  plain := by rfl
  noIdAttribute := by decide

end PrivateLan

namespace NasInstance

def entries (nas : NasInstance) : List (String × Json) :=
  [("name", .string nas.name), ("region", .string nas.region), ("size_gb", .int64 nas.sizeGb),
    ("protocol", .string nas.protocol), ("private_lan_id", .string nas.privateLanId),
    ("ip_address", .option .string nas.ipAddress), ("mount_path", .option .string nas.mountPath),
    ("status", .string nas.status)]

def writing : lifecycle.Writing where
  entries nas _ := nas.entries
  writeTo_eq _ _ := rfl
  nodup _ _ := by simp [entries]
  fits nas _ := by
    simp only [entries, List.forall_mem_cons]
    exact ⟨fitsAt_of_isScalar _ _ rfl, fitsAt_of_isScalar _ _ rfl, fitsAt_of_isScalar _ _ rfl,
      fitsAt_of_isScalar _ _ rfl, fitsAt_of_isScalar _ _ rfl, fitsAt_of_isFlat rfl rfl rfl _,
      fitsAt_of_isFlat rfl rfl rfl _, fitsAt_of_isScalar _ _ rfl, by simp⟩
  noId _ _ := by simp [entries, ResourceState.idKey]
  noTimeouts _ _ := by simp [entries, Schema.timeoutsName]
  beside := by simp [lifecycle]
  stays _ _ _ hholds _ := hholds
  status p hp nas _ := by
    obtain rfl := Option.some.inj hp
    simp [entries, phases]
  plain := by rfl
  noIdAttribute := by decide

end NasInstance

namespace LoadBalancer

def entries (lb : LoadBalancer) : List (String × Json) :=
  [("name", .string lb.name), ("region", .string lb.region),
    ("private_lan_id", .option .string lb.privateLanId),
    ("forwarding_rule", .array (lb.forwardingRules.map ForwardingRule.toBlock)),
    ("health_check", .array (lb.healthCheck.toList.map HealthCheck.toBlock)),
    ("ips", .strings lb.ips), ("status", .string lb.status)]

def writing : lifecycle.Writing where
  entries lb _ := lb.entries
  writeTo_eq _ _ := rfl
  nodup _ _ := by simp [entries]
  fits lb _ := by
    simp only [entries, List.forall_mem_cons]
    have hrules := fill_items ForwardingRule.fill_toBlock (fun _ => ⟨_, rfl⟩) lb.forwardingRules
    have hcheck := fill_items HealthCheck.fill_toBlock (fun _ => ⟨_, rfl⟩) lb.healthCheck.toList
    exact ⟨fitsAt_of_isScalar _ _ rfl, fitsAt_of_isScalar _ _ rfl, fitsAt_of_isFlat rfl rfl rfl _,
      fitsAt_items rfl hrules, fitsAt_items rfl hcheck, fitsAt_of_isFlat rfl rfl rfl _,
      fitsAt_of_isScalar _ _ rfl, by simp⟩
  noId _ _ := by simp [entries, ResourceState.idKey]
  noTimeouts _ _ := by simp [entries, Schema.timeoutsName]
  beside := by simp [lifecycle]
  stays _ _ _ hholds _ := hholds
  status p hp lb _ := by
    obtain rfl := Option.some.inj hp
    simp [entries, phases]
  plain := by rfl
  noIdAttribute := by decide

end LoadBalancer

namespace NodePool

def entries (pool : NodePool) : List (String × Json) :=
  [("name", .string pool.name), ("node_size", .string pool.nodeSize),
    ("node_count", .uint32 pool.nodeCount),
    ("autoscaling", .array (pool.autoscaling.toList.map Autoscaling.toJson)),
    ("labels", labelsJson pool.labels), ("status", .string pool.status)]

def writing : lifecycle.Writing where
  entries pool _ := pool.entries
  writeTo_eq _ _ := rfl
  nodup _ _ := by simp [entries]
  fits pool _ := by
    simp only [entries, List.forall_mem_cons]
    have hlimits := fill_items Autoscaling.fill_toJson (fun _ => ⟨_, rfl⟩) pool.autoscaling.toList
    exact ⟨fitsAt_of_isScalar _ _ rfl, fitsAt_of_isScalar _ _ rfl, fitsAt_of_isScalar _ _ rfl,
      fitsAt_items rfl hlimits, fitsAt_of_isFlat rfl rfl rfl _, fitsAt_of_isScalar _ _ rfl, by simp⟩
  noId _ _ := by simp [entries, ResourceState.idKey]
  noTimeouts _ _ := by simp [entries, Schema.timeoutsName]
  beside := by simp [lifecycle]
  stays _ _ _ hholds _ := hholds
  status p hp pool _ := by
    obtain rfl := Option.some.inj hp
    simp [entries, phases]
  plain := by rfl
  noIdAttribute := by decide

end NodePool

namespace KubernetesCluster

def entries (cluster : KubernetesCluster) : List (String × Json) :=
  [("name", .string cluster.name), ("version", .string cluster.version),
    ("region", .string cluster.region), ("private_lan_id", .option .string cluster.privateLanId),
    ("maintenance_window",
      .array (cluster.maintenanceWindow.toList.map MaintenanceWindow.toJson)),
    ("api_allow_list", .strings cluster.apiAllowList),
    ("endpoint", .option .string cluster.endpoint), ("status", .string cluster.status)]

def writing : lifecycle.Writing where
  entries cluster _ := cluster.entries
  writeTo_eq _ _ := rfl
  nodup _ _ := by simp [entries]
  fits cluster _ := by
    simp only [entries, List.forall_mem_cons]
    have hwindow := fill_items MaintenanceWindow.fill_toJson (fun _ => ⟨_, rfl⟩)
      cluster.maintenanceWindow.toList
    exact ⟨fitsAt_of_isScalar _ _ rfl, fitsAt_of_isScalar _ _ rfl, fitsAt_of_isScalar _ _ rfl,
      fitsAt_of_isFlat rfl rfl rfl _, fitsAt_items rfl hwindow, fitsAt_of_isFlat rfl rfl rfl _,
      fitsAt_of_isFlat rfl rfl rfl _, fitsAt_of_isScalar _ _ rfl, by simp⟩
  noId _ _ := by simp [entries, ResourceState.idKey]
  noTimeouts _ _ := by simp [entries, Schema.timeoutsName]
  beside := by
    intro a ha
    obtain rfl := Option.some.inj ha
    simp [credentials, entries, ResourceState.idKey, Schema.timeoutsName]
  stays _ _ _ hholds _ := hholds
  status p hp cluster _ := by
    obtain rfl := Option.some.inj hp
    simp [entries, phases]
  plain := by rfl
  noIdAttribute := by decide

end KubernetesCluster

namespace DnsRecord

def entries (r : DnsRecord) : List (String × Json) :=
  [("name", .string r.name), ("type", .string r.type), ("data", .string r.data),
    ("ttl", .uint32 r.ttl), ("priority", .option .uint32 r.priority)]

def writing : lifecycle.Writing where
  entries r _ := r.entries
  writeTo_eq _ _ := rfl
  nodup _ _ := by simp [entries]
  fits r _ := by
    simp only [entries, List.forall_mem_cons]
    exact ⟨fitsAt_of_isScalar _ _ rfl, fitsAt_of_isScalar _ _ rfl, fitsAt_of_isScalar _ _ rfl,
      fitsAt_of_isScalar _ _ rfl, fitsAt_of_isFlat rfl rfl rfl _, by simp⟩
  noId _ _ := by simp [entries, ResourceState.idKey]
  noTimeouts _ _ := by simp [entries, Schema.timeoutsName]
  beside := by simp [lifecycle]
  stays _ _ _ hholds _ := hholds
  status := by simp [lifecycle]
  plain := by rfl
  noIdAttribute := by decide

end DnsRecord

namespace EmailIdentity

def entries (e : EmailIdentity) : List (String × Json) :=
  [("identity", .string e.identity), ("dkim_signing_enabled", .bool e.dkimSigningEnabled),
    ("configuration_set", .option .string e.configurationSet),
    ("identity_type",
      .string (if e.identityType = "" then kindOf e.identity else e.identityType)),
    ("verification_status", .string e.verificationStatus), ("dkim_tokens", .strings e.dkimTokens)]

def writing : lifecycle.Writing where
  entries e _ := e.entries
  writeTo_eq _ _ := rfl
  nodup _ _ := by simp [entries]
  fits e _ := by
    simp only [entries, List.forall_mem_cons]
    exact ⟨fitsAt_of_isScalar _ _ rfl, fitsAt_of_isScalar _ _ rfl, fitsAt_of_isFlat rfl rfl rfl _,
      fitsAt_of_isScalar _ _ rfl, fitsAt_of_isScalar _ _ rfl, fitsAt_of_isFlat rfl rfl rfl _,
      by simp⟩
  noId _ _ := by simp [entries, ResourceState.idKey]
  noTimeouts _ _ := by simp [entries, Schema.timeoutsName]
  beside := by simp [lifecycle]
  stays _ _ _ hholds _ := hholds
  status := by simp [lifecycle]
  plain := by rfl
  noIdAttribute := by decide

end EmailIdentity

namespace DnsDomain

/-- A default address that is given stays, so that none is written over it. -/
def entries (zone : DnsDomain) (s : ResourceState) : List (String × Json) :=
  [("domain", .string zone.domain), ("dnssec_enabled", .bool zone.dnssecEnabled),
    ("name_servers", .strings zone.nameServers)] ++
    if s.isSet "default_ip" then [] else [("default_ip", .option .string zone.defaultIp)]

theorem isSet_default_ip (zone : DnsDomain) (s : ResourceState) :
    (s.set "domain" (.string zone.domain)
      |>.set "dnssec_enabled" (.bool zone.dnssecEnabled)
      |>.set "name_servers" (.strings zone.nameServers)).isSet "default_ip" =
      s.isSet "default_ip" := by
  simp [ResourceState.isSet, ResourceState.value?, ResourceState.set, Keyed.get?_insert_of_ne]

def writing : lifecycle.Writing where
  entries := entries
  writeTo_eq zone s := by
    change zone.writeTo s = _
    rw [writeTo, isSet_default_ip, entries]
    cases s.isSet "default_ip" <;> rfl
  nodup zone s := by
    rw [entries]
    cases s.isSet "default_ip" <;> simp
  fits zone s := by
    have hbase : ∀ entry ∈ [("domain", Json.string zone.domain),
        ("dnssec_enabled", .bool zone.dnssecEnabled), ("name_servers", .strings zone.nameServers)],
        FitsAt schema.attributes entry.1 entry.2 := by
      simp only [List.forall_mem_cons]
      exact ⟨fitsAt_of_isScalar _ _ rfl, fitsAt_of_isScalar _ _ rfl,
        fitsAt_of_isFlat rfl rfl rfl _, by simp⟩
    intro entry hentry
    rcases List.mem_append.mp hentry with hentry | hentry
    · exact hbase entry hentry
    · split at hentry
      · cases hentry
      · obtain rfl := List.mem_singleton.mp hentry
        exact fitsAt_of_isFlat rfl rfl rfl _
  noId zone s := by
    rw [entries]
    cases s.isSet "default_ip" <;> simp [ResourceState.idKey]
  noTimeouts zone s := by
    rw [entries]
    cases s.isSet "default_ip" <;> simp [Schema.timeoutsName]
  beside := by simp [lifecycle]
  stays zone s s' hholds hframe := by
    intro entry hentry
    rcases List.mem_append.mp hentry with hbase | hlast
    · exact hholds entry (List.mem_append_left _ hbase)
    · split at hlast
      · cases hlast
      · next hunset =>
        -- The address is not set now, so that it was not set before either.
        have hbefore : s.isSet "default_ip" = false := by
          by_cases hset : s.isSet "default_ip" = true
          · have hkey : "default_ip" ∉ (entries zone s).map (·.1) := by simp [entries, hset]
            have hsame := hframe "default_ip" hkey (by simp [lifecycle])
            simp only [ResourceState.isSet, ResourceState.value?, hsame] at hunset hset
            exact absurd hset hunset
          · simpa using hset
        refine hholds entry (List.mem_append_right _ ?_)
        simpa [hbefore] using hlast
  status := by simp [lifecycle]
  plain := by rfl
  noIdAttribute := by decide

end DnsDomain

/-! ## All types -/

namespace ResourceType

/-- The objects that a type is about. -/
def Object : ResourceType → Type
  | dnsDomain => DnsDomain
  | dnsRecord => DnsRecord
  | emailIdentity => EmailIdentity
  | firewallGroup => FirewallGroup
  | kubernetesCluster => KubernetesCluster
  | nodePool => NodePool
  | loadBalancer => LoadBalancer
  | nasInstance => NasInstance
  | privateLan => PrivateLan

/-- The life cycle of a type. Only firewall groups have none, since their rules are objects of their
own. -/
def lifecycle? : (t : ResourceType) → Option (Lifecycle t.Object)
  | dnsDomain => some DnsDomain.lifecycle
  | dnsRecord => some DnsRecord.lifecycle
  | emailIdentity => some EmailIdentity.lifecycle
  | firewallGroup => none
  | kubernetesCluster => some KubernetesCluster.lifecycle
  | nodePool => some NodePool.lifecycle
  | loadBalancer => some LoadBalancer.lifecycle
  | nasInstance => some NasInstance.lifecycle
  | privateLan => some PrivateLan.lifecycle

theorem resource_of_lifecycle? {t : ResourceType} {l : Lifecycle t.Object}
    (h : t.lifecycle? = some l) : t.resource = l.resource := by
  cases t <;> cases h <;> rfl

theorem writing {t : ResourceType} {l : Lifecycle t.Object} (h : t.lifecycle? = some l) :
    Nonempty l.Writing := by
  cases t <;> cases h
  · exact ⟨DnsDomain.writing⟩
  · exact ⟨DnsRecord.writing⟩
  · exact ⟨EmailIdentity.writing⟩
  · exact ⟨KubernetesCluster.writing⟩
  · exact ⟨NodePool.writing⟩
  · exact ⟨LoadBalancer.writing⟩
  · exact ⟨NasInstance.writing⟩
  · exact ⟨PrivateLan.writing⟩

end ResourceType

end CloudProvider
