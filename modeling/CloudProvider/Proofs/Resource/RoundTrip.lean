import CloudProvider.Proofs.Resource.Blocks
import CloudProvider.Proofs.Resource.Checks
import CloudProvider.Proofs.Resource.FirewallGroup

/-!
# What is written describes what was written

An object that is written into an empty state and then drafted again gives the request for an object with
the same content, exactly if it passes the checks of its type and is written in the usual way.

* `TimeOfDay.parse_text`: times are printed as they are read.
* `LoadBalancer.draft_written`, `NodePool.draft_written`, …: one lemma for each type.
* `ResourceType.draft_restores`: all types at once.
-/

namespace CloudProvider
open Json
set_option autoImplicit false

/-! ## Values that were written -/

namespace ResourceState

variable {s : ResourceState} {key : String}

theorem text?_of_option {o : Option String} (h : s.values.get? key = some (.option .string o)) :
    s.text? key = o := by
  rw [text?, value?, h]
  cases o <;> rfl

theorem texts_of_strings {ts : List String} (h : s.values.get? key = some (.strings ts)) :
    s.texts key = ts := by
  have hitems : s.items key = ts.map .string := by
    rw [items, value?, h]
    rfl
  rw [texts, hitems, List.filterMap_map]
  exact List.filterMap_some

theorem decode_of_get? {α : Type} {decode : Decoder α} {v : Json} {a : α}
    (h : s.values.get? key = some v) (hv : v.isNull = false) (ha : decode v = .ok a) :
    s.decode decode key = .ok (some a) := by
  refine decode_ok.mpr (.inr ⟨v, a, ?_, ha, rfl⟩)
  rw [value?, h, Option.filter_some, hv]
  rfl

theorem decode_blocks {α : Type} {decode : Decoder α} {encode : α → Json} {xs : List α}
    (hreads : Decode.Reads decode encode) (h : s.values.get? key = some (.array (xs.map encode))) :
    s.decode (Decode.list decode) key = .ok (some xs) :=
  decode_of_get? h rfl (hreads.list xs)

theorem int?_of_int64 {n : Int64} (h : s.values.get? key = some (.int64 n)) : s.int? key = some n :=
  int?_eq_some.mpr ⟨_, h, Integer.toInt64?_eq_some.mpr (int64_eq_iff.mp rfl)⟩

theorem region_of_text {region : String} (h : s.values.get? "region" = some (.string region))
    (fallback : Option String) : s.region fallback = .ok region := by
  rw [ResourceState.region, text?_eq_some.mpr h]
  rfl

end ResourceState

theorem Lifecycle.Writing.get?_writeTo {α : Type} {l : Lifecycle α} (h : l.Writing) {x : α}
    {s : ResourceState} {key : String} {v : Json} (hentry : (key, v) ∈ h.entries x s) :
    (l.writeTo x s).values.get? key = some v := by
  rw [h.writeTo_eq]
  exact (ResourceState.holds_setAll (h.nodup x s) s _ hentry).get?

/-! ## Times -/

namespace TimeOfDay

theorem number_twoDigits {bound : Nat} (n : Fin bound) (hbound : bound ≤ 100) (rest : List Char) :
    number bound ((twoDigits n).toList ++ rest) = .ok (n, rest) := by
  have hdigit : ∀ m < 10, Text.isDigit (Char.ofNat (48 + m)) = true ∧
      Text.isBlank (Char.ofNat (48 + m)) = false ∧ Text.digitValue (Char.ofNat (48 + m)) = m := by
    decide +kernel
  have hn := n.isLt
  obtain ⟨hhigh, hblank, hvalue⟩ := hdigit (n / 10) (by omega)
  obtain ⟨hlow, -, hvalue'⟩ := hdigit (n % 10) (by omega)
  have hchars : (twoDigits n).toList = [Char.ofNat (48 + n / 10), Char.ofNat (48 + n % 10)] := by
    rw [← twoDigits_eq (n / 10) (by omega) (n % 10) (by omega), Nat.div_add_mod]
  have hread : digits ((twoDigits n).toList ++ rest) = .ok (n.val, rest) := by
    rw [hchars, List.cons_append, digits, Text.trimStart, List.dropWhile_cons, hblank]
    simp only [Bool.false_eq_true, if_false, List.cons_append, List.nil_append, hhigh, hlow, if_true,
      hvalue, hvalue', Nat.div_add_mod]
  simp only [number, hread, bind, Except.bind, dif_pos hn]
  rfl

theorem parse_text (t : TimeOfDay) : parse t.text = .ok t := by
  have htext : t.text.toList = (twoDigits t.hour).toList ++ (':' :: ((twoDigits t.minute).toList ++
      (':' :: ((twoDigits t.second).toList ++ [])))) := by
    have htoString (u : String) : toString u = u := rfl
    simp only [text, htoString, String.toList_append, List.append_nil, List.append_assoc]
    rfl
  rw [parse, htext]
  simp only [number_twoDigits _ (show 24 ≤ 100 by decide), number_twoDigits _ (show 60 ≤ 100 by decide),
    number_twoDigits _ (show 61 ≤ 100 by decide), colon, bind, Except.bind, if_true, List.isEmpty_nil]
  rfl

end TimeOfDay

/-- A window is left as it is if its time is written in the usual way. -/
theorem MaintenanceWindow.normalized_eq_self {w : MaintenanceWindow} :
    w.normalized = .ok w ↔ ∃ t : TimeOfDay, w.time = t.text := by
  obtain ⟨day, time⟩ := w
  unfold normalized
  constructor
  · intro h
    split at h
    · next t _ => exact ⟨t, (congrArg MaintenanceWindow.time (Except.ok.inj h)).symm⟩
    · cases h
  · rintro ⟨t, rfl⟩
    simp only [TimeOfDay.parse_text]

/-! ## The types

Of each type, `content` is what is sent to create an object that has the content of a given one. -/

open ResourceState

namespace DnsDomain

def content (zone : DnsDomain) : Draft :=
  ⟨zone.domain, zone.defaultIp, zone.dnssecEnabled⟩

theorem draft_written (zone : DnsDomain) {s : ResourceState} (hs : s.isSet "default_ip" = false) :
    Draft.ofState (zone.writeTo s) = .ok zone.content ↔ Text.lowercase zone.domain = zone.domain := by
  have hentries : writing.entries zone s = [("domain", .string zone.domain),
      ("dnssec_enabled", .bool zone.dnssecEnabled), ("name_servers", .strings zone.nameServers),
      ("default_ip", .option .string zone.defaultIp)] := by
    simp [writing, entries, hs]
  have hdomain : (zone.writeTo s).requiredText "domain" = .ok zone.domain :=
    requiredText_ok.mpr (writing.get?_writeTo (by simp [hentries]))
  have hip : (zone.writeTo s).text? "default_ip" = zone.defaultIp :=
    text?_of_option (writing.get?_writeTo (by simp [hentries]))
  have hsigned : (zone.writeTo s).bool? "dnssec_enabled" = some zone.dnssecEnabled :=
    bool?_eq_some.mpr (writing.get?_writeTo (by simp [hentries]))
  -- The draft is never refused, but the name of the zone is changed on the way.
  have hdraft : Draft.ofState (zone.writeTo s) =
      .ok ⟨Text.lowercase zone.domain, zone.defaultIp, zone.dnssecEnabled⟩ := by
    simp only [Draft.ofState, requestedSigning, hdomain, hip, hsigned]
    rfl
  rw [hdraft]
  simp [content]

end DnsDomain

namespace DnsRecord

def content (r : DnsRecord) : Draft :=
  ⟨r.name, r.type, r.data, r.ttl, r.priority⟩

theorem draft_written (r : DnsRecord) (s : ResourceState) :
    Draft.ofState (r.writeTo s) = .ok r.content ↔ Fits r.type r.name r.data r.priority := by
  have hwritten {key : String} {v : Json} (hentry : (key, v) ∈ r.entries) :
      (r.writeTo s).values.get? key = some v := writing.get?_writeTo hentry
  have httl : requestedTtl (r.writeTo s) = .ok r.ttl := by
    have hentry : (r.writeTo s).values.get? "ttl" = some (.uint32 r.ttl) := hwritten (by simp [entries])
    obtain ⟨n, hn, hvalue⟩ := Option.bind_eq_some_iff.mp (uint32_eq_some.mpr hentry)
    simp only [requestedTtl, hn, Option.getD_some, hvalue]
  have hpriority : requestedPriority (r.writeTo s) = .ok r.priority := by
    have hentry : (r.writeTo s).values.get? "priority" = some (.option .uint32 r.priority) :=
      hwritten (by simp [entries])
    cases hr : r.priority with
    | none =>
      rw [hr] at hentry
      have hnone : (r.writeTo s).int? "priority" = none := by
        rw [int?, value?, hentry]
        rfl
      simp only [requestedPriority, hnone]
    | some n =>
      rw [hr] at hentry
      obtain ⟨i, hi, hvalue⟩ := Option.bind_eq_some_iff.mp (uint32_eq_some.mpr hentry)
      simp only [requestedPriority, hi, hvalue]
  rw [ofState_ok]
  refine and_iff_right ⟨?_, ?_, ?_, hpriority, httl⟩
  · exact requiredText_ok.mpr (hwritten (by simp [entries, content]))
  · exact requiredText_ok.mpr (hwritten (by simp [entries, content]))
  · exact requiredText_ok.mpr (hwritten (by simp [entries, content]))

end DnsRecord

namespace EmailIdentity

def content (e : EmailIdentity) : Draft :=
  ⟨e.identity, e.dkimSigningEnabled, e.configurationSet⟩

theorem draft_written (e : EmailIdentity) (s : ResourceState) :
    Draft.ofState (e.writeTo s) = .ok e.content := by
  have hwritten {key : String} {v : Json} (hentry : (key, v) ∈ e.entries) :
      (e.writeTo s).values.get? key = some v := writing.get?_writeTo hentry
  have hidentity : (e.writeTo s).requiredText "identity" = .ok e.identity :=
    requiredText_ok.mpr (hwritten (by simp [entries]))
  have hsigned : (e.writeTo s).bool? "dkim_signing_enabled" = some e.dkimSigningEnabled :=
    bool?_eq_some.mpr (hwritten (by simp [entries]))
  have hset : (e.writeTo s).text? "configuration_set" = e.configurationSet :=
    text?_of_option (hwritten (by simp [entries]))
  simp only [Draft.ofState, requestedSigning, hidentity, hsigned, hset]
  rfl

end EmailIdentity

namespace FirewallGroup

def content (group : FirewallGroup) (rules : List FirewallRule) : Json × List FirewallRule.Content :=
  (.object [("description", .string group.description)], rules.map (·.content))

/-- What a resource describes: a group and its rules. -/
def described (s : ResourceState) : Except ProviderError (Json × List FirewallRule.Content) := do
  let rules ← FirewallRule.desired s
  return (draft s, rules)

theorem draft_written (group : FirewallGroup) (rules : List FirewallRule) (s : ResourceState) :
    described (group.writeTo rules s) = .ok (group.content rules) ↔
      ∀ r ∈ rules, r.content.check = .ok () := by
  have hwritten {key : String} {v : Json} (hentry : (key, v) ∈ group.entries rules) :
      (group.writeTo rules s).values.get? key = some v :=
    (holds_setAll (by simp [entries]) s _ hentry).get?
  have hdescription : (group.writeTo rules s).text? "description" = some group.description :=
    text?_eq_some.mpr (hwritten (by simp [entries]))
  have hgroup : draft (group.writeTo rules s) =
      .object [("description", .string group.description)] := by
    rw [draft, hdescription]
    rfl
  have hrules : (group.writeTo rules s).decode (Decode.list FirewallRule.blockDecoder) "rule" =
      .ok (some (rules.map (·.content))) := by
    have hentry : (group.writeTo rules s).values.get? "rule" =
        some (.array (rules.map FirewallRule.toBlock)) := hwritten (by simp [entries])
    refine decode_of_get? hentry rfl ?_
    rw [Decode.list]
    -- Nothing else that is known of the rules may be in the way of the induction.
    clear hwritten hdescription hgroup hentry
    induction rules with
    | nil => rfl
    | cons r rest ih =>
      simp only [List.map_cons, Decode.items, r.reads_block, ih]
      rfl
  have hdesired {cs : List FirewallRule.Content} :
      FirewallRule.desired (group.writeTo rules s) = .ok cs ↔
        rules.map (·.content) = cs ∧ ∀ c ∈ cs, c.check = .ok () := by
    rw [FirewallRule.desired_ok, hrules]
    simp
  rw [described, bind_ok, hgroup, content]
  constructor
  · rintro ⟨cs, hcs, h⟩
    obtain ⟨rfl, hcheck⟩ := hdesired.mp hcs
    exact fun r hr => hcheck _ (List.mem_map_of_mem hr)
  · intro hcheck
    refine ⟨_, hdesired.mpr ⟨rfl, ?_⟩, rfl⟩
    simpa using hcheck

end FirewallGroup

namespace KubernetesCluster

def content (cluster : KubernetesCluster) : Draft :=
  ⟨cluster.name, cluster.version, cluster.region, cluster.privateLanId, cluster.maintenanceWindow,
    cluster.apiAllowList⟩

theorem draft_written (cluster : KubernetesCluster) (fallback : Option String) (s : ResourceState) :
    (do Draft.ofState (← (cluster.writeTo s).region fallback) (cluster.writeTo s)) = .ok cluster.content ↔
      ∀ w, cluster.maintenanceWindow = some w → ∃ t : TimeOfDay, w.time = t.text := by
  have hwritten {key : String} {v : Json} (hentry : (key, v) ∈ cluster.entries) :
      (cluster.writeTo s).values.get? key = some v := writing.get?_writeTo hentry
  have hregion : (cluster.writeTo s).region fallback = .ok cluster.region :=
    region_of_text (hwritten (by simp [entries])) fallback
  have hname : (cluster.writeTo s).requiredText "name" = .ok cluster.name :=
    requiredText_ok.mpr (hwritten (by simp [entries]))
  have hversion : (cluster.writeTo s).requiredText "version" = .ok cluster.version :=
    requiredText_ok.mpr (hwritten (by simp [entries]))
  have hlan : (cluster.writeTo s).text? "private_lan_id" = cluster.privateLanId :=
    text?_of_option (hwritten (by simp [entries]))
  have hallowed : (cluster.writeTo s).texts "api_allow_list" = cluster.apiAllowList :=
    texts_of_strings (hwritten (by simp [entries]))
  have hblocks : (cluster.writeTo s).values.get? "maintenance_window" =
      some (.array (cluster.maintenanceWindow.toList.map MaintenanceWindow.toJson)) :=
    hwritten (by simp [entries])
  -- Only the window can be refused or changed.
  have hwindow : MaintenanceWindow.ofState (cluster.writeTo s) = .ok cluster.maintenanceWindow ↔
      ∀ w, cluster.maintenanceWindow = some w → w.normalized = .ok w := by
    rw [MaintenanceWindow.ofState_ok, decode_blocks (MaintenanceWindow.reads _) hblocks]
    cases cluster.maintenanceWindow with
    | none => simp
    | some w => simp
  simp only [← MaintenanceWindow.normalized_eq_self]
  rw [← hwindow]
  simp only [Draft.ofState, hregion, hname, hversion, hlan, hallowed, content, bind, Except.bind]
  cases MaintenanceWindow.ofState (cluster.writeTo s) <;> simp [pure, Except.pure]

end KubernetesCluster

namespace NodePool

def content (pool : NodePool) : Draft :=
  ⟨pool.name, pool.nodeSize, pool.nodeCount, pool.autoscaling, pool.labels⟩

theorem draft_written (pool : NodePool) (s : ResourceState) :
    Draft.ofState (pool.writeTo s) = .ok pool.content ↔
      ∀ a, pool.autoscaling = some a → a.Allows pool.nodeCount := by
  have hwritten {key : String} {v : Json} (hentry : (key, v) ∈ pool.entries) :
      (pool.writeTo s).values.get? key = some v := writing.get?_writeTo hentry
  have hname : (pool.writeTo s).requiredText "name" = .ok pool.name :=
    requiredText_ok.mpr (hwritten (by simp [entries]))
  have hsize : (pool.writeTo s).requiredText "node_size" = .ok pool.nodeSize :=
    requiredText_ok.mpr (hwritten (by simp [entries]))
  have hcount : requestedCount (pool.writeTo s) = .ok pool.nodeCount :=
    requestedCount_ok.mpr (hwritten (by simp [entries]))
  have hlabels : requestedLabels (pool.writeTo s) = .ok pool.labels := by
    have hentry : (pool.writeTo s).values.get? "labels" = some (labelsJson pool.labels) :=
      hwritten (by simp [entries])
    rw [requestedLabels, decode_of_get? hentry rfl (Decode.text_exact.map.reads pool.labels)]
    rfl
  have hblocks : (pool.writeTo s).values.get? "autoscaling" =
      some (.array (pool.autoscaling.toList.map Autoscaling.toJson)) := hwritten (by simp [entries])
  have hautoscaling : Autoscaling.ofState pool.nodeCount (pool.writeTo s) = .ok pool.autoscaling ↔
      ∀ a, pool.autoscaling = some a → a.Allows pool.nodeCount := by
    rw [Autoscaling.ofState_ok, decode_blocks (Autoscaling.reads _) hblocks]
    refine and_iff_right ⟨_, rfl, ?_⟩
    cases pool.autoscaling <;> rfl
  rw [← hautoscaling]
  simp only [Draft.ofState, hname, hsize, hcount, hlabels, content, bind, Except.bind]
  cases Autoscaling.ofState pool.nodeCount (pool.writeTo s) <;> simp [pure, Except.pure]

end NodePool

namespace LoadBalancer

def content (lb : LoadBalancer) : Draft :=
  ⟨lb.name, lb.region, lb.privateLanId, lb.forwardingRules, lb.healthCheck⟩

theorem draft_written (lb : LoadBalancer) (fallback : Option String) (s : ResourceState) :
    (do Draft.ofState (← (lb.writeTo s).region fallback) (lb.writeTo s)) = .ok lb.content ↔
      ForwardingRule.Distinct lb.forwardingRules ∧ ∀ c, lb.healthCheck = some c → c.Fits := by
  have hwritten {key : String} {v : Json} (hentry : (key, v) ∈ lb.entries) :
      (lb.writeTo s).values.get? key = some v := writing.get?_writeTo hentry
  have hregion : (lb.writeTo s).region fallback = .ok lb.region :=
    region_of_text (hwritten (by simp [entries])) fallback
  have hname : (lb.writeTo s).requiredText "name" = .ok lb.name :=
    requiredText_ok.mpr (hwritten (by simp [entries]))
  have hlan : (lb.writeTo s).text? "private_lan_id" = lb.privateLanId :=
    text?_of_option (hwritten (by simp [entries]))
  have hruleBlocks : (lb.writeTo s).values.get? "forwarding_rule" =
      some (.array (lb.forwardingRules.map ForwardingRule.toBlock)) := hwritten (by simp [entries])
  have hcheckBlocks : (lb.writeTo s).values.get? "health_check" =
      some (.array (lb.healthCheck.toList.map HealthCheck.toBlock)) := hwritten (by simp [entries])
  have hrules : ForwardingRule.ofState (lb.writeTo s) = .ok lb.forwardingRules ↔
      ForwardingRule.Distinct lb.forwardingRules := by
    rw [ForwardingRule.ofState_ok, decode_blocks ForwardingRule.reads_block hruleBlocks]
    exact and_iff_right ⟨_, rfl, rfl⟩
  have hcheck : HealthCheck.ofState (lb.writeTo s) = .ok lb.healthCheck ↔
      ∀ c, lb.healthCheck = some c → c.Fits := by
    rw [HealthCheck.ofState_ok, decode_blocks (HealthCheck.reads_block _) hcheckBlocks]
    refine and_iff_right ⟨_, rfl, ?_⟩
    cases lb.healthCheck <;> rfl
  rw [← hrules, ← hcheck]
  simp only [Draft.ofState, hregion, hname, hlan, content, bind, Except.bind]
  cases ForwardingRule.ofState (lb.writeTo s) <;> cases HealthCheck.ofState (lb.writeTo s) <;>
    simp [pure, Except.pure]

end LoadBalancer

namespace NasInstance

def content (nas : NasInstance) : Draft :=
  ⟨nas.name, nas.region, nas.sizeGb, nas.protocol, nas.privateLanId, nas.ipAddress⟩

theorem draft_written (nas : NasInstance) (fallback : Option String) (s : ResourceState) :
    (do Draft.ofState (← (nas.writeTo s).region fallback) (nas.writeTo s)) = .ok nas.content := by
  have hwritten {key : String} {v : Json} (hentry : (key, v) ∈ nas.entries) :
      (nas.writeTo s).values.get? key = some v := writing.get?_writeTo hentry
  have hregion : (nas.writeTo s).region fallback = .ok nas.region :=
    region_of_text (hwritten (by simp [entries])) fallback
  have hname : (nas.writeTo s).requiredText "name" = .ok nas.name :=
    requiredText_ok.mpr (hwritten (by simp [entries]))
  have hlan : (nas.writeTo s).requiredText "private_lan_id" = .ok nas.privateLanId :=
    requiredText_ok.mpr (hwritten (by simp [entries]))
  have hprotocol : (nas.writeTo s).text? "protocol" = some nas.protocol :=
    text?_eq_some.mpr (hwritten (by simp [entries]))
  have haddress : (nas.writeTo s).text? "ip_address" = nas.ipAddress :=
    text?_of_option (hwritten (by simp [entries]))
  have hsize : (nas.writeTo s).int? "size_gb" = some nas.sizeGb :=
    int?_of_int64 (hwritten (by simp [entries]))
  simp only [Draft.ofState, requestedSize, hregion, hname, hlan, hprotocol, haddress, hsize]
  rfl

end NasInstance

namespace PrivateLan

def content (lan : PrivateLan) : Draft :=
  ⟨lan.name, lan.region, lan.ipRange, lan.description⟩

/-- An empty description is written as none. -/
theorem draft_written (lan : PrivateLan) (fallback : Option String) (s : ResourceState) :
    (do Draft.ofState (← (lan.writeTo s).region fallback) (lan.writeTo s)) = .ok lan.content ↔
      lan.description ≠ some "" := by
  have hwritten {key : String} {v : Json} (hentry : (key, v) ∈ lan.entries) :
      (lan.writeTo s).values.get? key = some v := writing.get?_writeTo hentry
  have hregion : (lan.writeTo s).region fallback = .ok lan.region :=
    region_of_text (hwritten (by simp [entries])) fallback
  have hname : (lan.writeTo s).requiredText "name" = .ok lan.name :=
    requiredText_ok.mpr (hwritten (by simp [entries]))
  have hrange : (lan.writeTo s).requiredText "ip_range" = .ok lan.ipRange :=
    requiredText_ok.mpr (hwritten (by simp [entries]))
  have hdescription : (lan.writeTo s).text? "description" = lan.description.filter (· ≠ "") :=
    text?_of_option (hwritten (by simp [entries]))
  have hdraft : (do Draft.ofState (← (lan.writeTo s).region fallback) (lan.writeTo s)) =
      .ok ⟨lan.name, lan.region, lan.ipRange, lan.description.filter (· ≠ "")⟩ := by
    simp only [Draft.ofState, hregion, hname, hrange, hdescription]
    rfl
  rw [hdraft, content]
  cases lan.description with
  | none => simp
  | some t => by_cases ht : t = "" <;> simp [ht]

end PrivateLan

/-! ## All types -/

namespace ResourceType

/-- What is sent to create an object of a type, and with a group to create its rules. -/
def Draft : ResourceType → Type
  | dnsDomain => DnsDomain.Draft
  | dnsRecord => DnsRecord.Draft
  | emailIdentity => EmailIdentity.Draft
  | firewallGroup => Json × List FirewallRule.Content
  | kubernetesCluster => KubernetesCluster.Draft
  | nodePool => NodePool.Draft
  | loadBalancer => LoadBalancer.Draft
  | nasInstance => NasInstance.Draft
  | privateLan => PrivateLan.Draft

/-- What a resource of a type describes, in its own region or else in the one to fall back on. -/
def draft (fallback : Option String) :
    (t : ResourceType) → ResourceState → Except ProviderError t.Draft
  | dnsDomain, s => DnsDomain.Draft.ofState s
  | dnsRecord, s => DnsRecord.Draft.ofState s
  | emailIdentity, s => EmailIdentity.Draft.ofState s
  | firewallGroup, s => FirewallGroup.described s
  | kubernetesCluster, s => do KubernetesCluster.Draft.ofState (← s.region fallback) s
  | nodePool, s => NodePool.Draft.ofState s
  | loadBalancer, s => do LoadBalancer.Draft.ofState (← s.region fallback) s
  | nasInstance, s => do NasInstance.Draft.ofState (← s.region fallback) s
  | privateLan, s => do PrivateLan.Draft.ofState (← s.region fallback) s

/-- What is written of a resource of a type: its object, and with a group its rules. -/
def Written : ResourceType → Type
  | firewallGroup => FirewallGroup × List FirewallRule
  | t => t.Object

/-- Writes an object into the state of its resource. -/
def writeTo : (t : ResourceType) → t.Written → ResourceState → ResourceState
  | dnsDomain, x, s => DnsDomain.writeTo x s
  | dnsRecord, x, s => DnsRecord.writeTo x s
  | emailIdentity, x, s => EmailIdentity.writeTo x s
  | firewallGroup, x, s => FirewallGroup.writeTo x.1 x.2 s
  | kubernetesCluster, x, s => KubernetesCluster.writeTo x s
  | nodePool, x, s => NodePool.writeTo x s
  | loadBalancer, x, s => LoadBalancer.writeTo x s
  | nasInstance, x, s => NasInstance.writeTo x s
  | privateLan, x, s => PrivateLan.writeTo x s

/-- What is sent to create an object with the same content. -/
def content : (t : ResourceType) → t.Written → t.Draft
  | dnsDomain, x => DnsDomain.content x
  | dnsRecord, x => DnsRecord.content x
  | emailIdentity, x => EmailIdentity.content x
  | firewallGroup, x => FirewallGroup.content x.1 x.2
  | kubernetesCluster, x => KubernetesCluster.content x
  | nodePool, x => NodePool.content x
  | loadBalancer, x => LoadBalancer.content x
  | nasInstance, x => NasInstance.content x
  | privateLan, x => PrivateLan.content x

/-- An object passes the checks of its type and is written in the usual way. -/
def Fits : (t : ResourceType) → t.Written → Prop
  | dnsDomain, x => Text.lowercase (DnsDomain.domain x) = DnsDomain.domain x
  | dnsRecord, x =>
    DnsRecord.Fits (DnsRecord.type x) (DnsRecord.name x) (DnsRecord.data x) (DnsRecord.priority x)
  | emailIdentity, _ => True
  | firewallGroup, x => ∀ r ∈ x.2, r.content.check = .ok ()
  | kubernetesCluster, x =>
    ∀ w, KubernetesCluster.maintenanceWindow x = some w → ∃ t : TimeOfDay, w.time = t.text
  | nodePool, x => ∀ a, NodePool.autoscaling x = some a → a.Allows (NodePool.nodeCount x)
  | loadBalancer, x =>
    ForwardingRule.Distinct (LoadBalancer.forwardingRules x) ∧
      ∀ c, LoadBalancer.healthCheck x = some c → c.Fits
  | nasInstance, _ => True
  | privateLan, x => PrivateLan.description x ≠ some ""

/-- An object that is written into an empty state and drafted again gives the request for an object with
its content, exactly if it fits. -/
theorem draft_restores (t : ResourceType) (x : t.Written) (fallback id : Option String)
    (prior : Keyed Json) (timeouts : Timeouts) :
    t.draft fallback (t.writeTo x ⟨id, [], prior, timeouts⟩) = .ok (t.content x) ↔ t.Fits x := by
  generalize hempty : (⟨id, [], prior, timeouts⟩ : ResourceState) = s
  cases t with
  | dnsDomain =>
    have hunset : s.isSet "default_ip" = false := hempty ▸ rfl
    exact DnsDomain.draft_written x hunset
  | dnsRecord => exact DnsRecord.draft_written x s
  | emailIdentity => exact iff_of_true (EmailIdentity.draft_written x s) trivial
  | firewallGroup => exact FirewallGroup.draft_written x.1 x.2 s
  | kubernetesCluster => exact KubernetesCluster.draft_written x fallback s
  | nodePool => exact NodePool.draft_written x s
  | loadBalancer => exact LoadBalancer.draft_written x fallback s
  | nasInstance => exact iff_of_true (NasInstance.draft_written x fallback s) trivial
  | privateLan => exact PrivateLan.draft_written x fallback s

end ResourceType

end CloudProvider
