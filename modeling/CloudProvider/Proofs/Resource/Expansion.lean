import CloudProvider.Proofs.Json.Accepts
import CloudProvider.Proofs.Resource.Blocks
import CloudProvider.Proofs.Resource.Checks
import CloudProvider.Proofs.Resource.RoundTrip
import CloudProvider.Proofs.Schema.Bounded

/-!
# What valid configurations describe

A schema and the decoders of its blocks describe the same values: whatever validation accepts is read,
and the only failures are those of parts that do not fit each other.

* `Target.accepts`, `ForwardingRule.accepts`, …: blocks of valid configurations are read.
* `ResourceType.CrossField`: the failures of parts that do not fit each other.
* `ResourceType.draft_of_valid`: a valid configuration describes an object or fails in this way.
-/

namespace CloudProvider
open Json Json.Record
set_option autoImplicit false

/-! ## Fields of blocks -/

namespace PlannedBlock

variable {attributes : Keyed Attribute} {block : Keyed Json} {name : String} {a : Attribute}

theorem text_field (h : PlannedBlock attributes block) (hplain : plainAll attributes = true)
    (ha : Keyed.get? name attributes = some a) (htype : a.type = .string)
    (hdefault : ∀ d, a.traits.default = some d → ∃ s, d = .string s)
    (hgiven : a.traits.required = true ∨ a.traits.default.isSome = true) :
    (Record.required name Decode.text).Accepted block := by
  obtain ⟨s, hs⟩ := h.planned.givenText hplain ha htype hdefault hgiven
  exact .required hs (Decode.text_exact.accepts s)

theorem optional_text_field (h : PlannedBlock attributes block) (hplain : plainAll attributes = true)
    (ha : Keyed.get? name attributes = some a) (htype : a.type = .string)
    (hdefault : a.traits.default = none) : (Record.optional name Decode.text).Accepted block := by
  refine .optional ?_
  rcases h.planned.text hplain ha htype hdefault with ⟨hunset, -, -⟩ | ⟨s, hs⟩
  · exact .inl hunset
  · exact .inr ⟨_, hs, Decode.text_exact.accepts s⟩

theorem int_field {α : Type} {expected : String} {bound : Nat} {ofNat : Nat → α}
    {least most : Int64} (h : PlannedBlock attributes block)
    (hsigned : (Json.object block).signed = true) (hplain : plainAll attributes = true)
    (ha : Keyed.get? name attributes = some a) (htype : a.type = .int)
    (hrule : .intBetween least most ∈ a.traits.validations)
    (hdefault : ∀ d, a.traits.default = some d →
      ∃ k, d = .int64 k ∧ least.toInt ≤ k.toInt ∧ k.toInt ≤ most.toInt)
    (hgiven : a.traits.required = true ∨ a.traits.default.isSome = true)
    (hlower : 0 ≤ least.toInt) (hupper : most.toInt < bound) :
    (Record.required name
      (Decode.integer expected fun n => (Decode.below bound n).map ofNat)).Accepted block := by
  obtain ⟨_, hv, k, rfl, hleast, hmost⟩ :=
    Planned.present (h.planned.bounded hsigned hplain ha htype hrule hdefault) hgiven
  exact .required hv (Decode.accepts_below (by omega) (by omega))

end PlannedBlock

/-! ## Blocks -/

theorem accepts_blocks {α : Type} {decode : Decoder α} {attributes : Keyed Attribute}
    {blocks : List (Keyed Json)} (hsigned : (Json.array (blocks.map .object)).signed = true)
    (hall : ∀ block ∈ blocks, PlannedBlock attributes block)
    (haccepts : ∀ block, PlannedBlock attributes block → (Json.object block).signed = true →
      Decode.Accepts decode (.object block)) :
    ∃ xs, Decode.list decode (.array (blocks.map .object)) = .ok xs ∧ xs.length = blocks.length ∧
      ∀ x ∈ xs, ∃ block, PlannedBlock attributes block ∧ decode (.object block) = .ok x := by
  have hsigned' := Json.signed_array.mp hsigned
  have hitems : ∀ v ∈ blocks.map Json.object, Decode.Accepts decode v := by
    intro v hv
    obtain ⟨block, hblock, rfl⟩ := List.mem_map.mp hv
    exact haccepts block (hall block hblock) (hsigned' _ hv)
  obtain ⟨xs, hxs, hlength, hread⟩ := Decode.accepts_list hitems
  refine ⟨xs, hxs, by simpa using hlength, fun x hx => ?_⟩
  obtain ⟨v, hv, hx⟩ := hread x hx
  obtain ⟨block, hblock, rfl⟩ := List.mem_map.mp hv
  exact ⟨block, hall block hblock, hx⟩

section Blocks

variable {block : Keyed Json} {title : String}

theorem Target.accepts (h : PlannedBlock type.blockAttributes block)
    (hsigned : (Json.object block).signed = true) :
    Decode.Accepts (decoder title) (.object block) := by
  have hip : (Record.required "ip" Decode.text).Accepted block :=
    h.text_field rfl rfl rfl (fun d hd => by cases hd) (.inl rfl)
  have hport : (Record.required "port" Decode.uint16).Accepted block :=
    h.int_field hsigned rfl rfl rfl (.head _) (fun d hd => by cases hd) (.inl rfl) (by decide)
      (by decide)
  have hweight : (Record.required "weight" Decode.uint32).Accepted block :=
    h.int_field hsigned rfl rfl rfl (.head _)
      (fun d hd => ⟨1, (Option.some.inj hd).symm, by decide, by decide⟩) (.inr rfl) (by decide)
      (by decide)
  exact (((hip.map _).seq hport).seq hweight).decoder h.ordered

theorem ForwardingRule.accepts (h : PlannedBlock type.blockAttributes block)
    (hsigned : (Json.object block).signed = true) :
    Decode.Accepts blockDecoder (.object block) := by
  have hname : (Record.required "name" Decode.text).Accepted block :=
    h.text_field rfl rfl rfl (fun d hd => by cases hd) (.inl rfl)
  have hprotocol : (Record.required "protocol" Decode.text).Accepted block :=
    h.text_field rfl rfl rfl (fun d hd => ⟨_, (Option.some.inj hd).symm⟩) (.inr rfl)
  have hport : (Record.required "listener_port" Decode.uint16).Accepted block :=
    h.int_field hsigned rfl rfl rfl (.head _) (fun d hd => by cases hd) (.inl rfl) (by decide)
      (by decide)
  have halgorithm : (Record.required "algorithm" Decode.text).Accepted block :=
    h.text_field rfl rfl rfl (fun d hd => ⟨_, (Option.some.inj hd).symm⟩) (.inr rfl)
  have htargets : (Record.required "target"
      (Decode.list (Target.decoder "struct TargetBlock"))).Accepted block := by
    rcases h.planned.blocks rfl (show Keyed.get? "target" _ = some _ from rfl)
      (show _ = AttrType.list (.object Target.type.blockAttributes) from rfl) rfl with
      ⟨-, hrequired, -⟩ | ⟨blocks, hblocks, -, hall⟩
    · cases hrequired
    · refine .required hblocks ?_
      obtain ⟨targets, htargets, -⟩ := accepts_blocks (Json.signed_of_get? hsigned hblocks) hall
        fun _ => Target.accepts
      exact ⟨targets, htargets⟩
  exact (((((hname.map _).seq hprotocol).seq hport).seq halgorithm).seq htargets).decoder h.ordered

theorem HealthCheck.accepts (h : PlannedBlock type.blockAttributes block)
    (hsigned : (Json.object block).signed = true) :
    Decode.Accepts (decoder title) (.object block) := by
  have hprotocol : (Record.required "protocol" Decode.text).Accepted block :=
    h.text_field rfl rfl rfl (fun d hd => ⟨_, (Option.some.inj hd).symm⟩) (.inr rfl)
  have hport : (Record.required "port" Decode.uint16).Accepted block :=
    h.int_field hsigned rfl rfl rfl (.head _) (fun d hd => by cases hd) (.inl rfl) (by decide)
      (by decide)
  have hpath : (Record.optional "path" Decode.text).Accepted block :=
    h.optional_text_field rfl rfl rfl rfl
  have hinterval : (Record.required "interval_seconds" Decode.uint32).Accepted block :=
    h.int_field hsigned rfl rfl rfl (.head _)
      (fun d hd => ⟨30, (Option.some.inj hd).symm, by decide, by decide⟩) (.inr rfl) (by decide)
      (by decide)
  have hthreshold : (Record.required "unhealthy_threshold" Decode.uint32).Accepted block :=
    h.int_field hsigned rfl rfl rfl (.head _)
      (fun d hd => ⟨3, (Option.some.inj hd).symm, by decide, by decide⟩) (.inr rfl) (by decide)
      (by decide)
  exact (((((hprotocol.map _).seq hport).seq hpath).seq hinterval).seq hthreshold).decoder h.ordered

theorem Autoscaling.accepts (h : PlannedBlock type.blockAttributes block)
    (hsigned : (Json.object block).signed = true) :
    Decode.Accepts (decoder title) (.object block) := by
  have hleast : (Record.required "min_nodes" Decode.uint32).Accepted block :=
    h.int_field hsigned rfl rfl rfl (.head _) (fun d hd => by cases hd) (.inl rfl) (by decide)
      (by decide)
  have hmost : (Record.required "max_nodes" Decode.uint32).Accepted block :=
    h.int_field hsigned rfl rfl rfl (.head _) (fun d hd => by cases hd) (.inl rfl) (by decide)
      (by decide)
  exact ((hleast.map _).seq hmost).decoder h.ordered

theorem MaintenanceWindow.accepts (h : PlannedBlock type.blockAttributes block) :
    Decode.Accepts (decoder title) (.object block) := by
  have hday : (Record.required "day_of_week" Decode.text).Accepted block :=
    h.text_field rfl rfl rfl (fun d hd => by cases hd) (.inl rfl)
  have htime : (Record.required "time" Decode.text).Accepted block :=
    h.text_field rfl rfl rfl (fun d hd => by cases hd) (.inl rfl)
  exact ((hday.map _).seq htime).decoder h.ordered

theorem FirewallRule.accepts (h : PlannedBlock type.blockAttributes block)
    (hsigned : (Json.object block).signed = true) :
    Decode.Accepts blockDecoder (.object block) := by
  have hid : (Record.optional "id" Decode.text).Accepted block :=
    h.optional_text_field rfl rfl rfl rfl
  have hprotocol : (Record.required "protocol" Decode.text).Accepted block :=
    h.text_field rfl rfl rfl (fun d hd => by cases hd) (.inl rfl)
  have htype : (Record.required "ip_type" Decode.text).Accepted block :=
    h.text_field rfl rfl rfl (fun d hd => ⟨_, (Option.some.inj hd).symm⟩) (.inr rfl)
  have hsubnet : (Record.required "subnet" Decode.text).Accepted block :=
    h.text_field rfl rfl rfl (fun d hd => by cases hd) (.inl rfl)
  have hsize : (Record.required "subnet_size" Decode.uint8).Accepted block :=
    h.int_field hsigned rfl rfl rfl (.head _) (fun d hd => by cases hd) (.inl rfl) (by decide)
      (by decide)
  have hport : (Record.optional "port" Decode.text).Accepted block :=
    h.optional_text_field rfl rfl rfl rfl
  have hnotes : (Record.optional "notes" Decode.text).Accepted block :=
    h.optional_text_field rfl rfl rfl rfl
  have hfields : Content.fields.Accepted block :=
    (((((hprotocol.map _).seq htype).seq hsubnet).seq hsize).seq hport).seq hnotes
  exact ((hid.map _).seq hfields).decoder h.ordered

end Blocks

/-! ## Failures -/

/-- The failures of parts that do not fit each other, by type. -/
inductive ResourceType.CrossField : ResourceType → ProviderError → Prop where
  | ruleName (name : String) :
    CrossField .loadBalancer (.invalidConfig ("duplicate forwarding_rule name " ++ Text.quote name))
  | listenerPort (port : UInt16) :
    CrossField .loadBalancer
      (.invalidConfig s!"listener_port {port} is used by more than one forwarding_rule")
  | checkPath :
    CrossField .loadBalancer
      (.invalidConfig "health_check.path is only valid for HTTP and HTTPS checks")
  | windowTime (time : String) (fault : TimeOfDay.Fault) (h : TimeOfDay.parse time = .error fault) :
    CrossField .kubernetesCluster (.invalidConfig ("maintenance_window.time " ++ Text.quote time ++
      " is not a valid time: " ++ fault.message))
  | limits (least most : UInt32) (h : most < least) :
    CrossField .nodePool
      (.invalidConfig s!"autoscaling.min_nodes ({least}) is greater than max_nodes ({most})")
  | nodeCount (count least most : UInt32) (h : ¬ (least ≤ count ∧ count ≤ most)) :
    CrossField .nodePool
      (.invalidConfig s!"node_count {count} is outside the autoscaling range {least}..={most}")
  | family (c : FirewallRule.Content) (address : Address)
    (haddress : Address.parse? c.subnet = some address) (h : c.family? ≠ some address.family) :
    CrossField .firewallGroup
      (.invalidConfig s!"rule subnet {c.subnet} does not match ip_type {c.ipType}")
  | subnetSize (c : FirewallRule.Content) (family : Family) (h : family.bits < c.subnetSize.toNat) :
    CrossField .firewallGroup
      (.invalidConfig s!"rule subnet_size {c.subnetSize} exceeds {family.bits} for {c.ipType}")
  | portProtocol (protocol : String) (h : protocol ≠ "TCP" ∧ protocol ≠ "UDP") :
    CrossField .firewallGroup
      (.invalidConfig s!"rule port is not allowed for protocol {protocol}")
  | portRange (low high : Nat) (h : high < low) :
    CrossField .firewallGroup (.invalidConfig s!"rule port range {low}-{high} is reversed")
  | priority (type : String) (priority : Option UInt32) (e : ProviderError)
    (h : DnsRecord.checkPriority type priority = .error e) : CrossField .dnsRecord e
  | data (type name data : String) (e : ProviderError)
    (h : DnsRecord.checkData type name data = .error e) : CrossField .dnsRecord e

/-! ## Checks -/

/-- Rules that are distinct are accepted, and others are refused for a name or a port. -/
theorem ForwardingRule.checkDistinct_fails (before rules : List ForwardingRule) :
    FailsOnly (ResourceType.CrossField .loadBalancer) (checkDistinct before rules) := by
  induction rules generalizing before with
  | nil => exact .of_ok rfl
  | cons r rest ih =>
    rw [checkDistinct]
    split
    · exact .of_error rfl (.ruleName r.name)
    · split
      · exact .of_error rfl (.listenerPort r.listenerPort)
      · exact ih _

theorem MaintenanceWindow.normalized_fails (w : MaintenanceWindow) :
    FailsOnly (ResourceType.CrossField .kubernetesCluster) w.normalized := by
  rw [normalized]
  cases htime : TimeOfDay.parse w.time with
  | ok time => exact .of_ok rfl
  | error fault => exact .of_error rfl (.windowTime w.time fault htime)

theorem Autoscaling.check_fails (a : Autoscaling) (count : UInt32) :
    FailsOnly (ResourceType.CrossField .nodePool) (a.check count) := by
  rw [check]
  split
  · next hlimits => exact .of_error rfl (.limits a.minNodes a.maxNodes hlimits)
  · split
    · exact .of_ok rfl
    · next hcount =>
      exact .of_error rfl (.nodeCount count a.minNodes a.maxNodes (by simpa using hcount))

/-- A rule whose network is an address is refused only because its parts do not fit. -/
theorem FirewallRule.Content.checked_fails (c : Content)
    (h : (Address.parse? c.subnet).isSome = true) :
    FailsOnly (ResourceType.CrossField .firewallGroup) c.checked := by
  refine .bind ?_ fun _ _ => .of_ok rfl
  obtain ⟨address, haddress⟩ := Option.isSome_iff_exists.mp h
  simp only [check, haddress]
  split
  · next hfamily => exact .of_error rfl (.family c address haddress hfamily)
  · split
    · next hsize => exact .of_error rfl (.subnetSize c address.family hsize)
    · rw [checkPort]
      split
      · exact .of_ok rfl
      · next port _ =>
        split
        · rw [checkPortRange]
          split
          · next low high _ =>
            split
            · next hreversed => exact .of_error rfl (.portRange low high hreversed)
            · exact .of_ok rfl
          · exact .of_ok rfl
        · next hprotocol =>
          refine .of_error rfl (.portProtocol c.protocol ?_)
          simpa [protocolsWithPorts] using hprotocol

/-! ## Blocks of resources -/

section Valid

variable {s : ResourceState}

theorem decode_accepts {α : Type} {decode : Decoder α} {inner : Keyed Attribute} {key : String}
    (hsigned : (Json.object s.values).signed = true)
    (hblocks : s.value? key = none ∨ ∃ blocks : List (Keyed Json),
      s.values.get? key = some (.array (blocks.map .object)) ∧
        ∀ block ∈ blocks, PlannedBlock inner block)
    (haccepts : ∀ block, PlannedBlock inner block → (Json.object block).signed = true →
      Decode.Accepts decode (.object block)) :
    ∃ o, s.decode (Decode.list decode) key = .ok o ∧
      (∀ x ∈ o.getD [], ∃ block, PlannedBlock inner block ∧ decode (.object block) = .ok x) ∧
      ∀ items, s.values.get? key = some (.array items) → (o.getD []).length = items.length := by
  rcases hblocks with hunset | ⟨blocks, hget, hall⟩
  · refine ⟨none, ResourceState.decode_ok.mpr (.inl ⟨hunset, rfl⟩), by simp, fun items hitems => ?_⟩
    rw [ResourceState.value?, hitems] at hunset
    cases hunset
  · obtain ⟨xs, hxs, hlength, hread⟩ :=
      accepts_blocks (Json.signed_of_get? hsigned hget) hall haccepts
    refine ⟨some xs, ResourceState.decode_of_get? hget rfl hxs, hread, fun items hitems => ?_⟩
    obtain rfl := Json.array.inj (Option.some.inj (hget.symm.trans hitems))
    rw [Option.getD_some, hlength, List.length_map]

theorem Planned.blocksOf {attributes inner : Keyed Attribute} {key : String} {a : Attribute}
    (h : Planned attributes s.values) (hplain : plainAll attributes = true)
    (ha : Keyed.get? key attributes = some a) (htype : a.type = .list (.object inner))
    (hdefault : a.traits.default = none) :
    s.value? key = none ∨ ∃ blocks : List (Keyed Json),
      s.values.get? key = some (.array (blocks.map .object)) ∧
        ∀ block ∈ blocks, PlannedBlock inner block := by
  rcases h.blocks hplain ha htype hdefault with ⟨hunset, -, -⟩ | ⟨blocks, hget, -, hall⟩
  · exact .inl hunset
  · exact .inr ⟨blocks, hget, hall⟩

theorem Planned.requiredText {attributes : Keyed Attribute} {key : String} {a : Attribute}
    (h : Planned attributes s.values) (hplain : plainAll attributes = true)
    (ha : Keyed.get? key attributes = some a) (htype : a.type = .string)
    (hrequired : a.traits.required = true) (hdefault : a.traits.default = none) :
    ∃ text, s.requiredText key = .ok text := by
  obtain ⟨text, htext⟩ := h.givenText hplain ha htype (by simp [hdefault]) (.inl hrequired)
  exact ⟨text, ResourceState.requiredText_ok.mpr htext⟩

theorem uint32_of_bounded {k least most : Int64} (hleast : least.toInt ≤ k.toInt)
    (hmost : k.toInt ≤ most.toInt) (hlower : 0 ≤ least.toInt) (hupper : most.toInt < UInt32.size) :
    ∃ n, uint32OfInt64? k = some n := by
  rw [uint32OfInt64?, if_pos ⟨by omega, by omega⟩]
  exact ⟨_, rfl⟩

/-! ## The types -/

theorem ForwardingRule.ofState_fails (hplanned : Planned LoadBalancer.schema.attributes s.values)
    (hsigned : (Json.object s.values).signed = true) :
    FailsOnly (ResourceType.CrossField .loadBalancer) (ofState s) := by
  obtain ⟨o, ho, -, hlength⟩ := decode_accepts hsigned
    (hplanned.blocksOf LoadBalancer.writing.plain
      (show Keyed.get? "forwarding_rule" _ = some _ from rfl) rfl rfl)
    fun _ => ForwardingRule.accepts
  obtain ⟨_, hget, items, rfl, hcount⟩ := Planned.present
    (hplanned.enough LoadBalancer.writing.plain
      (show Keyed.get? "forwarding_rule" _ = some _ from rfl) rfl rfl rfl) (.inl rfl)
  have hone : 1 ≤ items.length := hcount
  have hnonempty : ¬ (o.getD []).isEmpty = true := by
    rw [List.isEmpty_iff_length_eq_zero, hlength items hget]
    omega
  refine .bind (.of_ok ho) fun o' ho' => ?_
  obtain rfl := Except.ok.inj (ho.symm.trans ho')
  dsimp only
  rw [if_neg hnonempty]
  exact .bind (checkDistinct_fails [] _) fun _ _ => .of_ok rfl

theorem HealthCheck.ofState_fails (hplanned : Planned LoadBalancer.schema.attributes s.values)
    (hsigned : (Json.object s.values).signed = true) :
    FailsOnly (ResourceType.CrossField .loadBalancer) (ofState s) := by
  obtain ⟨o, ho, -⟩ := decode_accepts hsigned
    (hplanned.blocksOf LoadBalancer.writing.plain
      (show Keyed.get? "health_check" _ = some _ from rfl) rfl rfl)
    fun _ => HealthCheck.accepts
  refine .bind (.of_ok ho) fun o' _ => ?_
  match o' with
  | none | some [] => exact .of_ok rfl
  | some (c :: _) =>
    dsimp only
    split
    · exact .of_error rfl .checkPath
    · exact .of_ok rfl

theorem LoadBalancer.draft_fails (region : String)
    (hplanned : Planned LoadBalancer.schema.attributes s.values)
    (hsigned : (Json.object s.values).signed = true) :
    FailsOnly (ResourceType.CrossField .loadBalancer) (Draft.ofState region s) := by
  obtain ⟨name, hname⟩ := hplanned.requiredText writing.plain
    (show Keyed.get? "name" _ = some _ from rfl) rfl rfl rfl
  exact .bind (.of_ok hname) fun _ _ => .bind (ForwardingRule.ofState_fails hplanned hsigned)
    fun _ _ => .bind (HealthCheck.ofState_fails hplanned hsigned) fun _ _ => .of_ok rfl

theorem MaintenanceWindow.ofState_fails
    (hplanned : Planned KubernetesCluster.schema.attributes s.values)
    (hsigned : (Json.object s.values).signed = true) :
    FailsOnly (ResourceType.CrossField .kubernetesCluster) (ofState s) := by
  obtain ⟨o, ho, -⟩ := decode_accepts hsigned
    (hplanned.blocksOf KubernetesCluster.writing.plain
      (show Keyed.get? "maintenance_window" _ = some _ from rfl) rfl rfl)
    fun _ h _ => MaintenanceWindow.accepts h
  refine .bind (.of_ok ho) fun o' _ => ?_
  match o' with
  | none | some [] => exact .of_ok rfl
  | some (w :: _) => exact .map _ w.normalized_fails

theorem KubernetesCluster.draft_fails (region : String)
    (hplanned : Planned KubernetesCluster.schema.attributes s.values)
    (hsigned : (Json.object s.values).signed = true) :
    FailsOnly (ResourceType.CrossField .kubernetesCluster) (Draft.ofState region s) := by
  obtain ⟨name, hname⟩ := hplanned.requiredText writing.plain
    (show Keyed.get? "name" _ = some _ from rfl) rfl rfl rfl
  obtain ⟨version, hversion⟩ := hplanned.requiredText writing.plain
    (show Keyed.get? "version" _ = some _ from rfl) rfl rfl rfl
  exact .bind (.of_ok hname) fun _ _ => .bind (.of_ok hversion) fun _ _ =>
    .bind (MaintenanceWindow.ofState_fails hplanned hsigned) fun _ _ => .of_ok rfl

theorem Autoscaling.ofState_fails (count : UInt32)
    (hplanned : Planned NodePool.schema.attributes s.values)
    (hsigned : (Json.object s.values).signed = true) :
    FailsOnly (ResourceType.CrossField .nodePool) (ofState count s) := by
  obtain ⟨o, ho, -⟩ := decode_accepts hsigned
    (hplanned.blocksOf NodePool.writing.plain
      (show Keyed.get? "autoscaling" _ = some _ from rfl) rfl rfl)
    fun _ => Autoscaling.accepts
  refine .bind (.of_ok ho) fun o' _ => ?_
  match o' with
  | none | some [] => exact .of_ok rfl
  | some (a :: _) => exact .bind (a.check_fails count) fun _ _ => .of_ok rfl

namespace NodePool

theorem requestedCount_total (hplanned : Planned schema.attributes s.values)
    (hsigned : (Json.object s.values).signed = true) : ∃ count, requestedCount s = .ok count := by
  obtain ⟨_, hget, k, rfl, hleast, hmost⟩ := Planned.present
    (hplanned.bounded hsigned writing.plain (show Keyed.get? "node_count" _ = some _ from rfl) rfl
      (.head _) (fun d hd => by cases hd)) (.inl rfl)
  obtain ⟨count, hcount⟩ := uint32_of_bounded hleast hmost (by decide) (by decide)
  refine ⟨count, ?_⟩
  rw [requestedCount, ResourceState.int?_of_int64 hget, Option.bind_some, hcount]

theorem requestedLabels_total (hplanned : Planned schema.attributes s.values) :
    ∃ labels, requestedLabels s = .ok labels := by
  have hdecode : ∃ o, s.decode (Decode.map Decode.text) "labels" = .ok o := by
    rcases hplanned.textMap writing.plain (show Keyed.get? "labels" _ = some _ from rfl) rfl rfl with
      ⟨hunset, -, -⟩ | ⟨_, hget, labels, rfl⟩
    · exact ⟨none, ResourceState.decode_ok.mpr (.inl ⟨hunset, rfl⟩)⟩
    · exact ⟨some labels, ResourceState.decode_of_get? hget rfl (Decode.text_exact.map.reads labels)⟩
  obtain ⟨o, ho⟩ := hdecode
  exact ⟨o.getD [], bind_ok.mpr ⟨o, ho, rfl⟩⟩

theorem draft_fails (hplanned : Planned schema.attributes s.values)
    (hsigned : (Json.object s.values).signed = true) :
    FailsOnly (ResourceType.CrossField .nodePool) (Draft.ofState s) := by
  obtain ⟨count, hcount⟩ := requestedCount_total hplanned hsigned
  obtain ⟨name, hname⟩ := hplanned.requiredText writing.plain
    (show Keyed.get? "name" _ = some _ from rfl) rfl rfl rfl
  obtain ⟨size, hsize⟩ := hplanned.requiredText writing.plain
    (show Keyed.get? "node_size" _ = some _ from rfl) rfl rfl rfl
  obtain ⟨labels, hlabels⟩ := requestedLabels_total hplanned
  exact .bind (.of_ok hcount) fun count _ => .bind (.of_ok hname) fun _ _ =>
    .bind (.of_ok hsize) fun _ _ => .bind (Autoscaling.ofState_fails count hplanned hsigned)
      fun _ _ => .bind (.of_ok hlabels) fun _ _ => .of_ok rfl

end NodePool

/-- The network of a rule is an address, since validation reads it in the same way. -/
theorem FirewallRule.address_of_block {block : Keyed Json} {c : Content}
    (h : PlannedBlock type.blockAttributes block) (hc : blockDecoder (.object block) = .ok c) :
    (Address.parse? c.subnet).isSome = true := by
  have hbuild := build_of_decoder hc
  simp only [Content.fields, Content.fieldsWith, seq_ok, map_ok,
    required_exact Decode.text_exact] at hbuild
  obtain ⟨_, _, ⟨_, -, rfl⟩, ⟨_, _, ⟨_, _, ⟨_, _, ⟨_, _, ⟨_, _, ⟨_, -, rfl⟩, -, rfl⟩, hsubnet, rfl⟩,
    -, rfl⟩, -, rfl⟩, -, rfl⟩, rfl⟩ := hbuild
  obtain ⟨_, hget, subnet, rfl, hrules⟩ := Planned.present
    (h.planned.ruled rfl (show Keyed.get? "subnet" _ = some _ from rfl) rfl rfl) (.inl rfl)
  obtain rfl := Json.string.inj (Option.some.inj (hsubnet.symm.trans hget))
  exact check_ipAddress (hrules .ipAddress (.head _))

theorem FirewallGroup.described_fails (hplanned : Planned schema.attributes s.values)
    (hsigned : (Json.object s.values).signed = true) :
    FailsOnly (ResourceType.CrossField .firewallGroup) (described s) := by
  have hblocks : s.value? "rule" = none ∨ ∃ blocks : List (Keyed Json),
      s.values.get? "rule" = some (.array (blocks.map .object)) ∧
        ∀ block ∈ blocks, PlannedBlock FirewallRule.type.blockAttributes block := by
    rcases hplanned.blockSet portrait.plain (show Keyed.get? "rule" _ = some _ from rfl) rfl rfl with
      ⟨hunset, -, -⟩ | ⟨_, hget, blocks, rfl, hall⟩
    · exact .inl hunset
    · exact .inr ⟨blocks, hget, hall⟩
  obtain ⟨o, ho, hread, -⟩ := decode_accepts hsigned hblocks fun _ => FirewallRule.accepts
  refine .bind (.bind (.of_ok ho) fun o' ho' => ?_) fun _ _ => .of_ok rfl
  obtain rfl := Except.ok.inj (ho.symm.trans ho')
  refine .mapM fun c hc => ?_
  obtain ⟨block, hblock, hdecode⟩ := hread c hc
  exact c.checked_fails (FirewallRule.address_of_block hblock hdecode)

namespace DnsRecord

theorem requestedTtl_total (hplanned : Planned schema.attributes s.values)
    (hsigned : (Json.object s.values).signed = true) : ∃ ttl, requestedTtl s = .ok ttl := by
  obtain ⟨_, hget, k, rfl, hleast, hmost⟩ := Planned.present
    (hplanned.bounded hsigned writing.plain (show Keyed.get? "ttl" _ = some _ from rfl) rfl (.head _)
      (fun d hd => ⟨defaultTtl, (Option.some.inj hd).symm, by decide, by decide⟩)) (.inr rfl)
  obtain ⟨ttl, httl⟩ := uint32_of_bounded hleast hmost (by decide) (by decide)
  refine ⟨ttl, ?_⟩
  rw [requestedTtl, ResourceState.int?_of_int64 hget, Option.getD_some, httl]

theorem requestedPriority_total (hplanned : Planned schema.attributes s.values)
    (hsigned : (Json.object s.values).signed = true) :
    ∃ priority, requestedPriority s = .ok priority := by
  rcases hplanned.bounded hsigned writing.plain (show Keyed.get? "priority" _ = some _ from rfl) rfl
    (.head _) (fun d hd => by cases hd) with ⟨hunset, -, -⟩ | ⟨_, hget, k, rfl, hleast, hmost⟩
  · refine ⟨none, ?_⟩
    rw [requestedPriority, ResourceState.int?_of_unset hunset]
  · obtain ⟨priority, hpriority⟩ := uint32_of_bounded hleast hmost (by decide) (by decide)
    refine ⟨some priority, ?_⟩
    rw [requestedPriority, ResourceState.int?_of_int64 hget]
    simp only [hpriority]

theorem draft_fails (hplanned : Planned schema.attributes s.values)
    (hsigned : (Json.object s.values).signed = true) :
    FailsOnly (ResourceType.CrossField .dnsRecord) (Draft.ofState s) := by
  obtain ⟨type, htype⟩ := hplanned.requiredText writing.plain
    (show Keyed.get? "type" _ = some _ from rfl) rfl rfl rfl
  obtain ⟨name, hname⟩ := hplanned.requiredText writing.plain
    (show Keyed.get? "name" _ = some _ from rfl) rfl rfl rfl
  obtain ⟨data, hdata⟩ := hplanned.requiredText writing.plain
    (show Keyed.get? "data" _ = some _ from rfl) rfl rfl rfl
  obtain ⟨priority, hpriority⟩ := requestedPriority_total hplanned hsigned
  obtain ⟨ttl, httl⟩ := requestedTtl_total hplanned hsigned
  exact .bind (.of_ok htype) fun type _ => .bind (.of_ok hname) fun name _ =>
    .bind (.of_ok hdata) fun data _ => .bind (.of_ok hpriority) fun priority _ =>
      .bind (fun e he => .priority type priority e he) fun _ _ =>
        .bind (fun e he => .data type name data e he) fun _ _ => .bind (.of_ok httl) fun _ _ =>
          .of_ok rfl

end DnsRecord

theorem NasInstance.draft_total (region : String) (hplanned : Planned schema.attributes s.values)
    (hsigned : (Json.object s.values).signed = true) : ∃ d, Draft.ofState region s = .ok d := by
  obtain ⟨name, hname⟩ := hplanned.requiredText writing.plain
    (show Keyed.get? "name" _ = some _ from rfl) rfl rfl rfl
  obtain ⟨lan, hlan⟩ := hplanned.requiredText writing.plain
    (show Keyed.get? "private_lan_id" _ = some _ from rfl) rfl rfl rfl
  obtain ⟨_, hget, size, rfl, -, -⟩ := Planned.present
    (hplanned.bounded hsigned writing.plain (show Keyed.get? "size_gb" _ = some _ from rfl) rfl
      (.head _) (fun d hd => by cases hd)) (.inl rfl)
  have hsize : requestedSize s = .ok size := by
    rw [requestedSize, ResourceState.int?_of_int64 hget]
  exact ⟨_, bind_ok.mpr ⟨name, hname, bind_ok.mpr ⟨size, hsize, bind_ok.mpr ⟨lan, hlan, rfl⟩⟩⟩⟩

theorem PrivateLan.draft_total (region : String) (hplanned : Planned schema.attributes s.values) :
    ∃ d, Draft.ofState region s = .ok d := by
  obtain ⟨name, hname⟩ := hplanned.requiredText writing.plain
    (show Keyed.get? "name" _ = some _ from rfl) rfl rfl rfl
  obtain ⟨range, hrange⟩ := hplanned.requiredText writing.plain
    (show Keyed.get? "ip_range" _ = some _ from rfl) rfl rfl rfl
  exact ⟨_, bind_ok.mpr ⟨name, hname, bind_ok.mpr ⟨range, hrange, rfl⟩⟩⟩

theorem DnsDomain.draft_total (hplanned : Planned schema.attributes s.values) :
    ∃ d, Draft.ofState s = .ok d := by
  obtain ⟨domain, hdomain⟩ := hplanned.requiredText writing.plain
    (show Keyed.get? "domain" _ = some _ from rfl) rfl rfl rfl
  exact ⟨_, bind_ok.mpr ⟨domain, hdomain, rfl⟩⟩

theorem EmailIdentity.draft_total (hplanned : Planned schema.attributes s.values) :
    ∃ d, Draft.ofState s = .ok d := by
  obtain ⟨identity, hidentity⟩ := hplanned.requiredText writing.plain
    (show Keyed.get? "identity" _ = some _ from rfl) rfl rfl rfl
  exact ⟨_, bind_ok.mpr ⟨identity, hidentity, rfl⟩⟩

end Valid

namespace ResourceType

/-- Objects of the type are in a region. -/
def regional : ResourceType → Bool
  | kubernetesCluster | loadBalancer | nasInstance | privateLan => true
  | dnsDomain | dnsRecord | emailIdentity | firewallGroup | nodePool => false

theorem noIdAttribute (t : ResourceType) :
    ResourceState.idKey ∉ t.resource.schema.attributes.map (·.1) := by
  cases t <;> decide

theorem signed_defaults (t : ResourceType) :
    signedDefaults t.resource.schema.attributes = true := by
  cases t <;> rfl

variable {t : ResourceType} {fallback : Option String} {s : ResourceState}

/-- Planned values describe an object, or parts of it do not fit each other. -/
theorem draft_fails (hplanned : Planned t.resource.schema.attributes s.values)
    (hsigned : (Json.object s.values).signed = true)
    (hregion : t.regional = true → ∃ region, s.region fallback = .ok region) :
    FailsOnly t.CrossField (t.draft fallback s) := by
  cases t with
  | dnsDomain =>
    obtain ⟨d, hd⟩ := DnsDomain.draft_total hplanned
    exact .of_ok hd
  | dnsRecord => exact DnsRecord.draft_fails hplanned hsigned
  | emailIdentity =>
    obtain ⟨d, hd⟩ := EmailIdentity.draft_total hplanned
    exact .of_ok hd
  | firewallGroup => exact FirewallGroup.described_fails hplanned hsigned
  | kubernetesCluster =>
    obtain ⟨region, hregion⟩ := hregion rfl
    exact .bind (.of_ok hregion) fun region _ =>
      KubernetesCluster.draft_fails region hplanned hsigned
  | nodePool => exact NodePool.draft_fails hplanned hsigned
  | loadBalancer =>
    obtain ⟨region, hregion⟩ := hregion rfl
    exact .bind (.of_ok hregion) fun region _ => LoadBalancer.draft_fails region hplanned hsigned
  | nasInstance =>
    obtain ⟨region, hregion⟩ := hregion rfl
    obtain ⟨d, hd⟩ := NasInstance.draft_total region hplanned hsigned
    exact .of_ok (bind_ok.mpr ⟨region, hregion, hd⟩)
  | privateLan =>
    obtain ⟨region, hregion⟩ := hregion rfl
    obtain ⟨d, hd⟩ := PrivateLan.draft_total region hplanned
    exact .of_ok (bind_ok.mpr ⟨region, hregion, hd⟩)

/-- A configuration that validation accepts, with integers that are signed words, describes an object,
or parts of it do not fit each other. -/
theorem draft_of_valid {config : Keyed Json} (hsorted : (Json.object config).Sorted)
    (hvalid : t.resource.schema.validate (.object config) = [])
    (hsigned : (Json.object config).signed = true)
    (hs : (ResourceState.ofJson (.object config)).prepare t.resource.schema t.resource.timeouts =
      .ok s)
    (hregion : t.regional = true → ∃ region, s.region fallback = .ok region) :
    (∃ d, t.draft fallback s = .ok d) ∨
      ∃ e, t.draft fallback s = .error e ∧ t.CrossField e := by
  have hvalues : s.values = t.resource.schema.fill (config.erase ResourceState.idKey) := by
    obtain ⟨timeouts, -, h⟩ := bind_ok.mp hs
    obtain rfl := Except.ok.inj h
    rfl
  have hplanned : Planned t.resource.schema.attributes s.values := by
    rw [hvalues]
    exact Planned.of_validate t.noIdAttribute hsorted hvalid
  have hsigned' : (Json.object s.values).signed = true := by
    rw [hvalues]
    exact signed_fillAll _ t.signed_defaults _ (Json.signed_erase _ hsigned)
  have hfails := draft_fails hplanned hsigned' hregion
  cases hdraft : t.draft fallback s with
  | ok d => exact .inl ⟨d, rfl⟩
  | error e => exact .inr ⟨e, rfl, hfails e hdraft⟩

/-- Two rules of a load balancer, which leave their defaults out at every level, listen at one port. -/
theorem draft_of_valid_shared_port :
    let rule (name : String) := Json.object
      [("listener_port", .int64 80), ("name", .string name),
        ("target", .array [.object [("ip", .string "10.0.0.1"), ("port", .int64 8080)]])]
    let config : Keyed Json :=
      [("forwarding_rule", .array [rule "a", rule "b"]), ("name", .string "lb"),
        ("region", .string "eu")]
    ∃ s e, (ResourceState.ofJson (.object config)).prepare LoadBalancer.schema
        (.uniform (.ofMinutes 30)) = .ok s ∧
      ResourceType.loadBalancer.draft none s = .error e ∧ loadBalancer.CrossField e := by
  intro rule config
  have hsorted : (Json.object config).Sorted := by
    refine ⟨show List.Pairwise (· < ·) ["forwarding_rule", "name", "region"] by decide, ?_⟩
    have hrule (name : String) : (rule name).Sorted :=
      ⟨show List.Pairwise (· < ·) ["listener_port", "name", "target"] by decide, trivial, trivial,
        ⟨⟨show List.Pairwise (· < ·) ["ip", "port"] by decide, trivial, trivial, trivial⟩, trivial⟩,
        trivial⟩
    exact ⟨⟨hrule "a", hrule "b", trivial⟩, trivial, trivial, trivial⟩
  have hvalid : loadBalancer.resource.schema.validate (.object config) = [] := by
    decide +kernel
  have hfails : (((ResourceState.ofJson (.object config)).prepare loadBalancer.resource.schema
      loadBalancer.resource.timeouts).map fun s =>
        ((s.region none).isOk, (loadBalancer.draft none s).isOk)).toOption = some (true, false) := by
    decide +kernel
  cases hs : (ResourceState.ofJson (.object config)).prepare loadBalancer.resource.schema
      loadBalancer.resource.timeouts with
  | error e =>
    rw [hs] at hfails
    cases hfails
  | ok s =>
    rw [hs] at hfails
    obtain ⟨hregion, hdraft⟩ := Prod.mk.inj (Option.some.inj hfails)
    have hgiven : ∃ region, s.region none = .ok region := by
      cases hregion' : s.region none with
      | ok region => exact ⟨region, rfl⟩
      | error e =>
        rw [hregion'] at hregion
        cases hregion
    rcases draft_of_valid hsorted hvalid (by decide) hs fun _ => hgiven with
      ⟨d, hd⟩ | ⟨e, he, hcross⟩
    · rw [hd] at hdraft
      cases hdraft
    · exact ⟨s, e, hs, he, hcross⟩

end ResourceType

end CloudProvider
