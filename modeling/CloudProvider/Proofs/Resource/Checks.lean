import CloudProvider.Proofs.Json.Decode
import CloudProvider.Proofs.State
import CloudProvider.Resource.Type

/-!
# Parts that fit each other

What a resource describes is checked before it is sent. The checks see the parts of one object only, so
that they hold of whatever is sent, no matter whether the values were validated before.

* `ForwardingRule.Distinct`, `HealthCheck.Fits`, `Autoscaling.Allows`, `FirewallRule.Content.Fits`,
  `DnsRecord.Fits`: parts that fit each other.
* `ResourceState.uint32_eq_some`: numbers of 32 bits.
* `ForwardingRule.ofState_ok`, `Autoscaling.ofState_ok`, …: what is accepted of a resource.
-/

namespace CloudProvider
open Json
set_option autoImplicit false

/-! ## Numbers -/

theorem uint32OfInt64?_eq_some {n : Int64} {p : UInt32} :
    uint32OfInt64? n = some p ↔ n.toInt = p.toNat := by
  have hlt : p.toNat < UInt32.size := p.toNat_lt
  rw [uint32OfInt64?]
  constructor
  · intro h
    split at h
    · next hrange =>
      obtain rfl := Option.some.inj h
      rw [UInt32.toNat_ofNat_of_lt' (by omega)]
      omega
    · cases h
  · intro h
    rw [h, if_pos ⟨by omega, by omega⟩, Int.toNat_natCast, UInt32.ofNat_toNat]

theorem ResourceState.uint32_eq_some {s : ResourceState} {key : String} {p : UInt32} :
    (s.int? key).bind uint32OfInt64? = some p ↔ s.values.get? key = some (.uint32 p) := by
  have hlt : p.toNat < UInt32.size := p.toNat_lt
  rw [Option.bind_eq_some_iff]
  constructor
  · rintro ⟨n, hn, hp⟩
    obtain ⟨i, hi, hin⟩ := int?_eq_some.mp hn
    rw [hi, uint32_eq_iff.mpr]
    exact (Integer.toInt64?_eq_some.mp hin).trans (uint32OfInt64?_eq_some.mp hp)
  · intro h
    have hn : (Int64.ofInt p.toNat).toInt = p.toNat := by
      rw [UInt32.size] at hlt
      exact Int64.toInt_ofInt_of_le (by omega) (by omega)
    refine ⟨.ofInt p.toNat, int?_eq_some.mpr ⟨_, h, ?_⟩, uint32OfInt64?_eq_some.mpr hn⟩
    exact Integer.toInt64?_eq_some.mpr ((uint32_eq_iff.mp rfl).trans hn.symm)

theorem NodePool.requestedCount_ok {s : ResourceState} {count : UInt32} :
    requestedCount s = .ok count ↔ s.values.get? "node_count" = some (.uint32 count) := by
  rw [← ResourceState.uint32_eq_some, requestedCount]
  cases (s.int? "node_count").bind uint32OfInt64? <;> simp

/-! ## Forwarding rules -/

namespace ForwardingRule

/-- The rules of one load balancer: there is at least one, and no name and no port is used twice. -/
structure Distinct (rules : List ForwardingRule) : Prop where
  nonempty : rules ≠ []
  names : (rules.map (·.name)).Nodup
  ports : (rules.map (·.listenerPort)).Nodup

theorem checkDistinct_cons_ok {before rest : List ForwardingRule} {r : ForwardingRule} :
    checkDistinct before (r :: rest) = .ok () ↔
      (∀ b ∈ before, b.name ≠ r.name ∧ b.listenerPort ≠ r.listenerPort) ∧
        checkDistinct (r :: before) rest = .ok () := by
  simp only [checkDistinct]
  split
  · next hname =>
    obtain ⟨b, hb, hname⟩ := List.any_eq_true.mp hname
    simp only [reduceCtorEq, false_iff, not_and]
    exact fun h => absurd (of_decide_eq_true hname) (h b hb).1
  · next hname =>
    split
    · next hport =>
      obtain ⟨b, hb, hport⟩ := List.any_eq_true.mp hport
      simp only [reduceCtorEq, false_iff, not_and]
      exact fun h => absurd (of_decide_eq_true hport) (h b hb).2
    · next hport =>
      simp only [List.any_eq_true, decide_eq_true_eq, not_exists, not_and] at hname hport
      exact (and_iff_right fun b hb => ⟨hname b hb, hport b hb⟩).symm

theorem checkDistinct_ok {before rules : List ForwardingRule} :
    checkDistinct before rules = .ok () ↔
      (∀ r ∈ rules, ∀ b ∈ before, b.name ≠ r.name ∧ b.listenerPort ≠ r.listenerPort) ∧
        (rules.map (·.name)).Nodup ∧ (rules.map (·.listenerPort)).Nodup := by
  induction rules generalizing before with
  | nil => simp [checkDistinct]
  | cons r rest ih =>
    -- The first rule is among those already seen by the rest.
    rw [checkDistinct_cons_ok, ih]
    simp only [List.map_cons, List.nodup_cons, List.mem_map, not_exists, not_and, List.forall_mem_cons]
    constructor
    · rintro ⟨hbefore, hrest, hnames, hports⟩
      exact ⟨⟨hbefore, fun q hq => (hrest q hq).2⟩,
        ⟨fun q hq he => (hrest q hq).1.1 he.symm, hnames⟩,
        ⟨fun q hq he => (hrest q hq).1.2 he.symm, hports⟩⟩
    · rintro ⟨⟨hbefore, hrest⟩, ⟨hname, hnames⟩, ⟨hport, hports⟩⟩
      exact ⟨hbefore, fun q hq => ⟨⟨Ne.symm (hname q hq), Ne.symm (hport q hq)⟩, hrest q hq⟩,
        hnames, hports⟩

theorem ofState_ok {s : ResourceState} {rules : List ForwardingRule} :
    ofState s = .ok rules ↔
      (∃ blocks, s.decode (Decode.list blockDecoder) "forwarding_rule" = .ok blocks ∧
        blocks.getD [] = rules) ∧ Distinct rules := by
  rw [ofState, bind_ok]
  constructor
  · rintro ⟨blocks, hblocks, h⟩
    dsimp only at h
    split at h
    · cases h
    · next hnonempty =>
      obtain ⟨⟨⟩, hdistinct, h⟩ := bind_ok.mp h
      obtain rfl := Except.ok.inj h
      obtain ⟨-, hnames, hports⟩ := checkDistinct_ok.mp hdistinct
      exact ⟨⟨blocks, hblocks, rfl⟩, by simpa using hnonempty, hnames, hports⟩
  · rintro ⟨⟨blocks, hblocks, rfl⟩, hdistinct⟩
    refine ⟨blocks, hblocks, ?_⟩
    have hnonempty : ¬ (blocks.getD []).isEmpty = true := by
      simpa using hdistinct.nonempty
    have hchecked : checkDistinct [] (blocks.getD []) = .ok () :=
      checkDistinct_ok.mpr ⟨by simp, hdistinct.names, hdistinct.ports⟩
    dsimp only
    rw [if_neg hnonempty]
    exact bind_ok.mpr ⟨(), hchecked, rfl⟩

end ForwardingRule

/-! ## Health checks -/

namespace HealthCheck

/-- A check that does not speak HTTP has no path. -/
def Fits (c : HealthCheck) : Prop :=
  c.protocol = "TCP" → c.path = none

theorem ofState_ok {s : ResourceState} {o : Option HealthCheck} :
    ofState s = .ok o ↔
      (∃ blocks, s.decode (Decode.list (decoder "struct HealthCheckBlock")) "health_check" = .ok blocks ∧
        blocks.bind List.head? = o) ∧ ∀ c, o = some c → c.Fits := by
  rw [ofState, bind_ok]
  constructor
  · rintro ⟨blocks, hblocks, h⟩
    match blocks with
    | none | some [] =>
      obtain rfl := Except.ok.inj h
      exact ⟨⟨_, hblocks, rfl⟩, by simp⟩
    | some (c :: rest) =>
      dsimp only at h
      split at h
      · cases h
      · next hallowed =>
        obtain rfl := Except.ok.inj h
        refine ⟨⟨_, hblocks, rfl⟩, fun c' hc' htcp => ?_⟩
        obtain rfl := Option.some.inj hc'
        simpa [htcp] using hallowed
  · rintro ⟨⟨blocks, hblocks, rfl⟩, hfits⟩
    refine ⟨blocks, hblocks, ?_⟩
    match blocks with
    | none | some [] => rfl
    | some (c :: rest) =>
      have hallowed : ¬ (c.protocol = "TCP" && c.path.isSome) = true := by
        have hc := hfits c rfl
        unfold Fits at hc
        cases hpath : c.path <;> simp_all
      dsimp only
      rw [if_neg hallowed]
      rfl

end HealthCheck

/-! ## Limits of node pools -/

namespace Autoscaling

/-- The number of nodes is between the limits. -/
def Allows (a : Autoscaling) (count : UInt32) : Prop :=
  a.minNodes ≤ count ∧ count ≤ a.maxNodes

theorem check_ok {a : Autoscaling} {count : UInt32} : a.check count = .ok () ↔ a.Allows count := by
  unfold check Allows
  simp only [UInt32.lt_iff_toNat_lt, UInt32.le_iff_toNat_le, Bool.and_eq_true, decide_eq_true_eq]
  split
  · simp only [reduceCtorEq, false_iff]
    omega
  · split
    · next hbetween => simpa using hbetween
    · next hbetween => simpa using hbetween

/-- The limits of a resource are those of its first block, if they allow the number of nodes. -/
theorem ofState_ok {count : UInt32} {s : ResourceState} {o : Option Autoscaling} :
    ofState count s = .ok o ↔
      (∃ blocks, s.decode (Decode.list (decoder "struct AutoscalingBlock")) "autoscaling" = .ok blocks ∧
        blocks.bind List.head? = o) ∧ ∀ a, o = some a → a.Allows count := by
  rw [ofState, bind_ok]
  constructor
  · rintro ⟨blocks, hblocks, h⟩
    match blocks with
    | none | some [] =>
      obtain rfl := Except.ok.inj h
      exact ⟨⟨_, hblocks, rfl⟩, by simp⟩
    | some (a :: rest) =>
      obtain ⟨⟨⟩, hcheck, h⟩ := bind_ok.mp h
      obtain rfl := Except.ok.inj h
      refine ⟨⟨_, hblocks, rfl⟩, fun a' ha' => ?_⟩
      obtain rfl := Option.some.inj ha'
      exact check_ok.mp hcheck
  · rintro ⟨⟨blocks, hblocks, rfl⟩, hallows⟩
    refine ⟨blocks, hblocks, ?_⟩
    match blocks with
    | none | some [] => rfl
    | some (a :: rest) => exact bind_ok.mpr ⟨(), check_ok.mpr (hallows a rfl), rfl⟩

end Autoscaling

/-! ## Maintenance windows -/

/-- The window of a resource is that of its first block, with its time in the usual spelling. -/
theorem MaintenanceWindow.ofState_ok {s : ResourceState} {o : Option MaintenanceWindow} :
    ofState s = .ok o ↔ ∃ blocks,
      s.decode (Decode.list (decoder "struct MaintenanceWindowBlock")) "maintenance_window" =
        .ok blocks ∧
      (blocks.bind List.head? = none ∧ o = none ∨
        ∃ w w', blocks.bind List.head? = some w ∧ w.normalized = .ok w' ∧ o = some w') := by
  rw [ofState, bind_ok]
  refine exists_congr fun blocks => and_congr_right fun _ => ?_
  match blocks with
  | none | some [] => simp [pure, Except.pure, eq_comm]
  | some (w :: rest) => cases hw : w.normalized <;> simp [hw, Functor.map, Except.map, eq_comm]

/-! ## Firewall rules -/

namespace FirewallRule

/-- The parts of a firewall rule fit each other: the address of its network is of the family that it
names and has that many bits, only a protocol with ports has one, and a range of ports is in order. -/
structure Content.Fits (c : Content) : Prop where
  network : ∃ address, Address.parse? c.subnet = some address ∧ c.family? = some address.family ∧
    c.subnetSize.toNat ≤ address.family.bits
  protocol : c.port ≠ none → c.protocol = "TCP" ∨ c.protocol = "UDP"
  range : ∀ port low high m n, c.port = some port → port.toList = low ++ '-' :: high → '-' ∉ low →
    Text.readBounded? UInt32.size (String.ofList low) = some m →
    Text.readBounded? UInt32.size (String.ofList high) = some n → m ≤ n

/-- The bounds of a range are what is before the first hyphen and what is behind it. -/
theorem portRange?_eq {port : String} {low high : List Char} (hport : port.toList = low ++ '-' :: high)
    (hlow : '-' ∉ low) : portRange? port = some (portBound low, portBound high) := by
  have hkeep : ∀ c ∈ low, (decide (c ≠ '-')) = true := by
    intro c hc
    refine decide_eq_true ?_
    rintro rfl
    exact hlow hc
  simp only [portRange?, hport, List.dropWhile_append_of_pos hkeep, List.takeWhile_append_of_pos hkeep,
    List.dropWhile_cons, List.takeWhile_cons]
  simp

theorem Content.fits_of_check {c : Content} (h : c.check = .ok ()) : c.Fits := by
  unfold check at h
  split at h
  · cases h
  · next address haddress =>
    split at h
    · cases h
    · next hfamily =>
      split at h
      · cases h
      · next hsize =>
        unfold checkPort at h
        cases hport : c.port with
        | none =>
          exact ⟨⟨address, haddress, by simpa using hfamily, by omega⟩, by simp [hport], by simp [hport]⟩
        | some port =>
          simp only [hport] at h
          split at h
          · next hprotocol =>
            refine ⟨⟨address, haddress, by simpa using hfamily, by omega⟩, fun _ => ?_, ?_⟩
            · simpa [protocolsWithPorts] using hprotocol
            · intro port' low high m n hport' hsplit hlow hm hn
              obtain rfl := Option.some.inj (hport.symm.trans hport')
              simp only [checkPortRange, portRange?_eq hsplit hlow, portBound, hm, hn,
                Option.getD_some] at h
              split at h
              · cases h
              · omega
          · cases h

theorem Content.checked_ok {c c' : Content} : c.checked = .ok c' ↔ c = c' ∧ c.check = .ok () := by
  rw [checked, bind_ok]
  constructor
  · rintro ⟨⟨⟩, hcheck, h⟩
    exact ⟨Except.ok.inj h, hcheck⟩
  · rintro ⟨rfl, hcheck⟩
    exact ⟨(), hcheck, rfl⟩

theorem Content.checkedAll_ok {cs cs' : List Content} :
    cs.mapM Content.checked = .ok cs' ↔ cs = cs' ∧ ∀ c ∈ cs', c.check = .ok () := by
  induction cs generalizing cs' with
  | nil => cases cs' <;> simp [pure, Except.pure]
  | cons c cs ih =>
    simp only [List.mapM_cons, bind_ok, checked_ok, ih]
    constructor
    · rintro ⟨_, ⟨rfl, hcheck⟩, _, ⟨rfl, hrest⟩, h⟩
      obtain rfl := Except.ok.inj h
      exact ⟨rfl, List.forall_mem_cons.mpr ⟨hcheck, hrest⟩⟩
    · rintro ⟨rfl, hcs⟩
      obtain ⟨hcheck, hrest⟩ := List.forall_mem_cons.mp hcs
      exact ⟨c, ⟨rfl, hcheck⟩, cs, ⟨rfl, hrest⟩, rfl⟩

theorem desired_ok {s : ResourceState} {rules : List Content} :
    desired s = .ok rules ↔
      (∃ blocks, s.decode (Decode.list blockDecoder) "rule" = .ok blocks ∧ blocks.getD [] = rules) ∧
        ∀ c ∈ rules, c.check = .ok () := by
  rw [desired, bind_ok]
  simp only [Content.checkedAll_ok]
  constructor
  · rintro ⟨blocks, hblocks, rfl, hcheck⟩
    exact ⟨⟨blocks, hblocks, rfl⟩, hcheck⟩
  · rintro ⟨⟨blocks, hblocks, rfl⟩, hcheck⟩
    exact ⟨blocks, hblocks, rfl, hcheck⟩

end FirewallRule

/-! ## DNS records -/

namespace DnsRecord

/-- The parts of a record fit each other: it has a priority exactly if its type has one, an address of
its kind if it is an address record, and it is no alias for the zone itself. -/
structure Fits (type name data : String) (priority : Option UInt32) : Prop where
  priority : priority.isSome = true ↔ type = "MX" ∨ type = "SRV"
  short : type = "A" → (Address.parseAs? .v4 data).isSome = true
  long : type = "AAAA" → (Address.parseAs? .v6 data).isSome = true
  apex : ¬ (type = "CNAME" ∧ name = "@")

theorem checkPriority_ok {type : String} {priority : Option UInt32} :
    checkPriority type priority = .ok () ↔ (priority.isSome = true ↔ type = "MX" ∨ type = "SRV") := by
  have hcontains : typesWithPriority.contains type = true ↔ type = "MX" ∨ type = "SRV" := by
    simp [typesWithPriority]
  rw [← hcontains]
  unfold checkPriority
  cases typesWithPriority.contains type <;> cases priority <;> simp

theorem checkData_ok {type name data : String} :
    checkData type name data = .ok () ↔
      (type = "A" → (Address.parseAs? .v4 data).isSome = true) ∧
        (type = "AAAA" → (Address.parseAs? .v6 data).isSome = true) ∧
        ¬ (type = "CNAME" ∧ name = "@") := by
  unfold checkData
  by_cases hshort : type = "A"
  · subst hshort
    cases Address.parseAs? .v4 data <;> simp
  · by_cases hlong : type = "AAAA"
    · subst hlong
      cases Address.parseAs? .v6 data <;> simp
    · simp [hshort, hlong]

theorem checks_ok {type name data : String} {priority : Option UInt32} :
    checkPriority type priority = .ok () ∧ checkData type name data = .ok () ↔
      Fits type name data priority := by
  rw [checkPriority_ok, checkData_ok]
  exact ⟨fun ⟨hpriority, hshort, hlong, hapex⟩ => ⟨hpriority, hshort, hlong, hapex⟩,
    fun h => ⟨h.priority, h.short, h.long, h.apex⟩⟩

theorem ofState_ok {s : ResourceState} {d : Draft} :
    Draft.ofState s = .ok d ↔
      (s.requiredText "type" = .ok d.type ∧ s.requiredText "name" = .ok d.name ∧
        s.requiredText "data" = .ok d.data ∧ requestedPriority s = .ok d.priority ∧
        requestedTtl s = .ok d.ttl) ∧ Fits d.type d.name d.data d.priority := by
  rw [← checks_ok]
  constructor
  · intro h
    obtain ⟨type, htype, h⟩ := bind_ok.mp h
    obtain ⟨name, hname, h⟩ := bind_ok.mp h
    obtain ⟨data, hdata, h⟩ := bind_ok.mp h
    obtain ⟨priority, hpriority, h⟩ := bind_ok.mp h
    obtain ⟨⟨⟩, hcheck, h⟩ := bind_ok.mp h
    obtain ⟨⟨⟩, hcheck', h⟩ := bind_ok.mp h
    obtain ⟨ttl, httl, h⟩ := bind_ok.mp h
    obtain rfl := Except.ok.inj h
    exact ⟨⟨htype, hname, hdata, hpriority, httl⟩, hcheck, hcheck'⟩
  · rintro ⟨⟨htype, hname, hdata, hpriority, httl⟩, hcheck, hcheck'⟩
    exact bind_ok.mpr ⟨_, htype, bind_ok.mpr ⟨_, hname, bind_ok.mpr ⟨_, hdata, bind_ok.mpr ⟨_, hpriority,
      bind_ok.mpr ⟨_, hcheck, bind_ok.mpr ⟨_, hcheck', bind_ok.mpr ⟨_, httl, rfl⟩⟩⟩⟩⟩⟩⟩

end DnsRecord

end CloudProvider
