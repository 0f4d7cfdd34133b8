import CloudProvider.Proofs.Resource.Blocks
import CloudProvider.Proofs.Resource.Channel
import CloudProvider.Proofs.Resource.Checks

/-!
# Changes of networks

The attributes of networks, load balancers and storages that can be changed. All of them arrive but for
an empty description of a network: it is sent, but recorded as none.

* `PrivateLan.convergence`, `LoadBalancer.convergence`, `NasInstance.convergence`: the channels.
-/

namespace CloudProvider
open Json Json.Record
set_option autoImplicit false

/-! ## Private networks -/

namespace PrivateLan

theorem decoder_fields {m : Keyed Json} {lan : PrivateLan} (h : decoder (.object m) = .ok lan) :
    (required "name" Decode.text).build (ofMembers m) = .ok lan.name ∧
      (optional "description" Decode.text).build (ofMembers m) = .ok lan.description := by
  have hbuild := build_of_decoder h
  simp only [seq_ok, map_ok] at hbuild
  obtain ⟨_, _, ⟨_, _, ⟨_, _, ⟨_, _, ⟨_, _, ⟨_, -, rfl⟩, hname, rfl⟩, -, rfl⟩, -, rfl⟩,
    hdescription, rfl⟩, -, rfl⟩ := hbuild
  exact ⟨hname, hdescription⟩

theorem planned_name {s : ResourceState} (h : Planned schema.attributes s.values) :
    ∃ t, s.values.get? "name" = some (.string t) := by
  rcases h.text writing.plain (show Keyed.get? "name" _ = some _ from rfl) rfl rfl with
    ⟨-, hrequired, -⟩ | ht
  · cases hrequired
  · exact ht

theorem sends_name {s : ResourceState} {body : Keyed Json} {t : String}
    (ht : s.values.get? "name" = some (.string t)) (h : lifecycle.changes s = .ok (.object body)) :
    SentIfChanged s body "name" "name" (s.requiredText "name") .string := by
  obtain rfl := Json.object.inj (Except.ok.inj h)
  refine ⟨(Changes.ofState s).name, ?_, by simp [get?_member?, get?_member?_last]⟩
  rw [ResourceState.ifChanged_ok, ResourceState.requiredText_ok.mpr ht, Changes.ofState,
    ResourceState.text?_eq_some.mpr ht]
  cases s.hasChange "name" <;> simp

theorem sends_description {s : ResourceState} {body : Keyed Json}
    (h : lifecycle.changes s = .ok (.object body)) :
    SentIfChanged s body "description" "description" (.ok ((s.text? "description").getD ""))
      .string := by
  obtain rfl := Json.object.inj (Except.ok.inj h)
  refine ⟨(Changes.ofState s).description, ?_, by simp [get?_member?, get?_member?_last]⟩
  rw [ResourceState.ifChanged_ok, Changes.ofState]
  cases s.hasChange "description" <;> simp

def nameRoute : ScalarRoute writing :=
  .text "name" name name_ne_status (fun _ _ => .head _) (fun h => (decoder_fields h).1) fun h =>
    have ⟨_, ht⟩ := planned_name h.planned
    sends_name ht h.changes

/-- An empty description is sent, but none is recorded. -/
def descriptionRoute : DirectRoute writing where
  Value := Option String
  key := "description"
  member := "description"
  field := optional "description" Decode.text
  value := description
  encode o := .option .string (o.filter (· ≠ ""))
  ne_status := by decide
  recorded lan _ := by simp [writing, entries]
  reads h := (decoder_fields h).2
  isLocal := local_defaulted _ _ _
  requested s := .ok (some ((s.text? "description").getD ""))
  sendAs := .option .string
  Stuck v := v = some (.string "")
  sends {s body} h := by
    obtain ⟨o, ho, hmember⟩ := sends_description h.changes
    refine ⟨o.map some, ResourceState.ifChanged_map some ho, ?_⟩
    rw [hmember]
    cases o <;> rfl
  rereads hm := optional_reads Decode.text_exact.reads (fun _ => rfl) hm
  same {s a} hplanned ha hstuck := by
    obtain rfl := Except.ok.inj ha
    rcases hplanned.text writing.plain (show Keyed.get? "description" _ = some _ from rfl) rfl rfl with
      ⟨hunset, -, -⟩ | ⟨t, ht⟩
    · rw [normalize_unset hunset, ResourceState.text?_of_unset hunset]
      rfl
    · have hne : t ≠ "" := by
        rintro rfl
        exact hstuck ht
      have hfilter : (some t).filter (· ≠ "") = some t := by simp [hne]
      rw [ResourceState.text?_eq_some.mpr ht, ht, Option.getD_some, hfilter]
      rfl
  stuck_differs {v a} hv := by
    rw [hv]
    cases a with
    | none => rfl
    | some t =>
      by_cases ht : t = ""
      · rw [ht]
        rfl
      · have hfilter : (some t).filter (· ≠ "") = some t := by simp [ht]
        rw [hfilter]
        simp [differs, Json.option, normalize, sameOption, same, Ne.symm ht]

def convergence : Convergence writing where
  channels := [nameRoute.channel, descriptionRoute.channel]
  updatable := rfl
  object _ _ h := ⟨_, (Except.ok.inj h).symm⟩
  again _ _ _ _ _ _ _ := ⟨_, rfl⟩

theorem stuck_iff (planned prior : Keyed Json) : convergence.Stuck planned prior ↔
    planned.get? "description" = some (.string "") := by
  simp only [Convergence.Stuck, convergence, List.mem_cons, List.not_mem_nil, or_false, exists_eq_or_imp,
    exists_eq_left]
  exact iff_of_eq (false_or _)

end PrivateLan

/-! ## Storages -/

namespace NasInstance

theorem decoder_fields {m : Keyed Json} {nas : NasInstance} (h : decoder (.object m) = .ok nas) :
    (required "name" Decode.text).build (ofMembers m) = .ok nas.name ∧
      (required "size_gb" Decode.int64).build (ofMembers m) = .ok nas.sizeGb := by
  have hbuild := build_of_decoder h
  simp only [seq_ok, map_ok] at hbuild
  obtain ⟨_, _, ⟨_, _, ⟨_, _, ⟨_, _, ⟨_, _, ⟨_, _, ⟨_, _, ⟨_, _, ⟨_, -, rfl⟩, hname, rfl⟩, -, rfl⟩,
    hsize, rfl⟩, -, rfl⟩, -, rfl⟩, -, rfl⟩, -, rfl⟩, -, rfl⟩ := hbuild
  exact ⟨hname, hsize⟩

theorem sends {s : ResourceState} {body : Keyed Json} (h : lifecycle.changes s = .ok (.object body)) :
    SentIfChanged s body "name" "name" (s.requiredText "name") .string ∧
      SentIfChanged s body "size_gb" "size_gb" (grownSize s) .int64 := by
  obtain ⟨c, hc, hbody⟩ := bind_ok.mp h
  obtain ⟨name, hname, hc⟩ := bind_ok.mp hc
  obtain ⟨size, hsize, hc⟩ := bind_ok.mp hc
  obtain rfl := Except.ok.inj hc
  obtain rfl := Json.object.inj (Except.ok.inj hbody)
  exact ⟨⟨name, hname, by simp [get?_member?, get?_member?_last]⟩,
    ⟨size, hsize, by simp [get?_member?, get?_member?_last]⟩⟩

/-- The capacity that is asked for is the planned one, also where it is compared with the one before. -/
theorem requestedSize_of_grownSize {s : ResourceState} {size : Int64} (h : grownSize s = .ok size) :
    requestedSize s = .ok size := by
  obtain ⟨size', hsize, h⟩ := bind_ok.mp h
  rw [hsize]
  split at h
  · split at h
    · cases h
    · exact h
  · exact h

theorem planned_of_grownSize {s : ResourceState} {size : Int64} (h : grownSize s = .ok size) :
    s.values.get? "size_gb" = some (.int64 size) := by
  have hsize := requestedSize_of_grownSize h
  rw [requestedSize] at hsize
  split at hsize
  · next n hn =>
    obtain ⟨i, hi, hin⟩ := ResourceState.int?_eq_some.mp hn
    obtain rfl := Except.ok.inj hsize
    rw [hi, int64_eq_iff.mpr (Integer.toInt64?_eq_some.mp hin)]
  · cases hsize

def nameRoute : ScalarRoute writing :=
  .text "name" name name_ne_status (fun _ _ => .head _) (fun h => (decoder_fields h).1)
    (fun h => (sends h.changes).1)

def sizeRoute : ScalarRoute writing where
  Value := Int64
  key := "size_gb"
  decode := Decode.int64
  encode := .int64
  exact := Decode.int64_exact
  value := sizeGb
  ne_status := by decide
  recorded nas _ := by simp [writing, entries]
  reads h := (decoder_fields h).2
  requested := grownSize
  sends h := (sends h.changes).2
  given := planned_of_grownSize

/-- The channels of all attributes that can be changed, on which nothing gets stuck. -/
def channels : List (Channel writing) := [nameRoute.channel, sizeRoute.channel]

theorem never_stuck : ∀ ch ∈ channels, ∀ v w, ¬ ch.Stuck v w := by
  intro ch hch v w hstuck
  simp only [channels, List.mem_cons, List.not_mem_nil, or_false] at hch
  rcases hch with rfl | rfl <;> exact hstuck.elim

def convergence : Convergence writing where
  channels := channels
  updatable := rfl
  object s v h := by
    obtain ⟨c, -, hbody⟩ := bind_ok.mp h
    exact ⟨_, (Except.ok.inj hbody).symm⟩
  again _ _ _ _ _ hstuck _ := by
    obtain ⟨ch, hch, hstuck⟩ := hstuck
    exact absurd hstuck (never_stuck ch hch _ _)

end NasInstance

/-! ## Load balancers -/

namespace HealthCheck

theorem planned_of_ofState {s : ResourceState} {o : Option HealthCheck}
    (hplanned : Planned LoadBalancer.schema.attributes s.values) (h : ofState s = .ok o) :
    (s.values.get? "health_check").bind normalize = normalize (.array (o.toList.map toBlock)) := by
  obtain ⟨⟨xs, hxs, rfl⟩, -⟩ := ofState_ok.mp h
  rcases decode_single hplanned LoadBalancer.writing.plain
    (show Keyed.get? "health_check" _ = some _ from rfl) rfl rfl rfl hxs with
    ⟨hnone, hhead⟩ | ⟨block, c, hblock, hplannedBlock, hc, hhead⟩
  · rw [hnone, hhead]
    rfl
  · rw [hblock, hhead]
    exact normalize_singleton (normalize_eq block c hplannedBlock hc)

end HealthCheck

theorem ForwardingRule.planned_of_ofState {s : ResourceState} {rules : List ForwardingRule}
    (hplanned : Planned LoadBalancer.schema.attributes s.values) (h : ofState s = .ok rules) :
    (s.values.get? "forwarding_rule").bind normalize = normalize (.array (rules.map toBlock)) := by
  obtain ⟨⟨decoded, hdecoded, rfl⟩, hdistinct⟩ := ofState_ok.mp h
  have hrules : decoded = some (decoded.getD []) := by
    cases decoded with
    | none => exact absurd rfl hdistinct.nonempty
    | some decoded => rfl
  rcases hplanned.blocks LoadBalancer.writing.plain
    (show Keyed.get? "forwarding_rule" _ = some _ from rfl) rfl rfl with
    ⟨-, hrequired, -⟩ | ⟨blocks, hblocks, -, hall⟩
  · cases hrequired
  · rcases ResourceState.decode_ok.mp hdecoded with ⟨-, hnone⟩ | ⟨v, rules', hv, hlist, hsome⟩
    · cases hnone.symm.trans hrules
    · obtain rfl := Option.some.inj (hsome.symm.trans hrules)
      have hset : s.value? "forwarding_rule" = some (.array (blocks.map .object)) := by
        rw [ResourceState.value?, hblocks]
        rfl
      obtain rfl := Option.some.inj (hset.symm.trans hv)
      rw [hblocks]
      exact normalize_blocks hall hlist normalize_eq

namespace LoadBalancer

theorem decoder_fields {m : Keyed Json} {lb : LoadBalancer} (h : decoder (.object m) = .ok lb) :
    (required "name" Decode.text).build (ofMembers m) = .ok lb.name ∧
      (defaulted "forwarding_rules" (Decode.list ForwardingRule.decoder) []).build (ofMembers m) =
        .ok lb.forwardingRules ∧
      (optional "health_check" (HealthCheck.decoder "struct HealthCheck")).build (ofMembers m) =
        .ok lb.healthCheck := by
  have hbuild := build_of_decoder h
  simp only [seq_ok, map_ok] at hbuild
  obtain ⟨_, _, ⟨_, _, ⟨_, _, ⟨_, _, ⟨_, _, ⟨_, _, ⟨_, _, ⟨_, -, rfl⟩, hname, rfl⟩, -, rfl⟩,
    -, rfl⟩, -, rfl⟩, -, rfl⟩, hrules, rfl⟩, hcheck, rfl⟩ := hbuild
  exact ⟨hname, hrules, hcheck⟩

theorem sends {s : ResourceState} {body : Keyed Json} (h : lifecycle.changes s = .ok (.object body)) :
    SentIfChanged s body "name" "name" (s.requiredText "name") .string ∧
      SentIfChanged s body "forwarding_rule" "forwarding_rules" (ForwardingRule.ofState s) rulesJson ∧
      SentIfChanged s body "health_check" "health_check" (HealthCheck.ofState s)
        (.option HealthCheck.toJson) := by
  obtain ⟨c, hc, hbody⟩ := bind_ok.mp h
  obtain ⟨name, hname, hc⟩ := bind_ok.mp hc
  obtain ⟨rules, hrules, hc⟩ := bind_ok.mp hc
  obtain ⟨check, hcheck, hc⟩ := bind_ok.mp hc
  obtain rfl := Except.ok.inj hc
  obtain rfl := Json.object.inj (Except.ok.inj hbody)
  exact ⟨⟨name, hname, by simp [get?_member?, get?_member?_last]⟩,
    ⟨rules, hrules, by simp [get?_member?, get?_member?_last]⟩,
    ⟨check, hcheck, by simp [get?_member?, get?_member?_last]⟩⟩

def nameRoute : ScalarRoute writing :=
  .text "name" name name_ne_status (fun _ _ => .head _) (fun h => (decoder_fields h).1)
    (fun h => (sends h.changes).1)

def rulesRoute : DirectRoute writing where
  Value := List ForwardingRule
  key := "forwarding_rule"
  member := "forwarding_rules"
  field := defaulted "forwarding_rules" (Decode.list ForwardingRule.decoder) []
  value := forwardingRules
  encode rules := .array (rules.map ForwardingRule.toBlock)
  ne_status := by decide
  recorded lb _ := by simp [writing, entries]
  reads h := (decoder_fields h).2.1
  isLocal := local_defaulted _ _ _
  requested := ForwardingRule.ofState
  sendAs := rulesJson
  Stuck _ := False
  sends h := (sends h.changes).2.1
  rereads hm := defaulted_reads ForwardingRule.reads.list hm
  same hplanned ha _ := ForwardingRule.planned_of_ofState hplanned ha
  stuck_differs h := h.elim

def checkRoute : DirectRoute writing where
  Value := Option HealthCheck
  key := "health_check"
  member := "health_check"
  field := optional "health_check" (HealthCheck.decoder "struct HealthCheck")
  value := healthCheck
  encode o := .array (o.toList.map HealthCheck.toBlock)
  ne_status := by decide
  recorded lb _ := by simp [writing, entries]
  reads h := (decoder_fields h).2.2
  isLocal := local_defaulted _ _ _
  requested := HealthCheck.ofState
  sendAs := .option HealthCheck.toJson
  Stuck _ := False
  sends h := (sends h.changes).2.2
  rereads hm := optional_reads (HealthCheck.reads _) (fun _ => rfl) hm
  same hplanned ha _ := HealthCheck.planned_of_ofState hplanned ha
  stuck_differs h := h.elim

/-- The channels of all attributes that can be changed, on which nothing gets stuck. -/
def channels : List (Channel writing) := [nameRoute.channel, rulesRoute.channel, checkRoute.channel]

theorem never_stuck : ∀ ch ∈ channels, ∀ v w, ¬ ch.Stuck v w := by
  intro ch hch v w hstuck
  simp only [channels, List.mem_cons, List.not_mem_nil, or_false] at hch
  rcases hch with rfl | rfl | rfl <;> exact hstuck.elim

def convergence : Convergence writing where
  channels := channels
  updatable := rfl
  object s v h := by
    obtain ⟨c, -, hbody⟩ := bind_ok.mp h
    exact ⟨_, (Except.ok.inj hbody).symm⟩
  again _ _ _ _ _ hstuck _ := by
    obtain ⟨ch, hch, hstuck⟩ := hstuck
    exact absurd hstuck (never_stuck ch hch _ _)

end LoadBalancer

end CloudProvider
