import CloudProvider.Proofs.Resource.Blocks
import CloudProvider.Proofs.Resource.Channel
import CloudProvider.Proofs.Resource.Checks

/-!
# Changes of clusters

The attributes of clusters and of node pools that can be changed. All of them arrive but for a window that
is taken away from a cluster, which is not sent.

* `KubernetesCluster.convergence`, `NodePool.convergence`: the channels.
-/

namespace CloudProvider
open Json Json.Record
set_option autoImplicit false

/-! ## Node pools -/

theorem Autoscaling.planned_of_ofState {s : ResourceState} {count : UInt32} {o : Option Autoscaling}
    (hplanned : Planned NodePool.schema.attributes s.values) (h : ofState count s = .ok o) :
    (s.values.get? "autoscaling").bind normalize = normalize (.array (o.toList.map toJson)) := by
  obtain ⟨⟨xs, hxs, rfl⟩, -⟩ := ofState_ok.mp h
  rcases decode_single hplanned NodePool.writing.plain
    (show Keyed.get? "autoscaling" _ = some _ from rfl) rfl rfl rfl hxs with
    ⟨hnone, hhead⟩ | ⟨block, a, hblock, hplannedBlock, ha, hhead⟩
  · rw [hnone, hhead]
    rfl
  · rw [hblock, hhead]
    exact normalize_singleton (normalize_eq block a hplannedBlock ha)

namespace NodePool

theorem decoder_fields {m : Keyed Json} {pool : NodePool} (h : decoder (.object m) = .ok pool) :
    (required "node_count" Decode.uint32).build (ofMembers m) = .ok pool.nodeCount ∧
      (optional "autoscaling" (Autoscaling.decoder "struct Autoscaling")).build (ofMembers m) =
        .ok pool.autoscaling ∧
      (defaulted "labels" (Decode.map Decode.text) []).build (ofMembers m) = .ok pool.labels := by
  have hbuild := build_of_decoder h
  simp only [seq_ok, map_ok] at hbuild
  obtain ⟨_, _, ⟨_, _, ⟨_, _, ⟨_, _, ⟨_, _, ⟨_, _, ⟨_, -, rfl⟩, -, rfl⟩, -, rfl⟩, hcount, rfl⟩,
    hautoscaling, rfl⟩, hlabels, rfl⟩, -, rfl⟩ := hbuild
  exact ⟨hcount, hautoscaling, hlabels⟩

/-- The limits that a pool with the planned number of nodes has. -/
def requestedAutoscaling (s : ResourceState) : Except ProviderError (Option Autoscaling) := do
  Autoscaling.ofState (← requestedCount s) s

theorem sends {s : ResourceState} {body : Keyed Json} (h : lifecycle.changes s = .ok (.object body)) :
    SentIfChanged s body "node_count" "node_count" (requestedCount s) .uint32 ∧
      SentIfChanged s body "autoscaling" "autoscaling" (requestedAutoscaling s)
        (.option Autoscaling.toJson) ∧
      SentIfChanged s body "labels" "labels" (requestedLabels s) labelsJson := by
  obtain ⟨c, hc, hbody⟩ := bind_ok.mp h
  obtain ⟨count, hcount, hc⟩ := bind_ok.mp hc
  obtain ⟨autoscaling, hautoscaling, hc⟩ := bind_ok.mp hc
  obtain ⟨sentCount, hsentCount, hc⟩ := bind_ok.mp hc
  obtain ⟨sentAutoscaling, hsentAutoscaling, hc⟩ := bind_ok.mp hc
  obtain ⟨labels, hlabels, hc⟩ := bind_ok.mp hc
  obtain rfl := Except.ok.inj hc
  obtain rfl := Json.object.inj (Except.ok.inj hbody)
  have hrequested : requestedAutoscaling s = .ok autoscaling := bind_ok.mpr ⟨count, hcount, hautoscaling⟩
  refine ⟨⟨sentCount, ?_, by simp [get?_member?, get?_member?_last]⟩,
    ⟨sentAutoscaling, ?_, by simp [get?_member?, get?_member?_last]⟩,
    ⟨labels, hlabels, by simp [get?_member?, get?_member?_last]⟩⟩
  · rw [hcount]
    exact hsentCount
  · rw [hrequested]
    exact hsentAutoscaling

theorem planned_of_requestedLabels {s : ResourceState} {labels : Keyed String}
    (h : requestedLabels s = .ok labels) :
    (s.values.get? "labels").bind normalize = normalize (labelsJson labels) := by
  obtain ⟨o, ho, h⟩ := bind_ok.mp h
  obtain rfl := Except.ok.inj h
  rcases ResourceState.decode_ok.mp ho with ⟨hunset, rfl⟩ | ⟨v, labels, hv, hlabels, rfl⟩
  · rw [normalize_unset hunset]
    rfl
  · obtain rfl := (Decode.text_exact.map v labels).mp hlabels
    rw [(Option.filter_eq_some_iff.mp hv).1]
    rfl

def countRoute : ScalarRoute writing where
  Value := UInt32
  key := "node_count"
  decode := Decode.uint32
  encode := .uint32
  exact := Decode.uint32_exact
  value := nodeCount
  ne_status := by decide
  recorded pool _ := by simp [writing, entries]
  reads h := (decoder_fields h).1
  requested := requestedCount
  sends h := (sends h.changes).1
  given := requestedCount_ok.mp

def autoscalingRoute : DirectRoute writing where
  Value := Option Autoscaling
  key := "autoscaling"
  member := "autoscaling"
  field := optional "autoscaling" (Autoscaling.decoder "struct Autoscaling")
  value := autoscaling
  encode o := .array (o.toList.map Autoscaling.toJson)
  ne_status := by decide
  recorded pool _ := by simp [writing, entries]
  reads h := (decoder_fields h).2.1
  isLocal := local_defaulted _ _ _
  requested := requestedAutoscaling
  sendAs := .option Autoscaling.toJson
  Stuck _ := False
  sends h := (sends h.changes).2.1
  rereads hm := optional_reads (Autoscaling.reads _) (fun _ => rfl) hm
  same hplanned ha _ := by
    obtain ⟨count, -, ha⟩ := bind_ok.mp ha
    exact Autoscaling.planned_of_ofState hplanned ha
  stuck_differs h := h.elim

def labelsRoute : DirectRoute writing where
  Value := Keyed String
  key := "labels"
  member := "labels"
  field := defaulted "labels" (Decode.map Decode.text) []
  value := labels
  encode := labelsJson
  ne_status := by decide
  recorded pool _ := by simp [writing, entries]
  reads h := (decoder_fields h).2.2
  isLocal := local_defaulted _ _ _
  requested := requestedLabels
  sendAs := labelsJson
  Stuck _ := False
  sends h := (sends h.changes).2.2
  rereads hm := defaulted_reads Decode.text_exact.map.reads hm
  same _ ha _ := planned_of_requestedLabels ha
  stuck_differs h := h.elim

/-- The channels of all attributes that can be changed, on which nothing gets stuck. -/
def channels : List (Channel writing) := [countRoute.channel, autoscalingRoute.channel, labelsRoute.channel]

theorem never_stuck : ∀ ch ∈ channels, ∀ v w, ¬ ch.Stuck v w := by
  intro ch hch v w hstuck
  simp only [channels, List.mem_cons, List.not_mem_nil, or_false] at hch
  rcases hch with rfl | rfl | rfl <;> exact hstuck.elim

def convergence : Convergence writing where
  channels := channels
  updatable := rfl
  object s v h := by
    obtain ⟨c, -, hbody⟩ := bind_ok.mp h
    exact ⟨_, (Except.ok.inj hbody).symm⟩
  again _ _ _ _ _ hstuck _ := by
    obtain ⟨ch, hch, hstuck⟩ := hstuck
    exact absurd hstuck (never_stuck ch hch _ _)

end NodePool

/-! ## Clusters -/

theorem MaintenanceWindow.planned_of_ofState {s : ResourceState} {o : Option MaintenanceWindow}
    (hplanned : Planned KubernetesCluster.schema.attributes s.values) (h : ofState s = .ok o) :
    (s.values.get? "maintenance_window").bind normalize = normalize (.array (o.toList.map toJson)) := by
  obtain ⟨xs, hxs, ho⟩ := ofState_ok.mp h
  rcases decode_single hplanned KubernetesCluster.writing.plain
    (show Keyed.get? "maintenance_window" _ = some _ from rfl) rfl rfl rfl hxs with
    ⟨hnone, hhead⟩ | ⟨block, w, hblock, hplannedBlock, hw, hhead⟩
  · rcases ho with ⟨-, rfl⟩ | ⟨w, w', hsome, -, -⟩
    · exact hnone
    · cases hhead.symm.trans hsome
  · rcases ho with ⟨hnone, -⟩ | ⟨w₁, w', hsome, hnormalized, rfl⟩
    · cases hhead.symm.trans hnone
    · obtain rfl := Option.some.inj (hhead.symm.trans hsome)
      rw [hblock]
      exact normalize_singleton (normalize_eq block w w' hplannedBlock hw hnormalized)

namespace KubernetesCluster

theorem decoder_fields {m : Keyed Json} {cluster : KubernetesCluster}
    (h : decoder (.object m) = .ok cluster) :
    (required "name" Decode.text).build (ofMembers m) = .ok cluster.name ∧
      (required "version" Decode.text).build (ofMembers m) = .ok cluster.version ∧
      (optional "maintenance_window" (MaintenanceWindow.decoder "struct MaintenanceWindow")).build
        (ofMembers m) = .ok cluster.maintenanceWindow ∧
      (defaulted "api_allow_list" (Decode.list Decode.text) []).build (ofMembers m) =
        .ok cluster.apiAllowList := by
  have hbuild := build_of_decoder h
  simp only [seq_ok, map_ok] at hbuild
  obtain ⟨_, _, ⟨_, _, ⟨_, _, ⟨_, _, ⟨_, _, ⟨_, _, ⟨_, _, ⟨_, _, ⟨_, -, rfl⟩, hname, rfl⟩,
    hversion, rfl⟩, -, rfl⟩, -, rfl⟩, -, rfl⟩, -, rfl⟩, hwindow, rfl⟩, hallowed, rfl⟩ := hbuild
  exact ⟨hname, hversion, hwindow, hallowed⟩

/-- What is sent for each attribute. A window that changes to none is not sent. -/
theorem sends {s : ResourceState} {body : Keyed Json} (h : lifecycle.Sends s body) :
    SentIfChanged s body "name" "name" (s.requiredText "name") .string ∧
      SentIfChanged s body "version" "version" (upgradedVersion s) .string ∧
      (∃ o, s.ifChanged "maintenance_window" (MaintenanceWindow.ofState s) = .ok o ∧
        body.get? "maintenance_window" = o.join.map MaintenanceWindow.toJson) ∧
      SentIfChanged s body "api_allow_list" "api_allow_list" (.ok (s.texts "api_allow_list"))
        .strings := by
  obtain ⟨c, hc, hbody⟩ := bind_ok.mp h.changes
  obtain ⟨name, hname, hc⟩ := bind_ok.mp hc
  obtain ⟨version, hversion, hc⟩ := bind_ok.mp hc
  obtain ⟨window, hwindow, hc⟩ := bind_ok.mp hc
  obtain ⟨allowed, hallowed, hc⟩ := bind_ok.mp hc
  obtain rfl := Except.ok.inj hc
  obtain rfl := Json.object.inj (Except.ok.inj hbody)
  exact ⟨⟨name, hname, by simp [get?_member?, get?_member?_last]⟩,
    ⟨version, hversion, by simp [get?_member?, get?_member?_last]⟩,
    ⟨window, hwindow, by simp [get?_member?, get?_member?_last]⟩,
    ⟨allowed, hallowed, by simp [get?_member?, get?_member?_last]⟩⟩

theorem planned_of_upgradedVersion {s : ResourceState} {version : String}
    (h : upgradedVersion s = .ok version) : s.values.get? "version" = some (.string version) := by
  obtain ⟨requested, hrequested, h⟩ := bind_ok.mp h
  have hsame : requested = version := by
    split at h
    · split at h
      · cases h
      · exact Except.ok.inj h
    · exact Except.ok.inj h
  rw [← hsame]
  exact ResourceState.requiredText_ok.mp hrequested

theorem planned_texts {s : ResourceState} (h : Planned schema.attributes s.values) :
    (s.values.get? "api_allow_list").bind normalize =
      normalize (.strings (s.texts "api_allow_list")) := by
  rw [ResourceState.texts, ResourceState.items, ResourceState.value?]
  rcases h.texts writing.plain (show Keyed.get? "api_allow_list" _ = some _ from rfl) rfl rfl with
    ⟨hunset, -, -⟩ | ⟨texts, htexts⟩
  · rw [normalize_unset hunset, hunset]
    rfl
  · have hsame : (texts.map Json.string).filterMap asString? = texts := by
      simp [List.filterMap_map, Function.comp_def, asString?]
    rw [htexts]
    change _ = normalize (.strings ((texts.map Json.string).filterMap asString?))
    rw [hsame]
    rfl

def nameRoute : ScalarRoute writing :=
  .text "name" name name_ne_status (fun _ _ => by simp [writing, entries]) (fun h => (decoder_fields h).1)
    (fun h => (sends h).1)

def versionRoute : ScalarRoute writing where
  Value := String
  key := "version"
  decode := Decode.text
  encode := .string
  exact := Decode.text_exact
  value := version
  ne_status := by decide
  recorded cluster _ := by simp [writing, entries]
  reads h := (decoder_fields h).2.1
  requested := upgradedVersion
  sends h := (sends h).2.1
  given := planned_of_upgradedVersion

def allowedRoute : DirectRoute writing where
  Value := List String
  key := "api_allow_list"
  member := "api_allow_list"
  field := defaulted "api_allow_list" (Decode.list Decode.text) []
  value := apiAllowList
  encode := .strings
  ne_status := by decide
  recorded cluster _ := by simp [writing, entries]
  reads h := (decoder_fields h).2.2.2
  isLocal := local_defaulted _ _ _
  requested s := .ok (s.texts "api_allow_list")
  sendAs := .strings
  Stuck _ := False
  sends h := (sends h).2.2.2
  rereads hm := defaulted_reads Decode.text_exact.list.reads hm
  same hplanned ha _ := by
    obtain rfl := Except.ok.inj ha
    exact planned_texts hplanned
  stuck_differs h := h.elim

/-- A window that is taken away is not sent, so that it stays. -/
def windowChannel : Channel writing where
  Value := Option MaintenanceWindow
  key := "maintenance_window"
  member := "maintenance_window"
  field := optional "maintenance_window" (MaintenanceWindow.decoder "struct MaintenanceWindow")
  value := maintenanceWindow
  encode o := .array (o.toList.map MaintenanceWindow.toJson)
  ne_status := by decide
  recorded cluster _ := by simp [writing, entries]
  reads h := (decoder_fields h).2.2.1
  isLocal := local_defaulted _ _ _
  Stuck := Dropped
  unsent h hsame := by
    obtain ⟨o, ho, hmember⟩ := (sends h).2.2.1
    rcases ResourceState.ifChanged_ok.mp ho with ⟨-, rfl⟩ | ⟨hchange, -⟩
    · exact hmember
    · cases hsame.symm.trans hchange
  arrives {s body} h hchange hstuck := by
    obtain ⟨o, ho, hmember⟩ := (sends h).2.2.1
    rcases ResourceState.ifChanged_ok.mp ho with ⟨hsame, -⟩ | ⟨-, window, hwindow, rfl⟩
    · cases hsame.symm.trans hchange
    have hplanned := MaintenanceWindow.planned_of_ofState h.planned hwindow
    cases window with
    | some w =>
      refine ⟨_, some w, hmember, fun m hm => ?_, hplanned⟩
      exact optional_reads (MaintenanceWindow.reads _) (fun _ => rfl) hm
    | none =>
      -- No window is planned and there was none before, so that nothing changes.
      refine absurd ⟨hplanned, fun hprior => ?_⟩ hstuck
      rw [ResourceState.hasChange_eq] at hchange
      cases hchange.symm.trans (differs_of_eq (hplanned.trans hprior.symm))
  stuck_differs h := h.differs
  stays {s body} h hstuck := by
    obtain ⟨o, ho, hmember⟩ := (sends h).2.2.1
    refine .inl (hmember.trans ?_)
    rcases ResourceState.ifChanged_ok.mp ho with ⟨-, rfl⟩ | ⟨-, window, hwindow, rfl⟩
    · rfl
    cases window with
    | none => rfl
    | some w => cases hstuck.1.symm.trans (MaintenanceWindow.planned_of_ofState h.planned hwindow)

def convergence : Convergence writing where
  channels := [nameRoute.channel, versionRoute.channel, windowChannel, allowedRoute.channel]
  updatable := rfl
  object s v h := by
    obtain ⟨c, -, hbody⟩ := bind_ok.mp h
    exact ⟨_, (Except.ok.inj hbody).symm⟩
  again s s' v h hvalues hstuck hsettled := by
    simp only [List.forall_mem_cons, List.not_mem_nil, false_implies, implies_true, and_true]
      at hsettled
    obtain ⟨hname, hversion, -, -⟩ := hsettled
    have hunchanged {key : String} {value : Except ProviderError String}
        (hsettled : s'.hasChange key = true → False) : s'.ifChanged key value = .ok none :=
      ResourceState.ifChanged_ok.mpr (.inl ⟨Bool.eq_false_iff.mpr hsettled, rfl⟩)
    -- Only the window can be stuck, so that it was looked at before, with the same planned values.
    have hdropped : Dropped (s.values.get? "maintenance_window") (s.prior.get? "maintenance_window") := by
      obtain ⟨ch, hch, hstuck⟩ := hstuck
      simp only [List.mem_cons, List.not_mem_nil, or_false] at hch
      rcases hch with rfl | rfl | rfl | rfl
      · exact hstuck.elim
      · exact hstuck.elim
      · exact hstuck
      · exact hstuck.elim
    have hwindow : ∃ window, MaintenanceWindow.ofState s = .ok window := by
      obtain ⟨c, hc, _⟩ := bind_ok.mp h
      obtain ⟨_, _, hc⟩ := bind_ok.mp hc
      obtain ⟨_, _, hc⟩ := bind_ok.mp hc
      obtain ⟨o, ho, _⟩ := bind_ok.mp hc
      rcases ResourceState.ifChanged_ok.mp ho with ⟨hsame, -⟩ | ⟨-, window, hwindow, -⟩
      · rw [ResourceState.hasChange_eq] at hsame
        cases hsame.symm.trans hdropped.differs
      · exact ⟨window, hwindow⟩
    obtain ⟨window, hwindow⟩ := hwindow
    have hwindow' : MaintenanceWindow.ofState s' = .ok window := by
      have hdecode (decode : Decoder (List MaintenanceWindow)) (key : String) :
          s'.decode decode key = s.decode decode key := by
        simp only [ResourceState.decode, ResourceState.value?, hvalues]
      rw [← hwindow]
      simp only [MaintenanceWindow.ofState, hdecode]
    obtain ⟨o, ho⟩ := @ResourceState.ifChanged_of_ok "maintenance_window" _ _ _ hwindow' s'
    obtain ⟨o', ho'⟩ := @ResourceState.ifChanged_of_ok "api_allow_list" _ _ (s'.texts "api_allow_list")
      rfl s'
    have hchanges : Changes.ofState s' = .ok ⟨none, none, o.join, o'⟩ :=
      bind_ok.mpr ⟨none, hunchanged hname, bind_ok.mpr ⟨none, hunchanged hversion,
        bind_ok.mpr ⟨o, ho, bind_ok.mpr ⟨o', ho', rfl⟩⟩⟩⟩
    exact ⟨_, bind_ok.mpr ⟨_, hchanges, rfl⟩⟩

theorem stuck_iff (planned prior : Keyed Json) : convergence.Stuck planned prior ↔
    Dropped (planned.get? "maintenance_window") (prior.get? "maintenance_window") := by
  simp only [Convergence.Stuck, convergence, List.mem_cons, List.not_mem_nil, or_false, exists_eq_or_imp,
    exists_eq_left]
  constructor
  · rintro (hname | hversion | hwindow | hallowed)
    · exact hname.elim
    · exact hversion.elim
    · exact hwindow
    · exact hallowed.elim
  · exact fun h => .inr (.inr (.inl h))

end KubernetesCluster

end CloudProvider
