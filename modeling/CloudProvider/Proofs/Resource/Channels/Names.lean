import CloudProvider.Proofs.Resource.Channel
import CloudProvider.Proofs.Resource.Checks

/-!
# Changes of names

The attributes of zones, records and email identities that can be changed. All of them arrive but for
numbers of records that are too large, which are read as if they were not given, and for a priority that
is taken away, which is not sent.

* `DnsDomain.convergence`, `DnsRecord.convergence`, `EmailIdentity.convergence`: the channels.
-/

namespace CloudProvider
open Json Json.Record
set_option autoImplicit false

/-! ## Zones -/

namespace DnsDomain

theorem decoder_fields {m : Keyed Json} {zone : DnsDomain} (h : decoder (.object m) = .ok zone) :
    (defaulted "dnssec_enabled" Decode.boolean false).build (ofMembers m) = .ok zone.dnssecEnabled := by
  have hbuild := build_of_decoder h
  simp only [seq_ok, map_ok] at hbuild
  obtain ⟨_, _, ⟨_, _, ⟨_, _, ⟨_, -, rfl⟩, hsigned, rfl⟩, -, rfl⟩, -, rfl⟩ := hbuild
  exact hsigned

/-- Whether a zone is signed is sent with every change, and there are no other changes. -/
def signingRoute : DirectRoute writing where
  Value := Bool
  key := "dnssec_enabled"
  member := "dnssec_enabled"
  field := defaulted "dnssec_enabled" Decode.boolean false
  value := dnssecEnabled
  encode := .bool
  ne_status := by decide
  recorded zone s := by simp [writing, entries]
  reads h := decoder_fields h
  isLocal := local_defaulted _ _ _
  requested s := .ok (requestedSigning s)
  sendAs := .bool
  Stuck _ := False
  sends {s body} h := by
    have hchange : s.hasChange "dnssec_enabled" = true := by
      simpa [ResourceState.hasChanges, lifecycle] using h.changed
    obtain rfl := Json.object.inj (Except.ok.inj h.changes)
    exact ⟨_, ResourceState.ifChanged_ok.mpr (.inr ⟨hchange, _, rfl, rfl⟩), rfl⟩
  rereads hm := defaulted_reads Decode.boolean_exact.reads hm
  same {s a} hplanned ha _ := by
    obtain rfl := Except.ok.inj ha
    rcases hplanned.bool writing.plain (show Keyed.get? "dnssec_enabled" _ = some _ from rfl) rfl
      (fun d hd => ⟨false, (Option.some.inj hd).symm⟩) with ⟨-, -, hdefault⟩ | ⟨b, hb⟩
    · cases hdefault
    · rw [requestedSigning, ResourceState.bool?_eq_some.mpr hb, hb]
      rfl
  stuck_differs h := h.elim

/-- The channels of all attributes that can be changed, on which nothing gets stuck. -/
def channels : List (Channel writing) := [signingRoute.channel]

theorem never_stuck : ∀ ch ∈ channels, ∀ v w, ¬ ch.Stuck v w := by
  intro ch hch v w hstuck
  simp only [channels, List.mem_cons, List.not_mem_nil, or_false] at hch
  obtain rfl := hch
  exact hstuck

def convergence : Convergence writing where
  channels := channels
  updatable := rfl
  object _ _ h := ⟨_, (Except.ok.inj h).symm⟩
  again _ _ _ _ _ _ _ := ⟨_, rfl⟩

end DnsDomain

/-! ## Records -/

namespace DnsRecord

theorem decoder_fields {m : Keyed Json} {r : DnsRecord} (h : decoder (.object m) = .ok r) :
    (required "name" Decode.text).build (ofMembers m) = .ok r.name ∧
      (required "data" Decode.text).build (ofMembers m) = .ok r.data ∧
      (required "ttl" Decode.uint32).build (ofMembers m) = .ok r.ttl ∧
      (optional "priority" Decode.uint32).build (ofMembers m) = .ok r.priority := by
  have hbuild := build_of_decoder h
  simp only [seq_ok, map_ok] at hbuild
  obtain ⟨_, _, ⟨_, _, ⟨_, _, ⟨_, _, ⟨_, _, ⟨_, -, rfl⟩, hname, rfl⟩, -, rfl⟩, hdata, rfl⟩,
    httl, rfl⟩, hpriority, rfl⟩ := hbuild
  exact ⟨hname, hdata, httl, hpriority⟩

/-- What is sent for each attribute. A priority that changes to none is not sent. -/
theorem sends {s : ResourceState} {body : Keyed Json} (h : lifecycle.Sends s body) :
    SentIfChanged s body "name" "name" (s.requiredText "name") .string ∧
      SentIfChanged s body "data" "data" (s.requiredText "data") .string ∧
      SentIfChanged s body "ttl" "ttl" (requestedTtl s) .uint32 ∧
      ∃ o, s.ifChanged "priority" (requestedPriority s) = .ok o ∧
        body.get? "priority" = o.join.map .uint32 := by
  obtain ⟨c, hc, hbody⟩ := bind_ok.mp h.changes
  obtain ⟨full, hfull, hc⟩ := bind_ok.mp hc
  obtain ⟨⟨-, hname, hdata, hpriority, httl⟩, -⟩ := ofState_ok.mp hfull
  obtain rfl := Except.ok.inj hc
  obtain rfl := Json.object.inj (Except.ok.inj hbody)
  rw [hname, hdata, httl, hpriority]
  refine ⟨⟨if s.hasChange "name" then some full.name else none, ?_, ?_⟩,
    ⟨if s.hasChange "data" then some full.data else none, ?_, ?_⟩,
    ⟨if s.hasChange "ttl" then some full.ttl else none, ?_, ?_⟩,
    if s.hasChange "priority" then some full.priority else none, ?_, ?_⟩
  · cases hchange : s.hasChange "name" <;> simp [ResourceState.ifChanged_ok, hchange]
  · simp [get?_member?, get?_member?_last]
  · cases hchange : s.hasChange "data" <;> simp [ResourceState.ifChanged_ok, hchange]
  · simp [get?_member?, get?_member?_last]
  · cases hchange : s.hasChange "ttl" <;> simp [ResourceState.ifChanged_ok, hchange]
  · simp [get?_member?, get?_member?_last]
  · cases hchange : s.hasChange "priority" <;> simp [ResourceState.ifChanged_ok, hchange]
  · cases s.hasChange "priority" <;> simp [get?_member?, get?_member?_last]

theorem planned_int {s : ResourceState} {key : String} {a : Attribute}
    (h : Planned schema.attributes s.values) (ha : Keyed.get? key schema.attributes = some a)
    (htype : a.type = .int) (hdefault : ∀ d, a.traits.default = some d → ∃ n, d = .number (.int n)) :
    Planned.Unset a (s.values.get? key) ∨ TooLarge (s.values.get? key) ∨
      ∃ n, s.int? key = some n := by
  rcases h.int writing.plain ha htype hdefault with hunset | ⟨i, hi⟩
  · exact .inl hunset
  · right
    cases hn : i.toInt64? with
    | none => exact .inl ⟨i, hi, hn⟩
    | some n => exact .inr ⟨n, ResourceState.int?_eq_some.mpr ⟨i, hi, hn⟩⟩

theorem planned_of_requestedTtl {s : ResourceState} {ttl : UInt32}
    (hplanned : Planned schema.attributes s.values) (h : requestedTtl s = .ok ttl)
    (hlarge : ¬ TooLarge (s.values.get? "ttl")) : s.values.get? "ttl" = some (.uint32 ttl) := by
  rcases planned_int hplanned (show Keyed.get? "ttl" _ = some _ from rfl) rfl
    (fun d hd => ⟨_, (Option.some.inj hd).symm⟩) with ⟨-, -, hdefault⟩ | htoo | ⟨n, hn⟩
  · cases hdefault
  · exact absurd htoo hlarge
  · rw [requestedTtl, hn, Option.getD_some] at h
    split at h
    · next p hp =>
      obtain rfl := Except.ok.inj h
      exact ResourceState.uint32_eq_some.mp (Option.bind_eq_some_iff.mpr ⟨n, hn, hp⟩)
    · cases h

theorem planned_of_requestedPriority {s : ResourceState} {priority : Option UInt32}
    (hplanned : Planned schema.attributes s.values) (h : requestedPriority s = .ok priority)
    (hlarge : ¬ TooLarge (s.values.get? "priority")) :
    (s.values.get? "priority").bind normalize = normalize (.option .uint32 priority) := by
  rcases planned_int hplanned (show Keyed.get? "priority" _ = some _ from rfl) rfl
    (fun d hd => by cases hd) with ⟨hunset, -, -⟩ | htoo | ⟨n, hn⟩
  · rw [requestedPriority, ResourceState.int?_of_unset hunset] at h
    obtain rfl := Except.ok.inj h
    rw [normalize_unset hunset]
    rfl
  · exact absurd htoo hlarge
  · rw [requestedPriority, hn] at h
    dsimp only at h
    split at h
    · next p hp =>
      obtain rfl := Except.ok.inj h
      rw [ResourceState.uint32_eq_some.mp (Option.bind_eq_some_iff.mpr ⟨n, hn, hp⟩)]
      rfl
    · cases h

theorem requestedPriority_of_tooLarge {s : ResourceState}
    (h : TooLarge (s.values.get? "priority")) : requestedPriority s = .ok none := by
  obtain ⟨n, hvalue, hn⟩ := h
  have hnone : s.int? "priority" = none := by
    cases hint : s.int? "priority" with
    | none => rfl
    | some m =>
      obtain ⟨i, hi, him⟩ := ResourceState.int?_eq_some.mp hint
      obtain rfl : n = i := by simpa using hvalue.symm.trans hi
      cases hn.symm.trans him
  rw [requestedPriority, hnone]

def nameRoute : ScalarRoute writing :=
  .text "name" name name_ne_status (fun _ _ => .head _) (fun h => (decoder_fields h).1)
    (fun h => (sends h).1)

def dataRoute : ScalarRoute writing :=
  .text "data" data (by decide) (fun _ _ => by simp [writing, entries])
    (fun h => (decoder_fields h).2.1) (fun h => (sends h).2.1)

/-- A number that is too large is read as if it were not given, so that the default is sent. -/
def ttlRoute : DirectRoute writing where
  Value := UInt32
  key := "ttl"
  member := "ttl"
  field := required "ttl" Decode.uint32
  value := ttl
  encode := .uint32
  ne_status := by decide
  recorded r _ := by simp [writing, entries]
  reads h := (decoder_fields h).2.2.1
  isLocal := local_required _ _
  requested := requestedTtl
  sendAs := .uint32
  Stuck := TooLarge
  sends h := (sends h).2.2.1
  rereads hm := required_reads Decode.uint32_exact.reads hm
  same hplanned ha hlarge := by
    rw [planned_of_requestedTtl hplanned ha hlarge]
    rfl
  stuck_differs h := h.differs _

/-- A priority that is taken away is not sent, so that it stays, and one that is too large is read as if
it were not given. -/
def priorityChannel : Channel writing where
  Value := Option UInt32
  key := "priority"
  member := "priority"
  field := optional "priority" Decode.uint32
  value := priority
  encode := .option .uint32
  ne_status := by decide
  recorded r _ := by simp [writing, entries]
  reads h := (decoder_fields h).2.2.2
  isLocal := local_defaulted _ _ _
  Stuck v w := Dropped v w ∨ TooLarge v
  unsent h hsame := by
    obtain ⟨o, ho, hmember⟩ := (sends h).2.2.2
    rcases ResourceState.ifChanged_ok.mp ho with ⟨-, rfl⟩ | ⟨hchange, -⟩
    · exact hmember
    · cases hsame.symm.trans hchange
  arrives {s body} h hchange hstuck := by
    obtain ⟨o, ho, hmember⟩ := (sends h).2.2.2
    rcases ResourceState.ifChanged_ok.mp ho with ⟨hsame, -⟩ | ⟨-, priority, hpriority, rfl⟩
    · cases hsame.symm.trans hchange
    obtain ⟨hdropped, hlarge⟩ := not_or.mp hstuck
    have hplanned := planned_of_requestedPriority h.planned hpriority hlarge
    cases priority with
    | some p =>
      refine ⟨_, some p, hmember, fun m hm => ?_, hplanned⟩
      exact optional_reads Decode.uint32_exact.reads (fun _ => rfl) hm
    | none =>
      -- No priority is planned and there was none before, so that nothing changes.
      refine absurd ⟨hplanned, fun hprior => ?_⟩ hdropped
      rw [ResourceState.hasChange_eq] at hchange
      cases hchange.symm.trans (differs_of_eq (hplanned.trans hprior.symm))
  stuck_differs {v a} h := by
    rcases h with hdropped | hlarge
    · exact hdropped.differs
    · cases a with
      | some p => exact hlarge.differs p
      | none =>
        obtain ⟨n, rfl, -⟩ := hlarge
        rfl
  stays {s body} h hstuck := by
    obtain ⟨o, ho, hmember⟩ := (sends h).2.2.2
    refine .inl (hmember.trans ?_)
    rcases ResourceState.ifChanged_ok.mp ho with ⟨-, rfl⟩ | ⟨-, priority, hpriority, rfl⟩
    · rfl
    by_cases hlarge : TooLarge (s.values.get? "priority")
    · obtain rfl := Except.ok.inj ((requestedPriority_of_tooLarge hlarge).symm.trans hpriority)
      rfl
    · obtain ⟨hnone, -⟩ := hstuck.resolve_right hlarge
      cases priority with
      | none => rfl
      | some p => cases hnone.symm.trans (planned_of_requestedPriority h.planned hpriority hlarge)

def convergence : Convergence writing where
  channels := [nameRoute.channel, dataRoute.channel, ttlRoute.channel, priorityChannel]
  updatable := rfl
  object s v h := by
    obtain ⟨c, -, hbody⟩ := bind_ok.mp h
    exact ⟨_, (Except.ok.inj hbody).symm⟩
  again s s' v h hvalues _ _ := by
    obtain ⟨c, hc, -⟩ := bind_ok.mp h
    obtain ⟨full, hfull, -⟩ := bind_ok.mp hc
    -- The whole record is checked, and it depends on the planned values alone.
    have hfull' : Draft.ofState s' = .ok full := by
      rw [← hfull]
      simp only [Draft.ofState, requestedPriority, requestedTtl, ResourceState.requiredText,
        ResourceState.text?, ResourceState.int?, ResourceState.value?, hvalues]
    exact ⟨_, bind_ok.mpr ⟨_, bind_ok.mpr ⟨full, hfull', rfl⟩, rfl⟩⟩

theorem stuck_iff (planned prior : Keyed Json) : convergence.Stuck planned prior ↔
    TooLarge (planned.get? "ttl") ∨ Dropped (planned.get? "priority") (prior.get? "priority") ∨
      TooLarge (planned.get? "priority") := by
  simp only [Convergence.Stuck, convergence, List.mem_cons, List.not_mem_nil, or_false, exists_eq_or_imp,
    exists_eq_left]
  constructor
  · rintro (hname | hdata | hnumbers)
    · exact hname.elim
    · exact hdata.elim
    · exact hnumbers
  · exact fun h => .inr (.inr h)

end DnsRecord

/-! ## Email identities -/

namespace EmailIdentity

theorem decoder_fields {m : Keyed Json} {e : EmailIdentity} (h : decoder (.object m) = .ok e) :
    (defaulted "dkim_signing_enabled" Decode.boolean false).build (ofMembers m) =
        .ok e.dkimSigningEnabled ∧
      (optional "configuration_set" Decode.text).build (ofMembers m) = .ok e.configurationSet := by
  have hbuild := build_of_decoder h
  simp only [seq_ok, map_ok] at hbuild
  obtain ⟨_, _, ⟨_, _, ⟨_, _, ⟨_, _, ⟨_, _, ⟨_, -, rfl⟩, -, rfl⟩, -, rfl⟩, hsigned, rfl⟩, -, rfl⟩,
    hset, rfl⟩ := hbuild
  exact ⟨hsigned, hset⟩

theorem sends {s : ResourceState} {body : Keyed Json} (h : lifecycle.changes s = .ok (.object body)) :
    SentIfChanged s body "dkim_signing_enabled" "dkim_signing_enabled" (.ok (requestedSigning s))
        .bool ∧
      SentIfChanged s body "configuration_set" "configuration_set"
        (.ok (s.text? "configuration_set")) (.option .string) := by
  obtain rfl := Json.object.inj (Except.ok.inj h)
  refine ⟨⟨(Changes.ofState s).dkimSigningEnabled, ?_, by simp [get?_member?, get?_member?_last]⟩,
    ⟨(Changes.ofState s).configurationSet, ?_, by simp [get?_member?, get?_member?_last]⟩⟩
  · rw [ResourceState.ifChanged_ok, Changes.ofState]
    cases s.hasChange "dkim_signing_enabled" <;> simp
  · rw [ResourceState.ifChanged_ok, Changes.ofState]
    cases s.hasChange "configuration_set" <;> simp

def signingRoute : DirectRoute writing where
  Value := Bool
  key := "dkim_signing_enabled"
  member := "dkim_signing_enabled"
  field := defaulted "dkim_signing_enabled" Decode.boolean false
  value := dkimSigningEnabled
  encode := .bool
  ne_status := by decide
  recorded e _ := by simp [writing, entries]
  reads h := (decoder_fields h).1
  isLocal := local_defaulted _ _ _
  requested s := .ok (requestedSigning s)
  sendAs := .bool
  Stuck _ := False
  sends h := (sends h.changes).1
  rereads hm := defaulted_reads Decode.boolean_exact.reads hm
  same {s a} hplanned ha _ := by
    obtain rfl := Except.ok.inj ha
    rcases hplanned.bool writing.plain (show Keyed.get? "dkim_signing_enabled" _ = some _ from rfl) rfl
      (fun d hd => ⟨true, (Option.some.inj hd).symm⟩) with ⟨-, -, hdefault⟩ | ⟨b, hb⟩
    · cases hdefault
    · rw [requestedSigning, ResourceState.bool?_eq_some.mpr hb, hb]
      rfl
  stuck_differs h := h.elim

def configurationRoute : DirectRoute writing where
  Value := Option String
  key := "configuration_set"
  member := "configuration_set"
  field := optional "configuration_set" Decode.text
  value := configurationSet
  encode := .option .string
  ne_status := by decide
  recorded e _ := by simp [writing, entries]
  reads h := (decoder_fields h).2
  isLocal := local_defaulted _ _ _
  requested s := .ok (s.text? "configuration_set")
  sendAs := .option .string
  Stuck _ := False
  sends h := (sends h.changes).2
  rereads hm := optional_reads Decode.text_exact.reads (fun _ => rfl) hm
  same {s a} hplanned ha _ := by
    obtain rfl := Except.ok.inj ha
    rcases hplanned.text writing.plain (show Keyed.get? "configuration_set" _ = some _ from rfl) rfl rfl
      with ⟨hunset, -, -⟩ | ⟨t, ht⟩
    · rw [normalize_unset hunset, ResourceState.text?_of_unset hunset]
      rfl
    · rw [ResourceState.text?_eq_some.mpr ht, ht]
      rfl
  stuck_differs h := h.elim

/-- The channels of all attributes that can be changed, on which nothing gets stuck. -/
def channels : List (Channel writing) := [signingRoute.channel, configurationRoute.channel]

theorem never_stuck : ∀ ch ∈ channels, ∀ v w, ¬ ch.Stuck v w := by
  intro ch hch v w hstuck
  simp only [channels, List.mem_cons, List.not_mem_nil, or_false] at hch
  rcases hch with rfl | rfl <;> exact hstuck.elim

def convergence : Convergence writing where
  channels := channels
  updatable := rfl
  object _ _ h := ⟨_, (Except.ok.inj h).symm⟩
  again _ _ _ _ _ _ _ := ⟨_, rfl⟩

end EmailIdentity

end CloudProvider
