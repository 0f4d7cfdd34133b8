import CloudProvider.Proofs.Resource.Channels.Kubernetes
import CloudProvider.Proofs.Resource.Channels.Names
import CloudProvider.Proofs.Resource.Channels.Network

/-!
# Bodies of updates

An update sends the attributes that change and nothing else, each with the value that a resource with the
same planned values would be created with. A value that is taken away is left out of the request that
creates an object, and spelled out in the one that changes it.

* `PatchField`: an attribute that can be changed, and the member under which it is sent.
* `Lifecycle.Patches`: what the body of an update has to do with the state.
* `Lifecycle.Creates`: what an attribute is created with.
* `Lifecycle.patches_of_sent`: bodies from their single members.
* `patches_of_changes`: load balancers, storages, node pools, email identities and private networks.
-/

namespace CloudProvider
open Json
set_option autoImplicit false

/-- An attribute that can be changed. -/
structure PatchField where
  key : String
  /-- The name under which the attribute is sent. -/
  member : String
  /-- The value that a resource is created with. -/
  created : ResourceState → Except ProviderError Json
  /-- What is sent for a value that is taken away. -/
  cleared : Option Json

/-- The attribute is read in its type and then written. -/
def PatchField.of {β : Type} (key member : String) (requested : ResourceState → Except ProviderError β)
    (encode : β → Json) (cleared : Option Json) : PatchField :=
  ⟨key, member, fun s => encode <$> requested s, cleared⟩

section Patches

variable {α : Type}

/-- The body has the members of the attributes that change and no other ones, with the values that the
resource is created with. What is taken away is spelled out. -/
structure Lifecycle.Patches (l : Lifecycle α) (fields : List PatchField) (s : ResourceState)
    (body : Keyed Json) : Prop where
  updatable : (fields.map (·.key)).Perm l.updatable
  /-- Each member is there once. -/
  ordered : Keyed.Ordered body
  known : ∀ key ∈ Keyed.keys body, ∃ f ∈ fields, f.member = key
  sent_iff : ∀ f ∈ fields, f.member ∈ Keyed.keys body ↔ s.hasChange f.key = true
  created : ∀ f ∈ fields, ∀ v, body.get? f.member = some v → f.created s = .ok v
  drafted : ∀ f ∈ fields, ∀ v, body.get? f.member = some v → ∀ region, ∀ draft : Keyed Json,
    l.draft region s = .ok (.object draft) → (draft.get? f.member <|> f.cleared) = some v
  spelled : ∀ f ∈ fields, ∀ v, body.get? f.member = some v → s.value? f.key = none →
    ∀ w, f.cleared = some w → v = w

/-- What an attribute is created with is a member of what is sent to create an object, or left out
there. An attribute that is unset has nothing to be created with. -/
structure Lifecycle.Creates (l : Lifecycle α) (f : PatchField) : Prop where
  drafted : ∀ {s : ResourceState} {region : Option String} {draft : Keyed Json},
    l.draft region s = .ok (.object draft) →
      ∃ v, f.created s = .ok v ∧ (draft.get? f.member <|> f.cleared) = some v
  unset : ∀ {s : ResourceState} {v w : Json}, s.value? f.key = none → f.created s = .ok v →
    f.cleared = some w → v = w

/-- What an attribute is created with is a member of a draft, or what stands for a member left out. -/
def DraftedAs {β : Type} (draft : Keyed Json) (member : String) (cleared : Option Json)
    (value : Except ProviderError β) (encode : β → Json) : Prop :=
  ∃ a, value = .ok a ∧ (draft.get? member <|> cleared) = some (encode a)

/-- The value that the attribute is created with is sent if it changes. -/
def PatchField.SentIn (f : PatchField) (s : ResourceState) (body : Keyed Json) : Prop :=
  SentIfChanged s body f.key f.member (f.created s) id

variable {l : Lifecycle α} {f : PatchField} {s : ResourceState} {body : Keyed Json}

/-! ## Single members -/

theorem SentIfChanged.sentIn {β : Type} {key member : String}
    {requested : ResourceState → Except ProviderError β} {encode : β → Json}
    (h : SentIfChanged s body key member (requested s) encode) (cleared : Option Json) :
    (PatchField.of key member requested encode cleared).SentIn s body := by
  obtain ⟨o, ho, hmember⟩ := h
  exact ⟨o.map encode, ResourceState.ifChanged_map encode ho, hmember.trans (by simp)⟩

theorem Lifecycle.Creates.of {β : Type} {key member : String}
    {requested : ResourceState → Except ProviderError β} {encode : β → Json} {cleared : Option Json}
    (drafted : ∀ {s region draft}, l.draft region s = .ok (.object draft) →
      DraftedAs draft member cleared (requested s) encode)
    (unset : ∀ {s a w}, s.value? key = none → requested s = .ok a → cleared = some w → encode a = w) :
    l.Creates (.of key member requested encode cleared) where
  drafted h := by
    obtain ⟨a, ha, hmember⟩ := drafted h
    exact ⟨encode a, congrArg (encode <$> ·) ha, hmember⟩
  unset hunset hcreated hcleared := by
    obtain ⟨a, ha, rfl⟩ := mapped_ok.mp hcreated
    exact unset hunset ha hcleared

namespace PatchField

theorem SentIn.mem_iff (h : f.SentIn s body) :
    f.member ∈ Keyed.keys body ↔ s.hasChange f.key = true := by
  obtain ⟨o, ho, hmember⟩ := h
  rw [← Keyed.contains_iff, Keyed.contains, hmember]
  rcases ResourceState.ifChanged_ok.mp ho with ⟨hsame, rfl⟩ | ⟨hchange, v, -, rfl⟩
  · simp [hsame]
  · simp [hchange]

theorem SentIn.created (h : f.SentIn s body) {v : Json} (hv : body.get? f.member = some v) :
    f.created s = .ok v := by
  obtain ⟨o, ho, hmember⟩ := h
  rw [hmember, Option.map_id, id] at hv
  rcases ResourceState.ifChanged_ok.mp ho with ⟨-, rfl⟩ | ⟨-, w, hw, rfl⟩
  · cases hv
  · exact Option.some.inj hv ▸ hw

end PatchField

/-! ## Bodies from their members -/

/-- The body of an update from its single members. -/
theorem Lifecycle.patches_of_sent {fields : List PatchField} (hcreates : ∀ f ∈ fields, l.Creates f)
    (hupdatable : (fields.map (·.key)).Perm l.updatable)
    (hordered : (fields.map (·.member)).Pairwise (· < ·))
    (hkeys : (Keyed.keys body).Sublist (fields.map (·.member)))
    (hsent : ∀ f ∈ fields, f.SentIn s body) : l.Patches fields s body where
  updatable := hupdatable
  ordered := hordered.sublist hkeys
  known key hkey := List.mem_map.mp (hkeys.subset hkey)
  sent_iff f hf := (hsent f hf).mem_iff
  created f hf v := (hsent f hf).created
  drafted f hf v hv region draft hdraft := by
    obtain ⟨w, hw, hmember⟩ := (hcreates f hf).drafted hdraft
    obtain rfl := Except.ok.inj (((hsent f hf).created hv).symm.trans hw)
    exact hmember
  spelled f hf v hv hunset w := (hcreates f hf).unset hunset ((hsent f hf).created hv)

theorem Lifecycle.Patches.of_object {fields : List PatchField}
    (h : ∃ members, Json.object body = .object members ∧ l.Patches fields s members) :
    l.Patches fields s body := by
  obtain ⟨members, hmembers, hpatches⟩ := h
  exact Json.object.inj hmembers ▸ hpatches

theorem keys_member?_sublist {β : Type} (name : String) (encode : β → Json) (o : Option β) :
    (Keyed.keys (member? name encode o)).Sublist [name] := by
  cases o with
  | none => exact List.nil_sublist _
  | some v => exact List.Sublist.refl _

theorem keys_append_sublist {members rest : Keyed Json} {names more : List String}
    (h : (Keyed.keys members).Sublist names) (hrest : (Keyed.keys rest).Sublist more) :
    (Keyed.keys (members ++ rest)).Sublist (names ++ more) := by
  rw [Keyed.keys, List.map_append]
  exact h.append hrest

end Patches

/-! ## Load balancers -/

namespace LoadBalancer

/-- The attributes that can be changed, by the names of their members. -/
def patched : List PatchField :=
  [.of "forwarding_rule" "forwarding_rules" ForwardingRule.ofState rulesJson none,
    .of "health_check" "health_check" HealthCheck.ofState (.option HealthCheck.toJson) (some .null),
    .of "name" "name" (·.requiredText "name") .string none]

theorem drafts {s : ResourceState} {region : Option String} {draft : Keyed Json}
    (h : lifecycle.draft region s = .ok (.object draft)) :
    DraftedAs draft "forwarding_rules" none (ForwardingRule.ofState s) rulesJson ∧
      DraftedAs draft "health_check" (some .null) (HealthCheck.ofState s)
        (.option HealthCheck.toJson) ∧
      DraftedAs draft "name" none (s.requiredText "name") .string := by
  obtain ⟨place, -, h⟩ := bind_ok.mp h
  obtain ⟨d, hd, hbody⟩ := bind_ok.mp h
  obtain ⟨name, hname, hd⟩ := bind_ok.mp hd
  obtain ⟨rules, hrules, hd⟩ := bind_ok.mp hd
  obtain ⟨check, hcheck, hd⟩ := bind_ok.mp hd
  obtain rfl := Except.ok.inj hd
  obtain rfl := Json.object.inj (Except.ok.inj hbody)
  refine ⟨⟨rules, hrules, by simp [Keyed.get?_cons]⟩, ⟨check, hcheck, ?_⟩,
    ⟨name, hname, by simp [get?_member?, Keyed.get?_cons]⟩⟩
  cases check <;> simp [get?_member?, Keyed.get?_cons, Json.option]

theorem creates : ∀ f ∈ patched, lifecycle.Creates f := by
  simp only [patched, List.forall_mem_cons]
  refine ⟨.of (fun h => (drafts h).1) (by simp), .of (fun h => (drafts h).2.1) ?_,
    .of (fun h => (drafts h).2.2) (by simp), by simp⟩
  rintro s check w hunset hcheck ⟨⟩
  obtain ⟨⟨blocks, hblocks, rfl⟩, -⟩ := HealthCheck.ofState_ok.mp hcheck
  rw [ResourceState.decode_of_unset hunset hblocks]
  rfl

theorem keys_changes {s : ResourceState} {body : Keyed Json}
    (h : lifecycle.changes s = .ok (.object body)) :
    (Keyed.keys body).Sublist (patched.map (·.member)) := by
  obtain ⟨c, -, hbody⟩ := bind_ok.mp h
  obtain rfl := Json.object.inj (Except.ok.inj hbody)
  exact keys_append_sublist (keys_append_sublist (keys_member?_sublist ..) (keys_member?_sublist ..))
    (keys_member?_sublist ..)

theorem patches {s : ResourceState} {body : Keyed Json}
    (h : lifecycle.changes s = .ok (.object body)) : lifecycle.Patches patched s body := by
  refine Lifecycle.patches_of_sent creates (by decide) (by decide) (keys_changes h) ?_
  obtain ⟨hname, hrules, hcheck⟩ := sends h
  simp only [patched, List.forall_mem_cons]
  exact ⟨hrules.sentIn none, hcheck.sentIn (some .null), hname.sentIn none, by simp⟩

end LoadBalancer

/-! ## Storages -/

namespace NasInstance

/-- The attributes that can be changed, by the names of their members. -/
def patched : List PatchField :=
  [.of "name" "name" (·.requiredText "name") .string none,
    .of "size_gb" "size_gb" requestedSize .int64 none]

theorem drafts {s : ResourceState} {region : Option String} {draft : Keyed Json}
    (h : lifecycle.draft region s = .ok (.object draft)) :
    DraftedAs draft "name" none (s.requiredText "name") .string ∧
      DraftedAs draft "size_gb" none (requestedSize s) .int64 := by
  obtain ⟨place, -, h⟩ := bind_ok.mp h
  obtain ⟨d, hd, hbody⟩ := bind_ok.mp h
  obtain ⟨name, hname, hd⟩ := bind_ok.mp hd
  obtain ⟨size, hsize, hd⟩ := bind_ok.mp hd
  obtain ⟨lan, -, hd⟩ := bind_ok.mp hd
  obtain rfl := Except.ok.inj hd
  obtain rfl := Json.object.inj (Except.ok.inj hbody)
  exact ⟨⟨name, hname, by simp [get?_member?, Keyed.get?_cons]⟩,
    ⟨size, hsize, by simp [get?_member?, Keyed.get?_cons]⟩⟩

theorem creates : ∀ f ∈ patched, lifecycle.Creates f := by
  simp only [patched, List.forall_mem_cons]
  exact ⟨.of (fun h => (drafts h).1) (by simp), .of (fun h => (drafts h).2) (by simp), by simp⟩

theorem keys_changes {s : ResourceState} {body : Keyed Json}
    (h : lifecycle.changes s = .ok (.object body)) :
    (Keyed.keys body).Sublist (patched.map (·.member)) := by
  obtain ⟨c, -, hbody⟩ := bind_ok.mp h
  obtain rfl := Json.object.inj (Except.ok.inj hbody)
  exact keys_append_sublist (keys_member?_sublist ..) (keys_member?_sublist ..)

theorem patches {s : ResourceState} {body : Keyed Json}
    (h : lifecycle.changes s = .ok (.object body)) : lifecycle.Patches patched s body := by
  refine Lifecycle.patches_of_sent creates (by decide) (by decide) (keys_changes h) ?_
  obtain ⟨hname, hsize⟩ := sends h
  -- The capacity that is sent has been compared with the one before, but it is the planned one.
  have hrequested : SentIfChanged s body "size_gb" "size_gb" (requestedSize s) .int64 := by
    obtain ⟨o, ho, hmember⟩ := hsize
    refine ⟨o, ?_, hmember⟩
    rw [ResourceState.ifChanged_ok] at ho ⊢
    exact ho.imp_right fun ⟨hchange, size, hgrown, hsome⟩ =>
      ⟨hchange, size, requestedSize_of_grownSize hgrown, hsome⟩
  simp only [patched, List.forall_mem_cons]
  exact ⟨hname.sentIn none, hrequested.sentIn none, by simp⟩

end NasInstance

/-! ## Node pools -/

namespace NodePool

/-- The attributes that can be changed, by the names of their members. -/
def patched : List PatchField :=
  [.of "autoscaling" "autoscaling" requestedAutoscaling (.option Autoscaling.toJson) (some .null),
    .of "labels" "labels" requestedLabels labelsJson (some (.object [])),
    .of "node_count" "node_count" requestedCount .uint32 none]

theorem drafts {s : ResourceState} {region : Option String} {draft : Keyed Json}
    (h : lifecycle.draft region s = .ok (.object draft)) :
    DraftedAs draft "autoscaling" (some .null) (requestedAutoscaling s)
        (.option Autoscaling.toJson) ∧
      DraftedAs draft "labels" (some (.object [])) (requestedLabels s) labelsJson ∧
      DraftedAs draft "node_count" none (requestedCount s) .uint32 := by
  obtain ⟨d, hd, hbody⟩ := bind_ok.mp h
  obtain ⟨count, hcount, hd⟩ := bind_ok.mp hd
  obtain ⟨name, -, hd⟩ := bind_ok.mp hd
  obtain ⟨size, -, hd⟩ := bind_ok.mp hd
  obtain ⟨limits, hlimits, hd⟩ := bind_ok.mp hd
  obtain ⟨labels, hlabels, hd⟩ := bind_ok.mp hd
  obtain rfl := Except.ok.inj hd
  obtain rfl := Json.object.inj (Except.ok.inj hbody)
  refine ⟨⟨limits, bind_ok.mpr ⟨count, hcount, hlimits⟩, ?_⟩, ⟨labels, hlabels, ?_⟩,
    ⟨count, hcount, ?_⟩⟩
  · cases limits <;> cases labels <;> simp [get?_member?, Keyed.get?_cons, Json.option]
  · cases labels <;> simp [get?_member?, Keyed.get?_cons, labelsJson, Keyed.mapValues]
  · cases labels <;> simp [get?_member?, Keyed.get?_cons]

theorem creates : ∀ f ∈ patched, lifecycle.Creates f := by
  simp only [patched, List.forall_mem_cons]
  refine ⟨.of (fun h => (drafts h).1) ?_, .of (fun h => (drafts h).2.1) ?_,
    .of (fun h => (drafts h).2.2) (by simp), by simp⟩
  · rintro s limits w hunset hlimits ⟨⟩
    obtain ⟨count, -, hlimits⟩ := bind_ok.mp hlimits
    obtain ⟨⟨blocks, hblocks, rfl⟩, -⟩ := Autoscaling.ofState_ok.mp hlimits
    rw [ResourceState.decode_of_unset hunset hblocks]
    rfl
  · rintro s labels w hunset hlabels ⟨⟩
    obtain ⟨o, ho, hlabels⟩ := bind_ok.mp hlabels
    obtain rfl := Except.ok.inj hlabels
    rw [ResourceState.decode_of_unset hunset ho]
    rfl

theorem keys_changes {s : ResourceState} {body : Keyed Json}
    (h : lifecycle.changes s = .ok (.object body)) :
    (Keyed.keys body).Sublist (patched.map (·.member)) := by
  obtain ⟨c, -, hbody⟩ := bind_ok.mp h
  obtain rfl := Json.object.inj (Except.ok.inj hbody)
  exact keys_append_sublist (keys_append_sublist (keys_member?_sublist ..) (keys_member?_sublist ..))
    (keys_member?_sublist ..)

theorem patches {s : ResourceState} {body : Keyed Json}
    (h : lifecycle.changes s = .ok (.object body)) : lifecycle.Patches patched s body := by
  refine Lifecycle.patches_of_sent creates (by decide) (by decide) (keys_changes h) ?_
  obtain ⟨hcount, hlimits, hlabels⟩ := sends h
  simp only [patched, List.forall_mem_cons]
  exact ⟨hlimits.sentIn (some .null), hlabels.sentIn (some (.object [])), hcount.sentIn none, by simp⟩

end NodePool

/-! ## Email identities -/

namespace EmailIdentity

/-- The attributes that can be changed, by the names of their members. -/
def patched : List PatchField :=
  [.of "configuration_set" "configuration_set" (fun s => .ok (s.text? "configuration_set"))
      (.option .string) (some .null),
    .of "dkim_signing_enabled" "dkim_signing_enabled" (fun s => .ok (requestedSigning s)) .bool none]

theorem drafts {s : ResourceState} {region : Option String} {draft : Keyed Json}
    (h : lifecycle.draft region s = .ok (.object draft)) :
    DraftedAs draft "configuration_set" (some .null) (.ok (s.text? "configuration_set"))
        (.option .string) ∧
      DraftedAs draft "dkim_signing_enabled" none (.ok (requestedSigning s)) .bool := by
  obtain ⟨d, hd, hbody⟩ := bind_ok.mp h
  obtain ⟨identity, -, hd⟩ := bind_ok.mp hd
  obtain rfl := Except.ok.inj hd
  obtain rfl := Json.object.inj (Except.ok.inj hbody)
  refine ⟨⟨_, rfl, ?_⟩, ⟨_, rfl, by simp [get?_member?, Keyed.get?_cons]⟩⟩
  cases s.text? "configuration_set" <;> simp [get?_member?, Keyed.get?_cons, Json.option]

theorem creates : ∀ f ∈ patched, lifecycle.Creates f := by
  simp only [patched, List.forall_mem_cons]
  refine ⟨.of (fun h => (drafts h).1) ?_, .of (fun h => (drafts h).2) (by simp), by simp⟩
  rintro s o w hunset ho ⟨⟩
  obtain rfl := Except.ok.inj ho
  rw [ResourceState.text?_of_unset hunset]
  rfl

theorem keys_changes {s : ResourceState} {body : Keyed Json}
    (h : lifecycle.changes s = .ok (.object body)) :
    (Keyed.keys body).Sublist (patched.map (·.member)) := by
  obtain rfl := Json.object.inj (Except.ok.inj h)
  exact keys_append_sublist (keys_member?_sublist ..) (keys_member?_sublist ..)

theorem patches {s : ResourceState} {body : Keyed Json}
    (h : lifecycle.changes s = .ok (.object body)) : lifecycle.Patches patched s body := by
  refine Lifecycle.patches_of_sent creates (by decide) (by decide) (keys_changes h) ?_
  obtain ⟨hsigning, hset⟩ := sends h
  simp only [patched, List.forall_mem_cons]
  exact ⟨hset.sentIn (some .null), hsigning.sentIn none, by simp⟩

end EmailIdentity

/-! ## Private networks -/

namespace PrivateLan

/-- The attributes that can be changed, by the names of their members. -/
def patched : List PatchField :=
  [.of "description" "description" (fun s => .ok ((s.text? "description").getD "")) .string
      (some (.string "")),
    .of "name" "name" (·.requiredText "name") .string none]

theorem drafts {s : ResourceState} {region : Option String} {draft : Keyed Json}
    (h : lifecycle.draft region s = .ok (.object draft)) :
    DraftedAs draft "description" (some (.string "")) (.ok ((s.text? "description").getD "")) .string ∧
      DraftedAs draft "name" none (s.requiredText "name") .string := by
  obtain ⟨place, -, h⟩ := bind_ok.mp h
  obtain ⟨d, hd, hbody⟩ := bind_ok.mp h
  obtain ⟨name, hname, hd⟩ := bind_ok.mp hd
  obtain ⟨range, -, hd⟩ := bind_ok.mp hd
  obtain rfl := Except.ok.inj hd
  obtain rfl := Json.object.inj (Except.ok.inj hbody)
  refine ⟨⟨_, rfl, ?_⟩, ⟨name, hname, by simp [get?_member?, Keyed.get?_cons]⟩⟩
  cases s.text? "description" <;> simp [get?_member?, Keyed.get?_cons]

theorem creates : ∀ f ∈ patched, lifecycle.Creates f := by
  simp only [patched, List.forall_mem_cons]
  refine ⟨.of (fun h => (drafts h).1) ?_, .of (fun h => (drafts h).2) (by simp), by simp⟩
  rintro s t w hunset ht ⟨⟩
  obtain rfl := Except.ok.inj ht
  rw [ResourceState.text?_of_unset hunset]
  rfl

theorem keys_changes {s : ResourceState} {body : Keyed Json}
    (h : lifecycle.changes s = .ok (.object body)) :
    (Keyed.keys body).Sublist (patched.map (·.member)) := by
  obtain rfl := Json.object.inj (Except.ok.inj h)
  exact keys_append_sublist (keys_member?_sublist ..) (keys_member?_sublist ..)

/-- A name that is no text is not sent, so that there has to be one. -/
theorem patches {s : ResourceState} {body : Keyed Json} {name : String}
    (hname : s.values.get? "name" = some (.string name))
    (h : lifecycle.changes s = .ok (.object body)) : lifecycle.Patches patched s body := by
  refine Lifecycle.patches_of_sent creates (by decide) (by decide) (keys_changes h) ?_
  simp only [patched, List.forall_mem_cons]
  exact ⟨(sends_description h).sentIn (some (.string "")), (sends_name hname h).sentIn none, by simp⟩

end PrivateLan

/-! ## All types -/

/-- What an update sends is a patch of the attributes that change. -/
theorem patches_of_changes (s : ResourceState) (v : Json) :
    (LoadBalancer.lifecycle.changes s = .ok v →
      ∃ body, v = .object body ∧ LoadBalancer.lifecycle.Patches LoadBalancer.patched s body) ∧
    (NasInstance.lifecycle.changes s = .ok v →
      ∃ body, v = .object body ∧ NasInstance.lifecycle.Patches NasInstance.patched s body) ∧
    (NodePool.lifecycle.changes s = .ok v →
      ∃ body, v = .object body ∧ NodePool.lifecycle.Patches NodePool.patched s body) ∧
    (EmailIdentity.lifecycle.changes s = .ok v →
      ∃ body, v = .object body ∧ EmailIdentity.lifecycle.Patches EmailIdentity.patched s body) ∧
    ((∃ name, s.values.get? "name" = some (.string name)) → PrivateLan.lifecycle.changes s = .ok v →
      ∃ body, v = .object body ∧ PrivateLan.lifecycle.Patches PrivateLan.patched s body) := by
  refine ⟨fun h => ?_, fun h => ?_, fun h => ?_, fun h => ?_, fun hname h => ?_⟩
  · obtain ⟨body, rfl⟩ := LoadBalancer.convergence.object s v h
    exact ⟨body, rfl, LoadBalancer.patches h⟩
  · obtain ⟨body, rfl⟩ := NasInstance.convergence.object s v h
    exact ⟨body, rfl, NasInstance.patches h⟩
  · obtain ⟨body, rfl⟩ := NodePool.convergence.object s v h
    exact ⟨body, rfl, NodePool.patches h⟩
  · obtain ⟨body, rfl⟩ := EmailIdentity.convergence.object s v h
    exact ⟨body, rfl, EmailIdentity.patches h⟩
  · obtain ⟨name, hname⟩ := hname
    obtain ⟨body, rfl⟩ := PrivateLan.convergence.object s v h
    exact ⟨body, rfl, PrivateLan.patches hname h⟩

/-- A state with values that replace others. -/
def ResourceState.replacing (prior values : Keyed Json) : ResourceState :=
  ⟨none, values, prior, .default⟩

/-- Of each type a change of a value that is given, or values that are taken away. -/
theorem patches_of_changes_cleared :
    LoadBalancer.lifecycle.Patches LoadBalancer.patched
      (.replacing [("health_check", .array [.object [("port", .int64 80)]]), ("name", .string "web")]
        [("health_check", .array []), ("name", .string "edge")])
      [("health_check", .null), ("name", .string "edge")] ∧
    NasInstance.lifecycle.Patches NasInstance.patched
      (.replacing [("name", .string "nas"), ("size_gb", .int64 100)]
        [("name", .string "nas"), ("size_gb", .int64 200)])
      [("size_gb", .int64 200)] ∧
    NodePool.lifecycle.Patches NodePool.patched
      (.replacing [("autoscaling", .array [.object [("max_nodes", .int64 5), ("min_nodes", .int64 1)]]),
          ("labels", .object [("tier", .string "web")]), ("node_count", .int64 3)]
        [("node_count", .int64 3)])
      [("autoscaling", .null), ("labels", .object [])] ∧
    EmailIdentity.lifecycle.Patches EmailIdentity.patched
      (.replacing [("configuration_set", .string "bulk"), ("dkim_signing_enabled", .bool true)]
        [("configuration_set", .null), ("dkim_signing_enabled", .bool false)])
      [("configuration_set", .null), ("dkim_signing_enabled", .bool false)] ∧
    PrivateLan.lifecycle.Patches PrivateLan.patched
      (.replacing [("description", .string "old"), ("name", .string "lan")] [("name", .string "lan")])
      [("description", .string "")] := by
  exact ⟨.of_object ((patches_of_changes _ _).1 rfl), .of_object ((patches_of_changes _ _).2.1 rfl),
    .of_object ((patches_of_changes _ _).2.2.1 rfl), .of_object ((patches_of_changes _ _).2.2.2.1 rfl),
    .of_object ((patches_of_changes _ _).2.2.2.2 ⟨_, rfl⟩ rfl)⟩

end CloudProvider
