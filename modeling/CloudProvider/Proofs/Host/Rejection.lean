import CloudProvider.Proofs.Host.Fallback
import CloudProvider.Proofs.Resource.Rejecting

/-!
# Updates that are refused

The values of an update are checked before anything about them is sent, but not all at once for a firewall
group: its description goes out before its rules are checked.

* `ResourceType.update_rejected`: what an update has sent when it is refused.
* `Server.rejected_update_sends`: what the server sends for it.
-/

namespace CloudProvider
set_option autoImplicit false

/-- An update that is refused has sent nothing, or the new description of a firewall group. -/
theorem ResourceType.update_rejected {t : ResourceType} {conn : Connection} {s : ResourceState}
    {w : World} {work : Work} {text : String}
    (h : t.resource.update conn ⟨s, w⟩ = (.error (.invalidConfig text), work)) :
    ∃ sent, Traffic w sent work.world ∧ (∀ e ∈ sent, FirewallGroup.Describes conn s e) ∧
      (sent ≠ [] ↔ t = firewallGroup ∧ s.hasChange "description" = true) := by
  cases hlife : t.lifecycle? with
  | none =>
    cases t with
    | firewallGroup =>
      obtain ⟨-, -, sent, htraffic, hdescribes, hsent⟩ := FirewallGroup.update_rejected h
      exact ⟨sent, htraffic, hdescribes, by simpa using hsent⟩
    | _ => cases hlife
  | some l =>
    rw [resource_of_lifecycle? hlife] at h
    obtain ⟨rfl, -⟩ := Lifecycle.update_rejected h
    refine ⟨[], .refl w, by simp, iff_of_false (fun hne => hne rfl) ?_⟩
    rintro ⟨rfl, -⟩
    cases hlife

/-- The words in which a configuration is refused. -/
def refusal? (result : Except ProviderError Unit) : Option String :=
  match result with
  | .error (.invalidConfig text) => some text
  | _ => none

theorem eq_of_refusal? {result : Except ProviderError Unit} {text : String}
    (h : refusal? result = some text) : result = .error (.invalidConfig text) := by
  unfold refusal? at h
  split at h
  · obtain rfl := Option.some.inj h
    rfl
  · cases h

namespace Server

variable {env : Environment} {server : Server} {conn : Connection} {t : ResourceType}

/-- An update whose values are refused sends nothing if they cannot be prepared. If the type itself
refuses them, beside reads it sends nothing either, unless it is of a firewall group with a new
description: that has been sent by then. -/
theorem rejected_update_sends (hconn : server.connection = some conn) (prior planned : Json) (w : World) :
    (∀ failure, t.resource.preparedExisting ((ResourceState.ofJson planned).withPrior prior) =
        .error failure → (server.run env (.update t prior planned) w).2.2 = w) ∧
      ∀ s text work,
        t.resource.preparedExisting ((ResourceState.ofJson planned).withPrior prior) = .ok s →
        t.resource.update conn ⟨s, w⟩ = (.error (.invalidConfig text), work) →
        ∃ sent reads, Traffic w (sent ++ reads) (server.run env (.update t prior planned) w).2.2 ∧
          (∀ e ∈ reads, e.Reads) ∧ (∀ e ∈ sent, FirewallGroup.Describes conn s e) ∧
          (sent ≠ [] ↔ t = .firewallGroup ∧ s.hasChange "description" = true) := by
  rw [run_update hconn]
  constructor
  · intro failure hs
    simp only [Resource.updated, hs]
  · intro s text work hs hrun
    obtain ⟨sent, htraffic, hdescribes, hsent⟩ := ResourceType.update_rejected hrun
    obtain ⟨reads, htraffic', hreads⟩ := t.portrait.updated_after conn hs w
    rw [hrun] at htraffic'
    exact ⟨sent, reads, htraffic.trans htraffic', hreads, hdescribes, hsent⟩

/-- The address of a rule is none, and the description is changed nevertheless. -/
theorem rejected_update_sends_description :
    let server : Server := ⟨some .usual, false⟩
    let env : Environment := ⟨[], none, fun _ => .missing⟩
    let group := "\x7b\"id\":\"g\",\"description\":\"a\",\"items\":[]\x7d"
    let w : World := ⟨⟨true, [(.answer ⟨200, group, none⟩, 0)]⟩, 0, []⟩
    let rule := Json.object [("ip_type", .string "IPV4"), ("protocol", .string "TCP"),
      ("subnet", .string "not-an-ip"), ("subnet_size", .uint8 8)]
    let prior := Json.object [("description", .string "a"), ("id", .string "g"), ("rule", .array [])]
    let planned :=
      Json.object [("description", .string "b"), ("id", .string "g"), ("rule", .array [rule])]
    ∃ sent reads, sent ≠ [] ∧
      Traffic w (sent ++ reads) (server.run env (.update .firewallGroup prior planned) w).2.2 ∧
      ∀ e ∈ sent, e.request.method = .patch := by
  intro server env group w rule prior planned
  obtain ⟨s, hs, hdescription, hrefused⟩ : ∃ s,
      ResourceType.firewallGroup.resource.preparedExisting
        ((ResourceState.ofJson planned).withPrior prior) = .ok s ∧
      s.hasChange "description" = true ∧
      (refusal? (FirewallGroup.update .usual ⟨s, w⟩).1).isSome = true :=
    ⟨_, rfl, by decide +kernel, by decide +kernel⟩
  obtain ⟨text, htext⟩ := Option.isSome_iff_exists.mp hrefused
  obtain ⟨-, hrejected⟩ := @rejected_update_sends env server .usual .firewallGroup rfl prior planned w
  obtain ⟨sent, reads, htraffic, -, hdescribes, hsent⟩ :=
    hrejected s text (FirewallGroup.update .usual ⟨s, w⟩).2 hs (Prod.ext (eq_of_refusal? htext) rfl)
  refine ⟨sent, reads, hsent.mpr ⟨rfl, hdescription⟩, htraffic, fun e he => ?_⟩
  obtain ⟨id, -, hrequest⟩ := hdescribes e he
  exact congrArg Request.method hrequest

end Server

end CloudProvider
