import CloudProvider.Proofs.Host.Reading
import CloudProvider.Proofs.Resource.Paired

/-!
# Updates that fail

After an update has failed the resource is read in the state before it. What is reported is what a read
of that state would report, and what went wrong with the update.

* `ResourceType.look_alike`: a read returns the same wherever the same lies ahead.
* `Server.update_falls_back`: what an update that fails returns.
-/

namespace CloudProvider
set_option autoImplicit false

/-- A read returns the same wherever the same replies and the same time lie ahead. -/
theorem ResourceType.look_alike (t : ResourceType) (conn : Connection) (sent : Json)
    (s : ResourceState) {w w' : World} (h : w.Alike w') :
    (t.resource.look conn sent s w).1 = (t.resource.look conn sent s w').1 ∧
      (t.resource.look conn sent s w).2.Alike (t.resource.look conn sent s w').2 :=
  Resource.look_agree (t.read_alike conn) sent s h

namespace Server

variable {env : Environment} {server : Server} {conn : Connection} {t : ResourceType}

theorem run_update (hconn : server.connection = some conn) (prior planned : Json) (w : World) :
    server.run env (.update t prior planned) w =
      (Outcome.toJson <$> (t.resource.updated conn prior planned w).1, server,
        (t.resource.updated conn prior planned w).2) := by
  unfold run connected
  rw [hconn]
  rfl

variable {prior planned : Json} {before s : ResourceState} {id : String}

/-- An update that fails reports that one failure, and the state that a read of the state before it
returns where it stopped, whatever went out until then. An update that does not fail reports nothing. -/
theorem update_falls_back (hconn : server.connection = some conn)
    (hid : (ResourceState.ofJson prior).id = some id)
    (hbefore : t.resource.prepared (.ofJson prior) = .ok before)
    (hs : t.resource.preparedExisting ((ResourceState.ofJson planned).withPrior prior) = .ok s)
    (w : World) :
    ∃ o w', server.run env (.update t prior planned) w = (.ok (Outcome.toJson o), server, w') ∧
      (∀ work, t.resource.update conn ⟨s, w⟩ = (.ok (), work) →
        o = ⟨work.state.toJson?, []⟩ ∧ w' = work.world) ∧
      ∀ failure work, t.resource.update conn ⟨s, w⟩ = (.error failure, work) →
        o.diagnostics = [.ofFailure failure] ∧
          ∀ w₁, w₁.Alike work.world →
            ∃ seen w₂, server.run env (.read t prior) w₁ = (.ok (Outcome.toJson seen), server, w₂) ∧
              seen.newState = o.newState ∧ w₂.Alike w' := by
  obtain ⟨hexisting, -⟩ := Resource.preparedExisting_ok hid hbefore
  have hrefreshed (w : World) : t.resource.refreshed conn prior w =
      (.ok (t.resource.look conn prior before w).1, (t.resource.look conn prior before w).2) := by
    simp only [Resource.refreshed, hexisting]
  rw [run_update hconn]
  rcases hrun : t.resource.update conn ⟨s, w⟩ with ⟨failure | _, work⟩
  · have hupdated : t.resource.updated conn prior planned w =
        (.ok ⟨(t.resource.look conn prior before work.world).1.newState, [.ofFailure failure]⟩,
          (t.resource.look conn prior before work.world).2) := by
      simp only [Resource.updated, hs, hrun, hbefore]
    rw [hupdated]
    refine ⟨_, _, rfl, fun work' h => ?_, fun failure' work' h => ?_⟩
    · cases (Prod.mk.inj h).1
    -- The read after the failure and the read that is asked for have the same ahead of them.
    · obtain ⟨hfailure, rfl⟩ := Prod.mk.inj h
      obtain rfl := Except.error.inj hfailure
      refine ⟨rfl, fun w₁ halike => ?_⟩
      obtain ⟨hsame, hnext⟩ := t.look_alike conn prior before halike
      rw [run_read hconn, hrefreshed]
      exact ⟨_, _, rfl, by rw [hsame], hnext⟩
  · have hupdated : t.resource.updated conn prior planned w =
        (.ok ⟨work.state.toJson?, []⟩, work.world) := by
      simp only [Resource.updated, hs, hrun]
    rw [hupdated]
    refine ⟨_, _, rfl, fun work' h => ?_, fun failure work' h => ?_⟩
    · obtain rfl := (Prod.mk.inj h).2
      exact ⟨rfl, rfl⟩
    · cases (Prod.mk.inj h).1

/-- The API refuses a change and then shows the network as it is. -/
theorem update_falls_back_refused_change :
    let server : Server := ⟨some .usual, false⟩
    let env : Environment := ⟨[], none, fun _ => .missing⟩
    let lan := "\x7b\"id\":\"n\",\"name\":\"backend\",\"region\":\"eu\"," ++
      "\"ip_range\":\"10.0.0.0/24\",\"status\":\"available\"\x7d"
    let w : World :=
      ⟨⟨true, [(.answer ⟨422, "", none⟩, 1), (.answer ⟨200, lan, none⟩, 1)]⟩, 0, []⟩
    let prior := Json.object [("id", .string "n"), ("name", .string "backend")]
    let planned := Json.object [("id", .string "n"), ("name", .string "frontend")]
    ∃ o w', server.run env (.update .privateLan prior planned) w =
        (.ok (Outcome.toJson o), server, w') ∧
      ∃ failure work, o.diagnostics = [.ofFailure failure] ∧ work.log.length = 1 ∧
        ∃ seen w₂, server.run env (.read .privateLan prior) work =
            (.ok (Outcome.toJson seen), server, w₂) ∧
          seen.newState = o.newState ∧ w₂.Alike w' := by
  intro server env lan w prior planned
  have hprepared : (ResourceType.privateLan.resource.prepared (.ofJson prior)).toOption.isSome = true := by
    decide +kernel
  have hfails : (ResourceType.privateLan.resource.preparedExisting
      ((ResourceState.ofJson planned).withPrior prior)).toOption.map (fun s =>
        ((PrivateLan.lifecycle.update .usual ⟨s, w⟩).1.toOption.isNone,
          (PrivateLan.lifecycle.update .usual ⟨s, w⟩).2.world.log.length)) = some (true, 1) := by
    decide +kernel
  cases hbefore : ResourceType.privateLan.resource.prepared (.ofJson prior) with
  | error failure =>
    rw [hbefore] at hprepared
    cases hprepared
  | ok before =>
    cases hs : ResourceType.privateLan.resource.preparedExisting
        ((ResourceState.ofJson planned).withPrior prior) with
    | error failure =>
      rw [hs] at hfails
      cases hfails
    | ok s =>
      rw [hs] at hfails
      obtain ⟨herror, hone⟩ := Prod.mk.inj (Option.some.inj hfails)
      rcases hrun : PrivateLan.lifecycle.update .usual ⟨s, w⟩ with ⟨failure | _, work⟩
      · rw [hrun] at hone
        obtain ⟨o, w', hserved, -, hfailed⟩ :=
          @update_falls_back env server .usual .privateLan prior planned before s "n" rfl rfl
            hbefore hs w
        obtain ⟨hreported, hread⟩ := hfailed failure work hrun
        exact ⟨o, w', hserved, failure, work.world, hreported, hone, hread work.world ⟨rfl, rfl⟩⟩
      · rw [hrun] at herror
        cases herror

end Server

end CloudProvider
