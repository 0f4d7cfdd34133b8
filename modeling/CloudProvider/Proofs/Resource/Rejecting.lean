import CloudProvider.Proofs.Json.Accepts
import CloudProvider.Proofs.Resource.Overwriting

/-!
# Which steps refuse a configuration

Only what is read off the state of a resource can be refused as a wrong configuration. What the API
answers, or a wait that fails, is reported in other words.

* `RunFailsOnly`: wherever the run starts, it fails in certain ways only.
* `Client.send_remote`, `Step.await_remote`: calls and waits do not refuse a configuration.
* `Lifecycle.update_rejected`, `FirewallGroup.update_rejected`: updates that are refused.
-/

namespace CloudProvider
open Json
set_option autoImplicit false

/-! ## Runs that fail in certain ways -/

/-- Wherever the run starts, it succeeds or fails in a way that `P` allows. -/
def RunFailsOnly {ε σ α : Type} (P : ε → Prop) (m : ExceptT ε (StateM σ) α) : Prop :=
  ∀ s, FailsOnly P (m s).1

namespace RunFailsOnly

variable {ε σ α β : Type} {P : ε → Prop} {m : ExceptT ε (StateM σ) α}

theorem pure (a : α) : RunFailsOnly P (Pure.pure a : ExceptT ε (StateM σ) α) :=
  fun _ => .of_ok rfl

theorem throw {e : ε} (h : P e) : RunFailsOnly P (MonadExcept.throw e : ExceptT ε (StateM σ) α) :=
  fun _ => .of_error rfl h

theorem bind {f : α → ExceptT ε (StateM σ) β} (hm : RunFailsOnly P m)
    (hf : ∀ a, RunFailsOnly P (f a)) : RunFailsOnly P (m >>= f) := by
  intro s
  have h := hm s
  rw [run_bind]
  revert h
  rcases m s with ⟨e | a, t⟩
  · exact fun h => .of_error rfl (h e rfl)
  · exact fun _ => hf a t

theorem map (f : α → β) (hm : RunFailsOnly P m) : RunFailsOnly P (f <$> m) := by
  intro s
  rw [run_map]
  exact (hm s).map f

theorem tryCatch {handle : ε → ExceptT ε (StateM σ) α}
    (hhandle : ∀ e s, (m s).1 = .error e → RunFailsOnly P (handle e)) :
    RunFailsOnly P (tryCatch m handle) := by
  intro s
  rw [run_tryCatch]
  rcases hrun : m s with ⟨e | a, t⟩
  · exact hhandle e s (congrArg Prod.fst hrun) t
  · exact .of_ok rfl

end RunFailsOnly

/-! ## Calls -/

/-- The failure is not about the configuration. -/
def ApiError.Remote : ApiError → Prop
  | .invalidConfig _ => False
  | _ => True

/-- The failure is not about the configuration. -/
def ProviderError.Remote : ProviderError → Prop
  | .invalidConfig _ => False
  | _ => True

theorem ProviderError.Remote.ne {e : ProviderError} (h : e.Remote) (text : String) :
    e ≠ .invalidConfig text := by
  rintro rfl
  exact h

theorem ApiError.Remote.toProviderError {e : ApiError} (h : e.Remote) : e.toProviderError.Remote := by
  unfold ApiError.toProviderError
  split
  · trivial
  · cases e with
    | invalidConfig text => exact h.elim
    | _ => trivial

theorem Response.read_remote (r : Response) (url : Url) : FailsOnly ApiError.Remote (r.read url) := by
  unfold Response.read
  split
  · exact .of_error rfl trivial
  split
  · exact .of_error rfl trivial
  split
  · exact .of_ok rfl
  split
  · exact .of_ok rfl
  · exact .of_error rfl trivial

namespace Client

theorem attempt_remote (r : Except Transport Request) (w : World) :
    FailsOnly ApiError.Remote (attempt r w).1.1 := by
  unfold attempt
  cases r with
  | error failure => exact .of_error rfl trivial
  | ok q =>
    dsimp only
    rcases w.exchange q with ⟨failure | response, w'⟩
    · exact .of_error rfl trivial
    · exact response.read_remote q.url

theorem sendFrom_remote (c : Client) (method : Method) (r : Except Transport Request) (left : Nat) :
    ∀ (done : Nat) (w : World), FailsOnly ApiError.Remote (c.sendFrom method r done left w).1 := by
  induction left with
  | zero =>
    intro done w
    have hattempt := attempt_remote r w
    unfold sendFrom
    revert hattempt
    rcases attempt r w with ⟨⟨e | v, requested⟩, w₁⟩
    · exact fun hattempt => hattempt
    · exact fun _ => .of_ok rfl
  | succ left ih =>
    intro done w
    have hattempt := attempt_remote r w
    unfold sendFrom
    revert hattempt
    rcases attempt r w with ⟨⟨e | v, requested⟩, w₁⟩
    · intro hattempt
      dsimp only
      split
      · exact hattempt
      · cases pause? c.retry requested done with
        | none => exact .of_error rfl trivial
        | some d => exact ih (done + 1) _
    · exact fun _ => .of_ok rfl

variable {α : Type} (c : Client) (segments : List String) (decode : Decoder α)

theorem send_remote (method : Method) (body : Option Json) :
    RunFailsOnly ApiError.Remote (c.send method segments body) :=
  sendFrom_remote c method _ _ 0

theorem decoded_remote (v : Json) : RunFailsOnly ApiError.Remote (decoded decode v) := by
  unfold decoded
  cases decode v with
  | ok a => exact .pure a
  | error m => exact .throw trivial

theorem get_remote : RunFailsOnly ApiError.Remote (c.get decode segments) :=
  (c.send_remote segments .get none).bind (decoded_remote decode)

theorem post_remote (body : Json) : RunFailsOnly ApiError.Remote (c.post decode segments body) :=
  (c.send_remote segments .post (some body)).bind (decoded_remote decode)

theorem patch_remote (body : Json) : RunFailsOnly ApiError.Remote (c.patch decode segments body) :=
  (c.send_remote segments .patch (some body)).bind (decoded_remote decode)

theorem getOptional_remote : RunFailsOnly ApiError.Remote (c.getOptional decode segments) := by
  refine .tryCatch fun e w he => ?_
  split
  · exact .pure none
  · exact .throw (((c.get_remote segments decode).map some) w e he)

theorem delete_remote : RunFailsOnly ApiError.Remote (c.delete segments) := by
  refine .tryCatch fun e w he => ?_
  split
  · exact .pure ()
  · exact .throw (((c.send_remote segments .delete none).bind fun _ => .pure ()) w e he)

end Client

/-! ## Steps -/

namespace Step

variable {α : Type}

theorem call_remote {c : Call α} (hc : RunFailsOnly ApiError.Remote c) :
    RunFailsOnly ProviderError.Remote (call c) := by
  intro work
  cases hresult : (c work.world).1 with
  | ok a => exact .of_ok (congrArg Prod.fst (call_ok work hresult))
  | error e =>
    exact .of_error (congrArg Prod.fst (call_error work hresult)) (hc work.world e hresult).toProviderError

theorem change_remote (f : ResourceState → ResourceState) :
    RunFailsOnly ProviderError.Remote (change f) :=
  fun _ => .of_ok rfl

theorem forM_remote {β : Type} {f : β → Step PUnit} (hf : ∀ b, RunFailsOnly ProviderError.Remote (f b))
    (bs : List β) : RunFailsOnly ProviderError.Remote (bs.forM f) := by
  induction bs with
  | nil => exact .pure _
  | cons b rest ih => exact (hf b).bind fun _ => ih

end Step

/-- A wait that is over because of a failure does not refuse the configuration. -/
theorem Waiter.judge_remote {α : Type} {waiter : Waiter} {p : Progress} {reading : Reading α}
    (hreading : ∀ e, reading = .failed e → e.Remote) {e : ProviderError}
    (h : waiter.judge p reading = .over (.error e)) : e.Remote := by
  cases reading with
  | found object status =>
    simp only [judge] at h
    split at h
    · simp at h
    · split at h
      · simp at h
      · simp only [Verdict.over.injEq, Except.error.injEq] at h
        subst h
        trivial
  | absent =>
    simp only [judge] at h
    split at h
    · simp at h
    · split at h
      · simp only [Verdict.over.injEq, Except.error.injEq] at h
        subst h
        trivial
      · simp at h
  | failed failure =>
    simp only [judge] at h
    split at h
    · simp at h
    · simp only [Verdict.over.injEq, Except.error.injEq] at h
      subst h
      exact hreading failure rfl

theorem Step.await_remote {α : Type} (waiter : Waiter) {read : Call (Option α)} (status : α → String)
    (hread : RunFailsOnly ApiError.Remote read) :
    RunFailsOnly ProviderError.Remote (await waiter read status) := by
  have hlook (w : World) (e : ProviderError) (h : (look read status w).1 = .failed e) : e.Remote := by
    have hfails := hread w
    unfold look at h
    revert h hfails
    rcases read w with ⟨failure | _ | x, w'⟩
    · intro h hfails
      obtain rfl := Reading.failed.inj h
      exact (hfails failure rfl).toProviderError
    · intro h
      cases h
    · intro h
      cases h
  have hpoll (deadline : Nat) : ∀ (budget : Nat) (p : Progress) (w : World),
      FailsOnly ProviderError.Remote
        (waiter.conclude
          (waiter.poll ⟨look read status, World.nanos, World.sleep⟩ deadline budget p w).1) := by
    intro budget
    induction budget with
    | zero => exact fun _ _ => .of_error rfl trivial
    | succ budget ih =>
      intro p w
      simp only [Waiter.poll]
      split
      · next result hverdict =>
        rintro e rfl
        exact Waiter.judge_remote (hlook w) hverdict
      · split
        · exact .of_error rfl trivial
        · exact ih _ _
  exact fun work => hpoll _ _ _ _

/-! ## Life cycles -/

namespace Lifecycle

variable {α : Type} (l : Lifecycle α) (conn : Connection) (c : Collection)

theorem fetch_remote (id : String) : RunFailsOnly ApiError.Remote (l.fetch conn c id) :=
  conn.client.getOptional_remote _ _

theorem record_remote (x : α) : RunFailsOnly ProviderError.Remote (l.record conn c x) := by
  refine (Step.change_remote _).bind fun _ => ?_
  unfold attach
  split
  · exact .pure ()
  · split
    · exact (Step.call_remote (conn.client.get_remote _ _)).bind fun _ => Step.change_remote _
    · exact .pure ()

theorem settle_remote (id : String) (pending : Phases α → List String)
    (timeout : Timeouts → Duration) (x : α) :
    RunFailsOnly ProviderError.Remote (l.settle conn c id pending timeout x) := by
  unfold settle
  split
  · exact l.record_remote conn c x
  · next p _ =>
    have hdeadline : RunFailsOnly ProviderError.Remote
        (Step.ofState fun s => .ok (timeout s.timeouts)) := fun _ => .of_ok rfl
    refine hdeadline.bind fun deadline => ?_
    refine .bind ?_ fun y => l.record_remote conn c y
    refine (Step.await_remote _ p.status (l.fetch_remote conn c id)).bind fun found => ?_
    cases found with
    | none => exact .throw trivial
    | some y => exact .pure y

variable {l conn} {s : ResourceState} {w : World} {work : Work} {text : String}

/-- An update is refused before anything is sent, by what says where the object is or by what says how
it changes. -/
theorem update_rejected (h : l.update conn ⟨s, w⟩ = (.error (.invalidConfig text), work)) :
    work = ⟨s, w⟩ ∧ (l.place.collection s = .error (.invalidConfig text) ∨
      s.hasChanges l.updatable = true ∧ l.changes s = .error (.invalidConfig text)) := by
  cases hid : s.id with
  | none =>
    simp only [update, run_bind, Step.ofState_run, ResourceState.requireId, hid] at h
    cases (Prod.mk.inj h).1
  | some id =>
    cases hcollection : l.place.collection s with
    | error failure =>
      simp only [update, run_bind, Step.ofState_run, ResourceState.requireId, hid, hcollection] at h
      obtain ⟨hfailure, rfl⟩ := Prod.mk.inj h
      obtain rfl := Except.error.inj hfailure
      exact ⟨rfl, .inl rfl⟩
    | ok c =>
      cases hchanged : s.hasChanges l.updatable with
      | false =>
        -- A read of an object whose place is known does not refuse the state.
        rw [update_unchanged hchanged, read_eq hid, hcollection] at h
        have hfetch := l.fetch_remote conn c id w
        revert hfetch h
        dsimp only
        rcases l.fetch conn c id w with ⟨e | _ | x, w'⟩
        · intro h hfetch
          obtain ⟨hfailure, -⟩ := Prod.mk.inj h
          exact absurd (Except.error.inj hfailure) ((hfetch e rfl).toProviderError.ne text)
        · intro h
          cases (Prod.mk.inj h).1
        · intro h
          exact (l.record_remote conn c x ⟨s, w'⟩ _ (congrArg Prod.fst h)).elim
      | true =>
        simp only [update, run_bind, Step.ofState_run, ResourceState.requireId, hid, hcollection,
          hchanged, if_true] at h
        cases hbody : l.changes s with
        | error failure =>
          rw [hbody] at h
          obtain ⟨hfailure, rfl⟩ := Prod.mk.inj h
          obtain rfl := Except.error.inj hfailure
          exact ⟨rfl, .inr ⟨rfl, rfl⟩⟩
        | ok body =>
          rw [hbody] at h
          have hrest := (Step.call_remote (conn.client.patch_remote (c.object id) l.decoder body)).bind
            fun x => l.settle_remote conn c id (·.updating) (·.update) x
          have hremote := hrest ⟨s, w⟩ (.invalidConfig text)
          rw [run_bind] at hremote
          exact (hremote (congrArg Prod.fst h)).elim

end Lifecycle

/-! ## Firewall groups -/

namespace FirewallGroup

variable {conn : Connection} {s : ResourceState} {w : World} {work : Work} {text : String}

theorem read_remote (conn : Connection) : RunFailsOnly ProviderError.Remote (read conn) := by
  have hid : RunFailsOnly ProviderError.Remote (Step.ofState (·.requireId)) := by
    intro work
    simp only [Step.ofState_run, ResourceState.requireId]
    split
    · exact .of_ok rfl
    · exact .of_error rfl trivial
  refine hid.bind fun id => (Step.call_remote (conn.client.getOptional_remote _ _)).bind fun found => ?_
  cases found with
  | none => exact Step.change_remote _
  | some group =>
    exact (Step.call_remote (conn.client.get_remote _ _)).bind fun _ => Step.change_remote _

theorem syncRules_rejected {group : String}
    (h : (syncRules conn group >>= fun _ => read conn) ⟨s, w⟩ = (.error (.invalidConfig text), work)) :
    work = ⟨s, w⟩ ∧ FirewallRule.desired s = .error (.invalidConfig text) := by
  cases hdesired : FirewallRule.desired s with
  | error failure =>
    simp only [syncRules, run_bind, Step.ofState_run, hdesired] at h
    obtain ⟨hfailure, rfl⟩ := Prod.mk.inj h
    obtain rfl := Except.error.inj hfailure
    exact ⟨rfl, rfl⟩
  | ok wanted =>
    have hrest : RunFailsOnly ProviderError.Remote (do
        let plan := FirewallRule.plan (← listRules conn group) wanted
        plan.delete.forM (deleteRule conn group)
        plan.create.forM (createRule conn group) : Step Unit) := by
      refine (Step.call_remote (conn.client.get_remote _ _)).bind fun found => ?_
      refine .bind (Step.forM_remote (fun _ => Step.call_remote (conn.client.delete_remote _)) _)
        fun _ => Step.forM_remote (fun _ => ?_) _
      exact (Step.call_remote (conn.client.post_remote _ _ _)).bind fun _ => .pure _
    rw [syncRules, bind_assoc, run_bind, Step.ofState_run, hdesired] at h
    exact ((hrest.bind fun _ => read_remote conn) ⟨s, w⟩ _ (congrArg Prod.fst h)).elim

/-- What is sent to change the description of a group. -/
def Describes (conn : Connection) (s : ResourceState) (e : Exchange) : Prop :=
  ∃ id, s.id = some id ∧ e.request =
    ⟨.patch, conn.client.url (groups ++ [id]), conn.client.headers (some (draft s)), some (draft s)⟩

/-- An update is refused because of the rules. If the description changes too, it has been sent by
then. -/
theorem update_rejected (h : update conn ⟨s, w⟩ = (.error (.invalidConfig text), work)) :
    FirewallRule.desired s = .error (.invalidConfig text) ∧ s.hasChange "rule" = true ∧
      ∃ es, Traffic w es work.world ∧ (∀ e ∈ es, Describes conn s e) ∧
        (es ≠ [] ↔ s.hasChange "description" = true) := by
  -- What comes after the description.
  have hrules {id : String} {w₁ : World} (h : (do
      if ← Step.ofState fun s => .ok (s.hasChange "rule") then
        syncRules conn id
      read conn : Step Unit) ⟨s, w₁⟩ = (.error (.invalidConfig text), work)) :
      work = ⟨s, w₁⟩ ∧ FirewallRule.desired s = .error (.invalidConfig text) ∧
        s.hasChange "rule" = true := by
    rw [run_bind, Step.ofState_run] at h
    cases hchanged : s.hasChange "rule" with
    | false =>
      simp only [hchanged, Bool.false_eq_true, if_false] at h
      exact (read_remote conn ⟨s, w₁⟩ _ (congrArg Prod.fst h)).elim
    | true =>
      simp only [hchanged, if_true] at h
      obtain ⟨hwork, hdesired⟩ := syncRules_rejected h
      exact ⟨hwork, hdesired, rfl⟩
  cases hid : s.id with
  | none =>
    simp only [update, run_bind, Step.ofState_run, ResourceState.requireId, hid] at h
    cases (Prod.mk.inj h).1
  | some id =>
    rw [update, run_bind, Step.ofState_run, ResourceState.requireId, hid] at h
    dsimp only at h
    rw [run_bind, Step.ofState_run] at h
    cases hdescribed : s.hasChange "description" with
    | false =>
      simp only [hdescribed, Bool.false_eq_true, if_false] at h
      obtain ⟨rfl, hdesired, hchanged⟩ := hrules h
      exact ⟨hdesired, hchanged, [], .refl w, by simp, by simp⟩
    | true =>
      simp only [hdescribed, if_true] at h
      rw [run_bind, Step.ofState_run] at h
      dsimp only at h
      rw [run_bind] at h
      obtain ⟨es, hasked, hok⟩ := conn.client.patch_asked (groups ++ [id]) w decoder (draft s)
      cases hpatch : (conn.client.patch decoder (groups ++ [id]) (draft s) w).1 with
      | error e =>
        rw [Step.call_error ⟨s, w⟩ hpatch] at h
        have hremote := (conn.client.patch_remote (groups ++ [id]) decoder (draft s) w e hpatch)
        exact absurd (Except.error.inj (Prod.mk.inj h).1) (hremote.toProviderError.ne text)
      | ok group =>
        rw [Step.call_ok ⟨s, w⟩ hpatch] at h
        obtain ⟨rfl, hdesired, hchanged⟩ := hrules h
        obtain ⟨e, he, -⟩ := (hok group).mp hpatch
        refine ⟨hdesired, hchanged, es, hasked.traffic, fun e he => ⟨id, hid, hasked.request e he⟩, ?_⟩
        exact iff_of_true (List.ne_nil_of_mem (List.mem_of_getLast? he)) rfl

end FirewallGroup

end CloudProvider
