import CloudProvider.Proofs.Http.Calls
import CloudProvider.Resource.Basic

/-!
# What steps send

* `Step.Sends P`: wherever the step starts, each exchange that it takes part in satisfies `P`.
* `Step.Keeps P`: moreover the step leaves the state of the resource as it is.
* `Step.SendsFrom P s`: each exchange satisfies `P` if the step starts in the state `s`.
* `Step.Keeps.bind`, `Step.Keeps.call`, `Step.Sends.bind`, …: how such steps are put together.
* `Waiter.poll_run`, `Step.await_run`: a wait is some exchanges and then one last look, which decides.
-/

namespace CloudProvider
open Json
set_option autoImplicit false

namespace Step

variable {α β : Type} {P : Exchange → Prop}

/-! ## Single steps -/

theorem ofState_run (f : ResourceState → Except ProviderError α) (work : Work) :
    ofState f work = (f work.state, work) := rfl

theorem change_run (f : ResourceState → ResourceState) (work : Work) :
    change f work = (.ok (), { work with state := f work.state }) := rfl

theorem call_run (c : Call α) (work : Work) :
    call c work =
      ((c work.world).1.mapError ApiError.toProviderError,
        { work with world := (c work.world).2 }) := rfl

theorem call_ok {c : Call α} {a : α} (work : Work) (h : (c work.world).1 = .ok a) :
    call c work = (.ok a, { work with world := (c work.world).2 }) := by
  rw [call_run, h]
  rfl

theorem call_error {c : Call α} {e : ApiError} (work : Work)
    (h : (c work.world).1 = .error e) :
    call c work = (.error e.toProviderError, { work with world := (c work.world).2 }) := by
  rw [call_run, h]
  rfl

/-! ## What is sent -/

/-- Wherever the step starts, each exchange that it takes part in satisfies `P`. -/
def Sends (P : Exchange → Prop) (m : Step α) : Prop :=
  ∀ work, ∃ es, Traffic work.world es (m work).2.world ∧ ∀ e ∈ es, P e

/-- Moreover the step leaves the state of the resource as it is. -/
def Keeps (P : Exchange → Prop) (m : Step α) : Prop :=
  ∀ work, ∃ es w', (m work).2 = ⟨work.state, w'⟩ ∧ Traffic work.world es w' ∧ ∀ e ∈ es, P e

namespace Keeps

theorem sends {m : Step α} (h : Keeps P m) : Sends P m := by
  intro work
  obtain ⟨es, w', hrun, htraffic, hP⟩ := h work
  rw [hrun]
  exact ⟨es, htraffic, hP⟩

theorem mono {Q : Exchange → Prop} {m : Step α} (h : Keeps P m) (hPQ : ∀ e, P e → Q e) : Keeps Q m := by
  intro work
  obtain ⟨es, w', hrun, htraffic, hP⟩ := h work
  exact ⟨es, w', hrun, htraffic, fun e he => hPQ e (hP e he)⟩

theorem pure (a : α) : Keeps P (Pure.pure a : Step α) :=
  fun work => ⟨[], work.world, rfl, .refl work.world, by simp⟩

theorem throw (e : ProviderError) : Keeps P (MonadExcept.throw e : Step α) :=
  fun work => ⟨[], work.world, rfl, .refl work.world, by simp⟩

theorem ofState (f : ResourceState → Except ProviderError α) : Keeps P (ofState f) :=
  fun work => ⟨[], work.world, rfl, .refl work.world, by simp⟩

theorem call {c : Call α} (hc : ∀ w, ∃ es, Traffic w es (c w).2 ∧ ∀ e ∈ es, P e) :
    Keeps P (call c) := by
  intro work
  obtain ⟨es, htraffic, hP⟩ := hc work.world
  exact ⟨es, _, rfl, htraffic, hP⟩

theorem bind {m : Step α} {f : α → Step β} (hm : Keeps P m) (hf : ∀ a, Keeps P (f a)) :
    Keeps P (m >>= f) := by
  intro work
  obtain ⟨es, w₁, hrun, htraffic, hP⟩ := hm work
  rw [run_bind]
  rcases hm : m work with ⟨e | a, work'⟩ <;> rw [hm] at hrun
  · exact ⟨es, w₁, hrun, htraffic, hP⟩
  · obtain rfl : work' = ⟨work.state, w₁⟩ := hrun
    obtain ⟨es', w', hrun', htraffic', hP'⟩ := hf a ⟨work.state, w₁⟩
    refine ⟨es ++ es', w', hrun', htraffic.trans htraffic', ?_⟩
    intro e he
    exact (List.mem_append.mp he).elim (hP e) (hP' e)

theorem ofState_bind {f : ResourceState → Except ProviderError α} {g : α → Step β}
    (h : ∀ s a, f s = .ok a → Keeps P (g a)) : Keeps P (Step.ofState f >>= g) := by
  intro work
  rw [run_bind, ofState_run]
  cases hf : f work.state with
  | error e => exact ⟨[], work.world, rfl, .refl _, by simp⟩
  | ok a => exact h _ a hf work

theorem forM {f : β → Step PUnit} {bs : List β} (hf : ∀ b ∈ bs, Keeps P (f b)) :
    Keeps P (bs.forM f) := by
  induction bs with
  | nil => exact pure _
  | cons b rest ih =>
    obtain ⟨hb, hrest⟩ := List.forall_mem_cons.mp hf
    exact bind hb fun _ => ih hrest

section Client

variable {c : Client} {segments : List String} {decode : Decoder α} {body : Json}

theorem get
    (hP : ∀ e : Exchange, e.request = ⟨.get, c.url segments, c.headers none, none⟩ → P e) :
    Keeps P (Step.call (c.get decode segments)) := by
  refine call fun w => ?_
  obtain ⟨es, hasked, -⟩ := c.get_asked segments w decode
  exact ⟨es, hasked.traffic, fun e he => hP e (hasked.request e he)⟩

theorem post
    (hP : ∀ e : Exchange,
      e.request = ⟨.post, c.url segments, c.headers (some body), some body⟩ → P e) :
    Keeps P (Step.call (c.post decode segments body)) := by
  refine call fun w => ?_
  obtain ⟨es, hasked, -⟩ := c.post_asked segments w decode body
  exact ⟨es, hasked.traffic, fun e he => hP e (hasked.request e he)⟩

theorem patch
    (hP : ∀ e : Exchange,
      e.request = ⟨.patch, c.url segments, c.headers (some body), some body⟩ → P e) :
    Keeps P (Step.call (c.patch decode segments body)) := by
  refine call fun w => ?_
  obtain ⟨es, hasked, -⟩ := c.patch_asked segments w decode body
  exact ⟨es, hasked.traffic, fun e he => hP e (hasked.request e he)⟩

theorem delete
    (hP : ∀ e : Exchange, e.request = ⟨.delete, c.url segments, c.headers none, none⟩ → P e) :
    Keeps P (Step.call (c.delete segments)) := by
  refine call fun w => ?_
  obtain ⟨es, hasked, -⟩ := c.delete_asked segments w
  exact ⟨es, hasked.traffic, fun e he => hP e (hasked.request e he)⟩

end Client

end Keeps

namespace Sends

theorem ofState_bind {f : ResourceState → Except ProviderError α} {g : α → Step β}
    (h : ∀ s a, f s = .ok a → Sends P (g a)) : Sends P (Step.ofState f >>= g) := by
  intro work
  rw [run_bind, ofState_run]
  cases hf : f work.state with
  | error e => exact ⟨[], .refl _, by simp⟩
  | ok a => exact h _ a hf work

theorem change (f : ResourceState → ResourceState) : Sends P (change f) :=
  fun work => ⟨[], .refl work.world, by simp⟩

theorem bind {m : Step α} {f : α → Step β} (hm : Sends P m) (hf : ∀ a, Sends P (f a)) :
    Sends P (m >>= f) := by
  intro work
  obtain ⟨es, htraffic, hP⟩ := hm work
  rw [run_bind]
  rcases hrun : m work with ⟨e | a, work'⟩
  · rw [hrun] at htraffic
    exact ⟨es, htraffic, hP⟩
  · rw [hrun] at htraffic
    obtain ⟨es', htraffic', hP'⟩ := hf a work'
    refine ⟨es ++ es', htraffic.trans htraffic', ?_⟩
    intro e he
    exact (List.mem_append.mp he).elim (hP e) (hP' e)

end Sends

/-! ## What is sent from one state -/

/-- If the step starts in the state `s`, each exchange that it takes part in satisfies `P`. -/
def SendsFrom (P : Exchange → Prop) (s : ResourceState) (m : Step α) : Prop :=
  ∀ w, ∃ es, Traffic w es (m ⟨s, w⟩).2.world ∧ ∀ e ∈ es, P e

theorem Sends.sendsFrom {m : Step α} (h : Sends P m) (s : ResourceState) : SendsFrom P s m :=
  fun w => h ⟨s, w⟩

namespace SendsFrom

variable {s : ResourceState}

theorem ofState_bind {f : ResourceState → Except ProviderError α} {g : α → Step β}
    (h : ∀ a, f s = .ok a → SendsFrom P s (g a)) : SendsFrom P s (Step.ofState f >>= g) := by
  intro w
  rw [run_bind, ofState_run]
  cases hf : f s with
  | error e => exact ⟨[], .refl w, by simp⟩
  | ok a => exact h a hf w

theorem keeps_bind {m : Step α} {f : α → Step β} (hm : Keeps P m) (hf : ∀ a, SendsFrom P s (f a)) :
    SendsFrom P s (m >>= f) := by
  intro w
  obtain ⟨es, w₁, hrun, htraffic, hP⟩ := hm ⟨s, w⟩
  rw [run_bind]
  rcases hm : m ⟨s, w⟩ with ⟨e | a, work⟩ <;> rw [hm] at hrun <;> obtain rfl : work = ⟨s, w₁⟩ := hrun
  · exact ⟨es, htraffic, hP⟩
  · obtain ⟨es', htraffic', hP'⟩ := hf a w₁
    exact ⟨es ++ es', htraffic.trans htraffic', fun e he => (List.mem_append.mp he).elim (hP e) (hP' e)⟩

end SendsFrom

end Step

/-! ## Waiting -/

theorem Waiter.judge_found {α : Type} {waiter : Waiter} {p : Progress} {reading : Reading α} {x : α}
    (h : waiter.judge p reading = .over (.ok (some x))) :
    ∃ status, reading = .found x status ∧ listed waiter.targets status = true := by
  cases reading with
  | found object status =>
    simp only [judge] at h
    split at h
    · next hlisted =>
      obtain rfl : object = x := by simpa using h
      exact ⟨status, rfl, hlisted⟩
    · split at h <;> simp at h
  | absent =>
    simp only [judge] at h
    split at h
    · simp at h
    · split at h <;> simp at h
  | failed e =>
    simp only [judge] at h
    split at h <;> simp at h

theorem Waiter.judge_gone {α : Type} {waiter : Waiter} {p : Progress} {reading : Reading α}
    (h : waiter.judge p reading = .over (.ok none)) : waiter.targets = [] := by
  cases reading with
  | found object status =>
    simp only [judge] at h
    split at h
    · simp at h
    · split at h <;> simp at h
  | absent =>
    simp only [judge] at h
    split at h
    · next hremoval => exact List.isEmpty_iff.mp hremoval
    · split at h <;> simp at h
  | failed e =>
    simp only [judge] at h
    split at h <;> simp at h

variable {α : Type} {P : Exchange → Prop} {read : Call (Option α)} (status : α → String)

theorem Step.look_world (w : World) : (look read status w).2 = (read w).2 := by
  unfold look
  split <;> simp [*]

variable {status} in
theorem Step.look_found {w : World} {x : α} {s : String}
    (h : (look read status w).1 = .found x s) :
    read w = (.ok (some x), (read w).2) ∧ s = status x := by
  unfold look at h
  split at h
  · next object w' hread =>
    obtain ⟨rfl, rfl⟩ : object = x ∧ status object = s := by simpa using h
    exact ⟨by rw [hread], rfl⟩
  · cases h
  · cases h

theorem Waiter.conclude_ok {waiter : Waiter} {v : Verdict α} {x : Option α} :
    waiter.conclude v = .ok x ↔ v = .over (.ok x) := by
  cases v <;> simp [conclude]

/-- A wait is some exchanges and then one last look, which decides. -/
theorem Waiter.poll_run (waiter : Waiter)
    (hread : ∀ w, ∃ es, Traffic w es (read w).2 ∧ ∀ e ∈ es, P e) (deadline : Nat) :
    ∀ (budget : Nat) (p : Progress) (w : World),
      let run := waiter.poll ⟨Step.look read status, World.nanos, World.sleep⟩ deadline budget p w
      ∃ es w₁ es₁, Traffic w es w₁ ∧ Traffic w₁ es₁ run.2 ∧ (∀ e ∈ es ++ es₁, P e) ∧
        (∀ x, run.1 = .over (.ok (some x)) →
          read w₁ = (.ok (some x), run.2) ∧ listed waiter.targets (status x) = true) ∧
        (run.1 = .over (.ok none) → waiter.targets = []) := by
  intro budget
  induction budget with
  | zero =>
    intro p w run
    refine ⟨[], w, [], .refl w, .refl w, by simp, ?_, ?_⟩
    · intro x hx
      cases hx
    · intro hnone
      cases hnone
  | succ budget ih =>
    intro p w run
    obtain ⟨es, htraffic, hP⟩ := hread w
    rcases hverdict : waiter.judge p (Step.look read status w).1 with result | p'
    · have hrun : run = (.over result, (read w).2) := by
        simp only [run, poll, hverdict, Step.look_world]
      rw [hrun]
      refine ⟨[], w, es, .refl w, htraffic, by simpa using hP, ?_, ?_⟩
      · rintro x ⟨⟩
        obtain ⟨s, hfound, hlisted⟩ := judge_found hverdict
        obtain ⟨hshown, rfl⟩ := Step.look_found hfound
        exact ⟨hshown, hlisted⟩
      · rintro ⟨⟩
        exact judge_gone hverdict
    · by_cases hlate : deadline < waiter.nextPoll (read w).2.nanos
      · have hrun : run = (.over (.error (waiter.timeoutError p')), (read w).2) := by
          simp only [run, poll, hverdict, Step.look_world, hlate, if_true]
        rw [hrun]
        refine ⟨[], w, es, .refl w, htraffic, by simpa using hP, ?_, ?_⟩
        · intro x hx
          cases hx
        · intro hnone
          cases hnone
      · have hrun : run = waiter.poll ⟨Step.look read status, World.nanos, World.sleep⟩ deadline
            budget p' ((read w).2.sleep waiter.pollInterval) := by
          simp only [run, poll, hverdict, Step.look_world, hlate, if_false]
        rw [hrun]
        obtain ⟨es', w₁, es₁, htraffic', hlast, hP', hresult⟩ :=
          ih p' ((read w).2.sleep waiter.pollInterval)
        refine ⟨es ++ es', w₁, es₁, ?_, hlast, ?_, hresult⟩
        · exact htraffic.trans ((Traffic.sleep _ _).trans htraffic')
        · intro e he
          rw [List.append_assoc] at he
          exact (List.mem_append.mp he).elim (hP e) (hP' e)

theorem Step.await_run (waiter : Waiter)
    (hread : ∀ w, ∃ es, Traffic w es (read w).2 ∧ ∀ e ∈ es, P e) (work : Work) :
    ∃ outcome w', await waiter read status work = (outcome, ⟨work.state, w'⟩) ∧
      ∃ es w₁ es₁, Traffic work.world es w₁ ∧ Traffic w₁ es₁ w' ∧ (∀ e ∈ es ++ es₁, P e) ∧
        (∀ x, outcome = .ok (some x) →
          read w₁ = (.ok (some x), w') ∧ Waiter.listed waiter.targets (status x) = true) ∧
        (outcome = .ok none → waiter.targets = []) := by
  obtain ⟨start, hstart, heq⟩ : ∃ start, Traffic work.world [] start ∧
      (if waiter.delay.nanos = 0 then work.world else work.world.sleep waiter.delay) = start :=
    ⟨_, .delay _ _, rfl⟩
  have hwait := waiter.poll_run status hread
    (work.world.nanos + waiter.timeout.nanos) (waiter.budget work.world.replyCount)
    .start start
  generalize hrun : waiter.poll ⟨look read status, World.nanos, World.sleep⟩
    (work.world.nanos + waiter.timeout.nanos) (waiter.budget work.world.replyCount)
    .start start = run at hwait
  obtain ⟨es, w₁, es₁, htraffic, hlast, hP, hfound, hgone⟩ := hwait
  refine ⟨waiter.conclude run.1, run.2, ?_, es, w₁, es₁, hstart.trans htraffic, hlast, hP,
    fun x hx => hfound x (Waiter.conclude_ok.mp hx), fun hnone => hgone (Waiter.conclude_ok.mp hnone)⟩
  rw [await, Waiter.wait, Waiter.deadline, Waiter.delayed, heq, hrun]

theorem Step.Keeps.await (waiter : Waiter)
    (hread : ∀ w, ∃ es, Traffic w es (read w).2 ∧ ∀ e ∈ es, P e) :
    Keeps P (await waiter read status) := by
  intro work
  obtain ⟨outcome, w', hrun, es, w₁, es₁, htraffic, hlast, hP, -⟩ :=
    Step.await_run status waiter hread work
  exact ⟨es ++ es₁, w', by rw [hrun], htraffic.trans hlast, hP⟩

end CloudProvider
