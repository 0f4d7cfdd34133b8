import CloudProvider.Proofs.Steps
import CloudProvider.Proofs.Wait.Outcome

/-!
# How long a wait takes

Nothing in the loop counts its rounds. What ends it is the clock, which is looked at after each
reading only, and a reading may take any time. So the first reading is bound by nothing but the
delay, and each later one has to start by the deadline.

* `Waiter.Clocked`: reading does not turn the clock back, and the pauses of the waiter are exact.
* `Waiter.le_now_before`, `Waiter.now_before_le`: when a reading starts.
* `Waiter.exists_first`: some reading is the first to end the wait.
* `Waiter.Punctual`: the times that a wait keeps.
* `Observer.timed`: any sequence of readings, each with the time that it takes.
* `Waiter.wait_punctual`: when a wait ends.
* `Step.await_punctual`: when a wait for an object of the API ends.
-/

namespace CloudProvider
set_option autoImplicit false

variable {σ α : Type}

namespace Waiter

/-- Reading does not turn the clock back, and the pauses of the waiter take the time they are to
take. -/
structure Clocked (w : Waiter) (o : Observer σ α) : Prop where
  read : ∀ s, o.now s ≤ o.now (o.read s).2
  delay : ∀ s, o.now (o.sleep w.delay s) = o.now s + w.delay.nanos
  pause : ∀ s, o.now (o.sleep w.pollInterval s) = o.now s + w.pollInterval.nanos

variable {w : Waiter} {o : Observer σ α} {s : σ}

/-! ## When readings start -/

theorem now_before_zero (hclock : w.Clocked o) :
    o.now (w.before o s 0) = o.now s + w.delay.nanos := by
  simp only [before, delayed]
  split
  · omega
  · exact hclock.delay s

theorem now_before_succ (hclock : w.Clocked o) (n : Nat) :
    o.now (w.before o s (n + 1)) = o.now (w.after o s n) + w.pollInterval.nanos :=
  hclock.pause _

theorem now_before_le_after (hclock : w.Clocked o) (n : Nat) :
    o.now (w.before o s n) ≤ o.now (w.after o s n) :=
  hclock.read _

theorem le_now_before (hclock : w.Clocked o) (n : Nat) :
    o.now s + w.delay.nanos + n * w.pollInterval.nanos ≤ o.now (w.before o s n) := by
  induction n with
  | zero => simp [now_before_zero hclock]
  | succ n ih =>
    have hread := now_before_le_after (s := s) hclock n
    rw [now_before_succ hclock, Nat.succ_mul]
    omega

theorem now_before_le (hclock : w.Clocked o) {n : Nat} (h : ∀ k < n, ¬ w.TooLate o s k)
    (hlater : 0 < n) : o.now (w.before o s n) ≤ o.now s + w.timeout.nanos := by
  obtain ⟨k, rfl⟩ : ∃ k, n = k + 1 := ⟨n - 1, by omega⟩
  have hroom : ¬ w.TooLate o s k := h k k.lt_succ_self
  simp only [TooLate, deadline, nextPoll, Nat.not_lt] at hroom
  rwa [now_before_succ hclock]

/-! ## That it ends -/

/-- Once the pauses alone fill the time, it is too late for another reading. -/
theorem tooLate_of_full (hpoll : 0 < w.pollInterval.nanos) (hclock : w.Clocked o) :
    w.TooLate o s (w.timeout.nanos / w.pollInterval.nanos) := by
  have hstart := le_now_before (s := s) hclock (w.timeout.nanos / w.pollInterval.nanos)
  have hread := now_before_le_after (s := s) hclock (w.timeout.nanos / w.pollInterval.nanos)
  have hfull := Nat.lt_mul_div_succ w.timeout.nanos hpoll
  rw [Nat.mul_comm, Nat.succ_mul] at hfull
  simp only [TooLate, deadline, nextPoll]
  omega

theorem lt_budget (hpoll : 0 < w.pollInterval.nanos) (more : Nat) :
    w.timeout.nanos / w.pollInterval.nanos < w.budget more := by
  simp only [budget, Nat.max_eq_left hpoll]
  omega

/-- Some reading is the first to end the wait, and every budget reaches that far. -/
theorem exists_first (hpoll : 0 < w.pollInterval.nanos) (hclock : w.Clocked o) :
    ∃ n, (∀ k < n, ¬ w.EndsAt o s k) ∧ w.EndsAt o s n ∧ ∀ more, n < w.budget more := by
  classical
  have hends : ∃ n, w.EndsAt o s n := ⟨_, .inr (tooLate_of_full hpoll hclock)⟩
  refine ⟨Nat.find hends, fun k hk => Nat.find_min hends hk, Nat.find_spec hends, fun more => ?_⟩
  have hle := Nat.find_min' hends (.inr (tooLate_of_full hpoll hclock))
  exact Nat.lt_of_le_of_lt hle (lt_budget hpoll more)

/-! ## When it ends -/

/-- A wait for which the reading `n`, counted from zero, was the last keeps its times. -/
structure Punctual (w : Waiter) (o : Observer σ α) (s : σ) (n : Nat) (ending : Ending α) : Prop where
  first : o.now (w.before o s 0) = o.now s + w.delay.nanos
  later : ∀ k, 0 < k → k ≤ n → o.now (w.before o s k) ≤ o.now s + w.timeout.nanos
  elapsed : o.now (w.after o s n) - o.now s ≤ max w.delay.nanos w.timeout.nanos +
    (o.now (w.after o s n) - o.now (w.before o s n))
  /-- It never gives up as long as another reading would have been in time. -/
  patient : ∀ state, ending = .timedOut state →
    o.now s + w.timeout.nanos < o.now (w.after o s n) + w.pollInterval.nanos
  count : n + 1 ≤ 1 + (w.timeout.nanos - w.delay.nanos) / w.pollInterval.nanos

theorem punctual_of_first (hpoll : 0 < w.pollInterval.nanos) (hclock : w.Clocked o) {n : Nat}
    {ending : Ending α} (hfirst : ∀ k < n, ¬ w.EndsAt o s k) (hend : w.EndsAt o s n)
    (hexplained : w.Explained (w.readings o s n) (w.reading o s n) ending) :
    w.Punctual o s n ending := by
  have hzero := now_before_zero (s := s) hclock
  have htime : ∀ k < n, ¬ w.TooLate o s k := fun k hk hlate => hfirst k hk (.inr hlate)
  have hlater : ∀ k, 0 < k → k ≤ n → o.now (w.before o s k) ≤ o.now s + w.timeout.nanos :=
    fun k hpos hle => now_before_le hclock (fun j hj => htime j (Nat.lt_of_lt_of_le hj hle)) hpos
  refine ⟨hzero, hlater, ?_, ?_, ?_⟩
  · have hread := now_before_le_after (s := s) hclock n
    have hstart : o.now (w.before o s n) ≤ o.now s + max w.delay.nanos w.timeout.nanos := by
      rcases Nat.eq_zero_or_pos n with rfl | hpos
      · omega
      · have := hlater n hpos n.le_refl
        omega
    omega
  · intro state hstate
    have hopen := ((hexplained.timedOut state).mp hstate).1
    exact hend.resolve_left hopen
  · rcases Nat.eq_zero_or_pos n with rfl | hpos
    · exact Nat.le_add_right 1 _
    · have hearliest := le_now_before (s := s) hclock n
      have hlatest := hlater n hpos n.le_refl
      have hfits : n * w.pollInterval.nanos ≤ w.timeout.nanos - w.delay.nanos := by omega
      have hle := (Nat.le_div_iff_mul_le hpoll).mpr hfits
      omega

end Waiter

/-! ## Sources with a clock -/

/-- Any sequence of readings, each with the time that it takes. The state is the number of readings
taken and the clock. -/
def Observer.timed (sequence : Nat → Reading α × Nat) : Observer (Nat × Nat) α where
  read s := ((sequence s.1).1, s.1 + 1, s.2 + (sequence s.1).2)
  now s := s.2
  sleep d s := (s.1, s.2 + d.nanos)

theorem Waiter.clocked_timed (w : Waiter) (sequence : Nat → Reading α × Nat) :
    w.Clocked (.timed sequence) where
  read _ := Nat.le_add_right _ _
  delay _ := rfl
  pause _ := rfl

theorem Duration.millisCeil_exact {d : Duration} (h : d.nanos % 1000000 = 0) :
    d.millisCeil * 1000000 = d.nanos := by
  simp only [millisCeil, millis, h, if_true]
  omega

/-- The world is such a source, as long as the pauses are whole milliseconds. -/
theorem Waiter.clocked_look (w : Waiter) {read : Call (Option α)} (status : α → String)
    (hread : ∀ world, ∃ es, Traffic world es (read world).2)
    (hdelay : w.delay.nanos % 1000000 = 0) (hpause : w.pollInterval.nanos % 1000000 = 0) :
    w.Clocked ⟨Step.look read status, World.nanos, World.sleep⟩ where
  read world := by
    obtain ⟨es, htraffic⟩ := hread world
    rw [Step.look_world]
    exact Nat.mul_le_mul_right _ htraffic.clock
  delay world := by
    simp [World.nanos, World.sleep, Nat.add_mul, Duration.millisCeil_exact hdelay]
  pause world := by
    simp [World.nanos, World.sleep, Nat.add_mul, Duration.millisCeil_exact hpause]

/-! ## The whole wait -/

/-- **When a wait ends.** If there is a pause between readings, the wait comes to an end, whatever
is read and however long that takes, and it keeps its times. -/
theorem Waiter.wait_punctual (w : Waiter) (o : Observer σ α) (s : σ) (hpoll : 0 < w.pollInterval.nanos)
    (hclock : w.Clocked o) :
    ∃ n ending, (∀ more, w.wait o more s = (.over (ending.result w), w.after o s n)) ∧
      w.Explained (w.readings o s n) (w.reading o s n) ending ∧ w.Punctual o s n ending := by
  obtain ⟨n, hfirst, hend, hbudget⟩ := exists_first (s := s) hpoll hclock
  obtain ⟨ending, hexplained, hwait⟩ := wait_of_first hfirst hend
  exact ⟨n, ending, fun more => hwait more (hbudget more), hexplained,
    punctual_of_first hpoll hclock hfirst hend hexplained⟩

/-- A wait of five seconds for something that stays busy and takes its time to say so: the fourth
reading would start at 5.9 seconds. -/
theorem Waiter.wait_punctual_busy :
    let w : Waiter := { Waiter.new "lan" (.ofSeconds 5) with
      pending := ["busy"], targets := ["up"], delay := .ofSeconds 2, pollInterval := .ofSeconds 1 }
    let o := Observer.timed fun _ => (Reading.found () "BUSY", 300000000)
    (0 < w.pollInterval.nanos ∧ w.Clocked o) ∧
      w.wait o 0 (0, 0) = (.over (.error (.timeout "lan" "up" "BUSY")), (3, 4900000000)) ∧
      ∃ n ending, (∀ more, w.wait o more (0, 0) = (.over (ending.result w), w.after o (0, 0) n)) ∧
        w.Explained (w.readings o (0, 0) n) (w.reading o (0, 0) n) ending ∧
        w.Punctual o (0, 0) n ending :=
  ⟨⟨by decide, clocked_timed _ _⟩, rfl,
    Waiter.wait_punctual _ _ (0, 0) (by decide) (clocked_timed _ _)⟩

/-- So does every wait for an object of the API, if there is a pause between two looks and all pauses are
whole milliseconds. None of these waits is cut off. -/
theorem Step.await_punctual (waiter : Waiter) {read : Call (Option α)} (status : α → String)
    (hread : ∀ world, ∃ es, Traffic world es (read world).2) (hpoll : 0 < waiter.pollInterval.nanos)
    (hdelay : waiter.delay.nanos % 1000000 = 0) (hpause : waiter.pollInterval.nanos % 1000000 = 0)
    (work : Work) :
    let o : Observer World α := ⟨look read status, World.nanos, World.sleep⟩
    ∃ n ending, await waiter read status work =
        (ending.result waiter, { work with world := waiter.after o work.world n }) ∧
      waiter.Explained (waiter.readings o work.world n) (waiter.reading o work.world n) ending ∧
      waiter.Punctual o work.world n ending := by
  intro o
  have hclock : waiter.Clocked o := waiter.clocked_look status hread hdelay hpause
  obtain ⟨n, hfirst, hend, hbudget⟩ := Waiter.exists_first (s := work.world) hpoll hclock
  obtain ⟨ending, hexplained, hwait⟩ := Waiter.wait_of_first hfirst hend
  refine ⟨n, ending, ?_, hexplained, Waiter.punctual_of_first hpoll hclock hfirst hend hexplained⟩
  rw [await, hwait _ (hbudget _)]
  rfl

end CloudProvider
