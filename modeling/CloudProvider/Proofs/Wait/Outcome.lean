import CloudProvider.Http.Error
import CloudProvider.Wait
import Mathlib.Data.Nat.Find

/-!
# How a wait ends

A wait is decided by all that was read and not by the last reading alone: how often the object was
missed in a row counts, and a wait that has no time left tells what was seen last. Here both are
said of the list of the readings, and the loop, which carries a counter and a text, is shown to
agree with them.

* `Reading.missed`, `Reading.lastState`: what a list of readings has shown.
* `Waiter.Limited`: there is a limit for how often the object may be missed.
* `Waiter.Decisive`: a reading that ends the wait, whatever the clock says.
* `Waiter.Ending`, `Waiter.Explained`: how a wait ends, and which readings make it end so.
* `Waiter.before`, `Waiter.reading`, `Waiter.after`: the readings that a source has to offer.
* `Waiter.poll_of_not_ended`: the loop reaches each reading that comes before the first one to end it.
* `Waiter.wait_outcome`: what a wait returns.
-/

namespace CloudProvider
set_option autoImplicit false

deriving instance DecidableEq for Verdict

variable {σ α : Type}

/-! ## What was seen -/

namespace Reading

def isFound : Reading α → Bool
  | found _ _ => true
  | _ => false

def isAbsent : Reading α → Bool
  | absent => true
  | _ => false

/-- What a reading says about the state of the object. A failed one says nothing. -/
def state? : Reading α → Option String
  | found _ status => some status
  | absent => some "<not found>"
  | failed _ => none

/-- How often the object was missed since it was last found. -/
def missed (readings : List (Reading α)) : Nat :=
  (readings.reverse.takeWhile (!·.isFound)).countP (·.isAbsent)

/-- The last state that was seen. -/
def lastState (readings : List (Reading α)) : String :=
  (readings.reverse.findSome? (·.state?)).getD "<none>"

variable (readings : List (Reading α))

@[simp] theorem missed_nil : missed ([] : List (Reading α)) = 0 := rfl

@[simp] theorem missed_found (object : α) (status : String) :
    missed (readings ++ [.found object status]) = 0 := by
  simp [missed, isFound]

@[simp] theorem missed_absent : missed (readings ++ [.absent]) = missed readings + 1 := by
  simp [missed, isFound, isAbsent]

@[simp] theorem missed_failed (e : ProviderError) :
    missed (readings ++ [.failed e]) = missed readings := by
  simp [missed, isFound, isAbsent]

@[simp] theorem lastState_nil : lastState ([] : List (Reading α)) = "<none>" := rfl

@[simp] theorem lastState_found (object : α) (status : String) :
    lastState (readings ++ [.found object status]) = status := by
  simp [lastState, state?]

@[simp] theorem lastState_absent : lastState (readings ++ [.absent]) = "<not found>" := by
  simp [lastState, state?]

@[simp] theorem lastState_failed (e : ProviderError) :
    lastState (readings ++ [.failed e]) = lastState readings := by
  simp [lastState, state?]

end Reading

/-- What the loop carries after some readings. -/
def Progress.after (readings : List (Reading α)) : Progress :=
  ⟨UInt32.ofNat (Reading.missed readings), Reading.lastState readings⟩

/-- That the same call may succeed later is still known where the host sees the failure. -/
theorem ApiError.toProviderError_retryable (e : ApiError) :
    e.toProviderError.retryable = e.retryable := by
  unfold toProviderError
  split
  next h =>
    -- The statuses of a refused access are none after which the same call may succeed.
    cases e <;> simp_all [isUnauthorized, status?, retryable, ProviderError.retryable]
    rcases h with rfl | rfl <;> decide
  next => split <;> rfl

namespace Waiter

/-! ## What a reading decides -/

/-- There is a limit for how often the object may be missed. The largest number is none: the counter has no
value for one more. -/
def Limited (w : Waiter) : Prop := w.notFoundChecks.toNat + 1 < UInt32.size

/-- The reading ends the wait, whatever the clock says. -/
def Decisive (w : Waiter) (earlier : List (Reading α)) : Reading α → Prop
  | .found _ status => listed w.targets status = true ∨ listed w.pending status = false
  | .absent => w.targets = [] ∨ w.Limited ∧ w.notFoundChecks.toNat < Reading.missed earlier + 1
  | .failed e => e.retryable = false

/-- How a wait ends. -/
inductive Ending (α : Type) where
  | reached (object : α)
  | gone
  | strayed (status : String)
  | lost
  | failed (e : ProviderError)
  | timedOut (lastState : String)

/-- What a wait that ends so returns. -/
def Ending.result (w : Waiter) : Ending α → Except ProviderError (Option α)
  | reached object => .ok (some object)
  | gone => .ok none
  | strayed status => .error (.unexpectedState w.resource status w.expected)
  | lost => .error (.notFound s!"{w.resource} disappeared while waiting for {w.expected}")
  | failed e => .error e
  | timedOut lastState => .error (.timeout w.resource w.expected lastState)

/-- Which readings make a wait end in which way. -/
structure Explained (w : Waiter) (earlier : List (Reading α)) (last : Reading α)
    (ending : Ending α) : Prop where
  reached : ∀ object, ending = .reached object ↔ w.targets ≠ [] ∧
    ∃ status, last = .found object status ∧ listed w.targets status = true
  gone : ending = .gone ↔ w.targets = [] ∧ last = .absent
  strayed : ∀ status, ending = .strayed status ↔ (∃ object, last = .found object status) ∧
    listed w.targets status = false ∧ listed w.pending status = false
  /-- The object was missed once more than it may be, which without a limit it never is. -/
  lost : ending = .lost ↔ w.targets ≠ [] ∧ last = .absent ∧ w.Limited ∧
    Reading.missed (earlier ++ [last]) = w.notFoundChecks.toNat + 1
  failed : ∀ e, ending = .failed e ↔ last = .failed e ∧ e.retryable = false
  timedOut : ∀ state, ending = .timedOut state ↔ ¬ w.Decisive earlier last ∧
    state = Reading.lastState (earlier ++ [last])

variable {w : Waiter} {earlier : List (Reading α)} {last : Reading α}

theorem forRemoval_iff : w.forRemoval = true ↔ w.targets = [] := by
  simp [forRemoval]

theorem ne_nil_of_listed {status : String} (h : listed w.targets status = true) :
    w.targets ≠ [] := by
  rintro hnil
  simp [listed, hnil] at h

/-! ## The counter -/

theorem counter_succ (n : Nat) : UInt32.ofNat n + 1 = UInt32.ofNat (n + 1) :=
  (UInt32.ofNat_add n 1).symm

theorem limited_of_exceeded {n : Nat} (h : w.notFoundChecks < UInt32.ofNat n) :
    w.Limited ∧ w.notFoundChecks.toNat < n := by
  rw [UInt32.lt_iff_toNat_lt, UInt32.toNat_ofNat'] at h
  have hbound := Nat.mod_lt n (show 0 < 2 ^ 32 by decide)
  have hle := Nat.mod_le n (2 ^ 32)
  refine ⟨?_, by omega⟩
  rw [Limited, UInt32.size]
  omega

theorem exceeded_of_limited {n : Nat} (hlimited : w.Limited) (hle : n ≤ w.notFoundChecks.toNat + 1)
    (hlt : w.notFoundChecks.toNat < n) : w.notFoundChecks < UInt32.ofNat n := by
  rw [Limited, UInt32.size] at hlimited
  rw [UInt32.lt_iff_toNat_lt, UInt32.toNat_ofNat', Nat.mod_eq_of_lt (by omega)]
  exact hlt

/-! ## One reading -/

theorem judge_of_not_decisive (h : ¬ w.Decisive earlier last) :
    w.judge (.after earlier) last = .goOn (.after (earlier ++ [last])) := by
  cases last with
  | found object status =>
    simp only [Decisive, not_or, Bool.not_eq_true, Bool.not_eq_false] at h
    simp [judge, Progress.after, h]
  | absent =>
    obtain ⟨hkept, hlimit⟩ := not_or.mp h
    have hremoval : ¬ w.forRemoval = true := fun hremoval => hkept (forRemoval_iff.mp hremoval)
    have hexceeded : ¬ w.notFoundChecks < UInt32.ofNat (Reading.missed earlier + 1) :=
      fun hlt => hlimit (limited_of_exceeded hlt)
    simp only [judge, Progress.after, counter_succ, hremoval, hexceeded, if_false, Bool.false_eq_true]
    simp
  | failed e =>
    simp only [Decisive, Bool.not_eq_false] at h
    simp [judge, Progress.after, h]

theorem missed_le_of_not_decisive (h : ¬ w.Decisive earlier last) (hlimited : w.Limited)
    (hle : Reading.missed earlier ≤ w.notFoundChecks.toNat) :
    Reading.missed (earlier ++ [last]) ≤ w.notFoundChecks.toNat := by
  cases last with
  | found object status => simp
  | absent =>
    obtain ⟨-, hlimit⟩ := not_or.mp h
    rw [Reading.missed_absent]
    exact Nat.not_lt.mp fun hlt => hlimit ⟨hlimited, hlt⟩
  | failed e => simpa using hle

theorem explained_timedOut (h : ¬ w.Decisive earlier last) :
    w.Explained earlier last (.timedOut (Reading.lastState (earlier ++ [last]))) := by
  cases last with
  | found object status =>
    simp only [Decisive, not_or, Bool.not_eq_true, Bool.not_eq_false] at h
    constructor <;> simp [Decisive, h, @eq_comm String]
  | absent =>
    obtain ⟨hkept, hlimit⟩ := not_or.mp h
    have hmissed : w.Limited → Reading.missed earlier ≠ w.notFoundChecks.toNat :=
      fun hlimited heq => hlimit ⟨hlimited, heq ▸ Nat.lt_succ_self _⟩
    have hopen : ¬ w.Decisive earlier .absent := h
    constructor <;> simp [hopen, hkept, @eq_comm String]
    exact hmissed
  | failed e =>
    simp only [Decisive, Bool.not_eq_false] at h
    constructor <;> simp [Decisive, h, @eq_comm String]

/-- A reading that decides ends the wait in the way that explains it. That the object was missed
once too often means that it was missed once more than allowed. -/
theorem judge_of_decisive (h : w.Decisive earlier last)
    (hle : w.Limited → Reading.missed earlier ≤ w.notFoundChecks.toNat) :
    ∃ ending : Ending α, w.judge (.after earlier) last = .over (ending.result w) ∧
      w.Explained earlier last ending := by
  cases last with
  | found object status =>
    by_cases htarget : listed w.targets status = true
    · refine ⟨.reached object, by simp [judge, htarget, Ending.result], ?_⟩
      have hkept := ne_nil_of_listed htarget
      refine ⟨fun object' => ⟨?_, ?_⟩, ?_, ?_, ?_, ?_, ?_⟩
      · rintro ⟨⟩
        exact ⟨hkept, status, rfl, htarget⟩
      · rintro ⟨-, _, ⟨⟩, -⟩
        rfl
      all_goals simp [Decisive, htarget, hkept]
    · have hstray : listed w.pending status = false := h.resolve_left htarget
      refine ⟨.strayed status, by simp [judge, htarget, hstray, Ending.result], ?_⟩
      constructor <;> simp [Decisive, htarget, hstray, @eq_comm String]
  | absent =>
    by_cases hremoval : w.targets = []
    · refine ⟨.gone, by simp [judge, forRemoval, hremoval, Ending.result], ?_⟩
      constructor <;> simp [Decisive, hremoval]
    · obtain ⟨hlimited, hlimit⟩ := h.resolve_left hremoval
      have hmissed : Reading.missed earlier = w.notFoundChecks.toNat :=
        Nat.le_antisymm (hle hlimited) (Nat.lt_succ_iff.mp hlimit)
      have hexceeded := exceeded_of_limited hlimited (Nat.succ_le_succ (hle hlimited)) hlimit
      have hkept : ¬ w.forRemoval = true := fun h => hremoval (forRemoval_iff.mp h)
      refine ⟨.lost, ?_, ?_⟩
      · simp only [judge, Progress.after, counter_succ, hkept, hexceeded, if_true, if_false,
          Bool.false_eq_true, Ending.result]
      · constructor <;> simp [Decisive, hremoval, hlimited, hmissed]
  | failed e =>
    have hfinal : e.retryable = false := h
    refine ⟨.failed e, by simp [judge, hfinal, Ending.result], ?_⟩
    constructor <;> simp [Decisive, hfinal]

/-! ## The readings of a source -/

section Source

variable (w : Waiter) (o : Observer σ α) (s : σ)

/-- The state before a reading, if all readings before it left the wait open. -/
def before : Nat → σ
  | 0 => w.delayed o s
  | n + 1 => o.sleep w.pollInterval (o.read (before n)).2

def reading (n : Nat) : Reading α := (o.read (w.before o s n)).1

def after (n : Nat) : σ := (o.read (w.before o s n)).2

/-- The first readings. -/
def readings (n : Nat) : List (Reading α) := (List.range n).map (w.reading o s)

/-- The next reading would start after the deadline. -/
def TooLate (n : Nat) : Prop := w.deadline o s < w.nextPoll (o.now (w.after o s n))

/-- The wait does not go on after the reading. -/
def EndsAt (n : Nat) : Prop :=
  w.Decisive (w.readings o s n) (w.reading o s n) ∨ w.TooLate o s n

end Source

variable {o : Observer σ α} {s : σ}

theorem readings_succ (n : Nat) :
    w.readings o s (n + 1) = w.readings o s n ++ [w.reading o s n] := by
  simp [readings, List.range_succ]

theorem poll_step {n : Nat} (h : ¬ w.EndsAt o s n) (budget : Nat) :
    w.poll o (w.deadline o s) (budget + 1) (.after (w.readings o s n)) (w.before o s n) =
      w.poll o (w.deadline o s) budget (.after (w.readings o s (n + 1))) (w.before o s (n + 1)) := by
  obtain ⟨hopen, htime⟩ := not_or.mp h
  have hjudge := judge_of_not_decisive hopen
  rw [← readings_succ] at hjudge
  have hverdict : w.judge (.after (w.readings o s n)) (o.read (w.before o s n)).1 = _ := hjudge
  have hroom : ¬ w.deadline o s < w.nextPoll (o.now (o.read (w.before o s n)).2) := htime
  simp only [poll, hverdict, hroom, if_false]
  rfl

theorem poll_of_not_ended (budget : Nat) {n : Nat} (h : ∀ k < n, ¬ w.EndsAt o s k) :
    w.poll o (w.deadline o s) (budget + n) .start (w.before o s 0) =
      w.poll o (w.deadline o s) budget (.after (w.readings o s n)) (w.before o s n) := by
  induction n generalizing budget with
  | zero => rfl
  | succ n ih =>
    have hearlier := ih (budget + 1) (fun k hk => h k (Nat.lt_succ_of_lt hk))
    rw [poll_step (h n n.lt_succ_self), Nat.add_right_comm] at hearlier
    exact hearlier

theorem missed_le_of_not_ended (hlimited : w.Limited) {n : Nat} (h : ∀ k < n, ¬ w.EndsAt o s k) :
    Reading.missed (w.readings o s n) ≤ w.notFoundChecks.toNat := by
  induction n with
  | zero => simp [readings]
  | succ n ih =>
    rw [readings_succ]
    have hopen : ¬ w.Decisive (w.readings o s n) (w.reading o s n) :=
      fun hdecisive => h n n.lt_succ_self (.inl hdecisive)
    exact missed_le_of_not_decisive hopen hlimited (ih fun k hk => h k (Nat.lt_succ_of_lt hk))

theorem poll_of_ended {n : Nat} (hend : w.EndsAt o s n)
    (hle : w.Limited → Reading.missed (w.readings o s n) ≤ w.notFoundChecks.toNat) :
    ∃ ending : Ending α, w.Explained (w.readings o s n) (w.reading o s n) ending ∧ ∀ budget,
      w.poll o (w.deadline o s) (budget + 1) (.after (w.readings o s n)) (w.before o s n) =
        (.over (ending.result w), w.after o s n) := by
  by_cases hdecisive : w.Decisive (w.readings o s n) (w.reading o s n)
  · obtain ⟨ending, hjudge, hexplained⟩ := judge_of_decisive hdecisive hle
    have hverdict : w.judge (.after (w.readings o s n)) (o.read (w.before o s n)).1 = _ := hjudge
    refine ⟨ending, hexplained, fun budget => ?_⟩
    simp only [poll, hverdict]
    rfl
  · have hlate : w.deadline o s < w.nextPoll (o.now (o.read (w.before o s n)).2) :=
      hend.resolve_left hdecisive
    have hverdict : w.judge (.after (w.readings o s n)) (o.read (w.before o s n)).1 = _ :=
      judge_of_not_decisive hdecisive
    refine ⟨_, explained_timedOut hdecisive, fun budget => ?_⟩
    simp only [poll, hverdict, hlate, if_true]
    rfl

/-- The wait ends with the first reading to end it, with each budget that reaches that far. -/
theorem wait_of_first {n : Nat} (hfirst : ∀ k < n, ¬ w.EndsAt o s k) (hend : w.EndsAt o s n) :
    ∃ ending : Ending α, w.Explained (w.readings o s n) (w.reading o s n) ending ∧
      ∀ more, n < w.budget more → w.wait o more s = (.over (ending.result w), w.after o s n) := by
  obtain ⟨ending, hexplained, hpoll⟩ :=
    poll_of_ended hend fun hlimited => missed_le_of_not_ended hlimited hfirst
  refine ⟨ending, hexplained, fun more hbudget => ?_⟩
  obtain ⟨rest, hrest⟩ : ∃ rest, w.budget more = rest + 1 + n :=
    ⟨w.budget more - 1 - n, by omega⟩
  rw [wait, hrest, ← hpoll rest]
  exact poll_of_not_ended (rest + 1) hfirst

/-- With a budget that does not reach a reading that ends it, the wait goes on. -/
theorem wait_of_short {more : Nat} (h : ∀ k < w.budget more, ¬ w.EndsAt o s k) :
    w.wait o more s =
      (.goOn (.after (w.readings o s (w.budget more))), w.before o s (w.budget more)) := by
  have hpoll := poll_of_not_ended 0 h
  rwa [Nat.zero_add] at hpoll

theorem lt_budget_of_le {n more : Nat} (h : n ≤ more) : n < w.budget more := by
  rw [budget]
  generalize w.timeout.nanos / max w.pollInterval.nanos 1 = fitting
  omega

end Waiter

end CloudProvider
