import CloudProvider.Duration
import CloudProvider.Text.Ascii

/-!
# Waiting for a state

Most operations of the cloud are asynchronous: an object is usable only when its status says so. A
waiter reads the object again and again until it has one of the statuses that end the wait, or
until it is gone.

- `Waiter`: what is waited for and how long.
- `Reading`: what one look at the object shows.
- `Waiter.judge`: what a reading means for the wait.
- `Waiter.wait`: the whole wait, over any source of readings with a clock.
- `Waiter.conclude`: what a wait returns.
- `Rehearsal`: readings that are known in advance.
-/

namespace CloudProvider
set_option autoImplicit false

/-- What is waited for and how long. Without targets the object has to disappear. -/
structure Waiter where
  resource : String
  pending : List String
  targets : List String
  timeout : Duration
  delay : Duration
  pollInterval : Duration
  /-- How many readings in a row may miss an object that has to appear. They are counted in as many bits,
  so that there are never more than the largest number. -/
  notFoundChecks : UInt32

/-- What one look at the object shows. -/
inductive Reading (α : Type) where
  | found (object : α) (status : String)
  | absent
  | failed (e : ProviderError)
deriving DecidableEq

/-- What the readings so far have shown. The counter starts again from zero behind its largest value. -/
structure Progress where
  missed : UInt32
  lastState : String
deriving DecidableEq

def Progress.start : Progress := ⟨0, "<none>"⟩

/-- What a reading means: the wait is over or goes on. -/
inductive Verdict (α : Type) where
  | over (result : Except ProviderError (Option α))
  | goOn (p : Progress)

/-- Where readings come from, and the clock in nanoseconds. -/
structure Observer (σ α : Type) where
  read : σ → Reading α × σ
  now : σ → Nat
  sleep : Duration → σ → σ

namespace Waiter

variable {σ α : Type}

/-- A waiter with the usual intervals. -/
def new (resource : String) (timeout : Duration) : Waiter where
  resource := resource
  pending := []
  targets := []
  timeout := timeout
  delay := .ofMillis 0
  pollInterval := .ofSeconds 10
  notFoundChecks := 20

/-- The status is in the list, whatever the case of its letters. -/
def listed (states : List String) (status : String) : Bool :=
  states.any (Text.sameLetters · status)

/-- The object has to disappear. -/
def forRemoval (w : Waiter) : Bool := w.targets.isEmpty

/-- What is waited for, in words. -/
def expected (w : Waiter) : String :=
  if w.forRemoval then "deleted" else String.intercalate ", " w.targets

/-- The failure of a wait that has no time left. -/
def timeoutError (w : Waiter) (p : Progress) : ProviderError :=
  .timeout w.resource w.expected p.lastState

/-- What a reading means. A status among the targets ends the wait, a pending one does not, any
other is a failure; so is an object that is missed too often. -/
def judge (w : Waiter) (p : Progress) : Reading α → Verdict α
  | .found object status =>
    if listed w.targets status then .over (.ok (some object))
    else if listed w.pending status then .goOn ⟨0, status⟩
    else .over (.error (.unexpectedState w.resource status w.expected))
  | .absent =>
    if w.forRemoval then .over (.ok none)
    else if w.notFoundChecks < p.missed + 1 then
      .over (.error (.notFound s!"{w.resource} disappeared while waiting for {w.expected}"))
    else .goOn ⟨p.missed + 1, "<not found>"⟩
  | .failed e => if e.retryable then .goOn p else .over (.error e)

/-- The moment of the next reading, were the waiter to sleep now. -/
def nextPoll (w : Waiter) (now : Nat) : Nat :=
  now + w.pollInterval.nanos

/-- Reads until the wait is over, at most `budget` times. After that it still goes on. -/
def poll (w : Waiter) (o : Observer σ α) (deadline : Nat) : Nat → Progress → σ → Verdict α × σ
  | 0, p, s => (.goOn p, s)
  | budget + 1, p, s =>
    let (reading, s) := o.read s
    match w.judge p reading with
    | .over result => (.over result, s)
    | .goOn p =>
      if deadline < w.nextPoll (o.now s) then (.over (.error (w.timeoutError p)), s)
      else w.poll o deadline budget p (o.sleep w.pollInterval s)

/-- As many readings as a clock that moves leaves room for, with `more` beyond them. -/
def budget (w : Waiter) (more : Nat) : Nat :=
  w.timeout.nanos / max w.pollInterval.nanos 1 + w.notFoundChecks.toNat + more + 3

/-- The moment by which every reading but the first has to start. -/
def deadline (w : Waiter) (o : Observer σ α) (s : σ) : Nat :=
  o.now s + w.timeout.nanos

/-- The state in which the first reading is taken. -/
def delayed (w : Waiter) (o : Observer σ α) (s : σ) : σ :=
  if w.delay.nanos = 0 then s else o.sleep w.delay s

/-- The whole wait. On a clock that stands still it may go on after all these readings. -/
def wait (w : Waiter) (o : Observer σ α) (more : Nat) (s : σ) : Verdict α × σ :=
  w.poll o (w.deadline o s) (w.budget more) .start (w.delayed o s)

/-- What a wait returns. One that still goes on is on a clock that stands still. As no real one does, its
time runs out. -/
def conclude (w : Waiter) : Verdict α → Except ProviderError (Option α)
  | .over result => result
  | .goOn p => .error (w.timeoutError p)

end Waiter

/-! ## Readings known in advance -/

/-- Readings that are known in advance, of which the last is repeated, with the number of readings
taken and the time passed in milliseconds. -/
structure Rehearsal (α : Type) where
  script : List (Reading α)
  taken : Nat
  clock : Nat
deriving DecidableEq

namespace Rehearsal

variable {α : Type}

def start (script : List (Reading α)) : Rehearsal α := ⟨script, 0, 0⟩

/-- The next reading, which counts as found under its own number. -/
def next (r : Rehearsal α) : Reading Nat × Rehearsal α :=
  let reading :=
    match r.script[Nat.min r.taken (r.script.length - 1)]? with
    | some (.found _ status) => .found r.taken status
    | some (.failed e) => .failed e
    | some .absent | none => .absent
  (reading, { r with taken := r.taken + 1 })

/-- A rehearsal as a source of readings that take no time. -/
def observer : Observer (Rehearsal α) Nat where
  read := next
  now r := r.clock * 1000000
  sleep d r := { r with clock := r.clock + d.millisCeil }

end Rehearsal

end CloudProvider
