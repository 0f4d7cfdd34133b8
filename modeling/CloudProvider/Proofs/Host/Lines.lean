import CloudProvider.Proofs.Host.Received
import CloudProvider.Proofs.Host.Session

/-!
# One answer for each line

* `Service.answered`: the lines that get an answer.
* `Plugin`: a provider, whatever it does with the requests that do not stop it.
* `Plugin.Transcript`: what the answers to lines have in common.
* `Plugin.serve_transcript`: what is written for a text of requests.
* `Server.plugin`, `Server.serve_eq`: the server is such a provider.
-/

namespace CloudProvider
open Json
set_option autoImplicit false

/-! ## Lines -/

namespace Service

/-- The line is a well-formed request to stop. -/
def stops (line : String) : Bool :=
  match Query.parse line with
  | .ok q => q.method = "stop"
  | .error _ => false

/-- The lines that get an answer: those that are not blank, up to the first one that stops. -/
def answered (lines : List String) : List String :=
  let given := lines.filter (!Text.isBlankText ·)
  given.take (given.findIdx stops + 1)

/-- The well-formed requests among lines. -/
def requests (lines : List String) : List Query :=
  lines.filterMap fun line => (Query.parse line).toOption

theorem answered_blank {line : String} (h : Text.isBlankText line = true) (rest : List String) :
    answered (line :: rest) = answered rest := by
  simp [answered, h]

theorem answered_stop {line : String} (hblank : Text.isBlankText line = false)
    (hstops : stops line = true) (rest : List String) : answered (line :: rest) = [line] := by
  simp [answered, hblank, hstops, List.findIdx_cons]

theorem answered_cons {line : String} (hblank : Text.isBlankText line = false)
    (hstops : stops line = false) (rest : List String) :
    answered (line :: rest) = line :: answered rest := by
  simp [answered, hblank, hstops, List.findIdx_cons]

end Service

/-! ## Providers -/

/-- A provider: what it does with the method and the parameters of a request that does not stop it,
which gives the members of a result or a text about what went wrong. -/
structure Plugin (σ : Type) where
  name : String
  perform : String → Json → σ → Except String (Keyed Json) × σ

/-- The state of a provider, and whether the host has stopped it. -/
structure Session (σ : Type) where
  state : σ
  stopped : Bool

namespace Plugin

variable {σ : Type} (p : Plugin σ)

def handle (q : Query) (s : Session σ) : Answer × Session σ :=
  if q.method = "stop" then (⟨q.id, .ok (.object [])⟩, { s with stopped := true })
  else
    let (result, state) := p.perform q.method q.params s.state
    (⟨q.id, result.map .object⟩, { s with state := state })

def service : Service (Session σ) where
  name := p.name
  handle := p.handle
  stopped := (·.stopped)

/-- The session after requests one after another. -/
def after (qs : List Query) (s : Session σ) : Session σ :=
  qs.foldl (fun s q => (p.handle q s).2) s

variable {p} {line : String} {s : Session σ}

theorem id_handle (q : Query) (s : Session σ) : (p.handle q s).1.id = q.id := by
  rw [handle]
  split <;> rfl

theorem handle_ne_null (q : Query) (s : Session σ) :
    ∀ v, (p.handle q s).1.outcome = .ok v → v ≠ .null := by
  rw [handle]
  split
  · rintro v ⟨⟩ ⟨⟩
  · intro v hv
    cases hresult : (p.perform q.method q.params s.state).1 with
    | error text =>
      simp only [hresult] at hv
      cases hv
    | ok members =>
      simp only [hresult] at hv
      obtain rfl := Except.ok.inj hv
      rintro ⟨⟩

theorem stopped_handle (q : Query) (hs : s.stopped = false) :
    (p.handle q s).2.stopped = decide (q.method = "stop") := by
  rw [handle]
  split
  · next hstop => simp [hstop]
  · next hstop => simp [hstop, hs]

/-- A line leads to the session after the request on it, if there is one, and stops it if it says so. -/
theorem answer_session (line : String) (hs : s.stopped = false) :
    (p.service.answer line s).2 = p.after (Service.requests [line]) s ∧
      (p.service.answer line s).2.stopped = Service.stops line := by
  rw [Service.answer, Service.requests, Service.stops]
  cases hparse : Query.parse line with
  | error fault => exact ⟨by simp [after, Except.toOption, hparse], hs⟩
  | ok q => exact ⟨by simp [after, Except.toOption, hparse]; rfl, stopped_handle q hs⟩

theorem after_requests_cons (line : String) (rest : List String) (s : Session σ) :
    p.after (Service.requests (line :: rest)) s =
      p.after (Service.requests rest) (p.after (Service.requests [line]) s) := by
  rw [← List.singleton_append, Service.requests, List.filterMap_append, after, List.foldl_append]
  rfl

theorem answers_eq (lines : List String) (hs : s.stopped = false) :
    ∃ as, p.service.answers lines s = (as, p.after (Service.requests (Service.answered lines)) s) ∧
      as.length = (Service.answered lines).length ∧
      ∀ i line a, (Service.answered lines)[i]? = some line → as[i]? = some a →
        a = (p.service.answer line
          (p.after (Service.requests ((Service.answered lines).take i)) s)).1 := by
  induction lines generalizing s with
  | nil => exact ⟨[], rfl, rfl, by simp⟩
  | cons line rest ih =>
    rw [Service.answers]
    cases hblank : Text.isBlankText line with
    | true =>
      rw [Service.answered_blank hblank, if_pos rfl]
      exact ih hs
    | false =>
      rw [if_neg (by decide)]
      obtain ⟨hsession, hstopped⟩ := answer_session (p := p) line hs
      cases hstops : Service.stops line with
      | true =>
        rw [Service.answered_stop hblank hstops, ← hsession]
        refine ⟨[(p.service.answer line s).1], ?_, rfl, ?_⟩
        · exact if_pos (hstopped.trans hstops)
        · intro i line' a hline ha
          cases i with
          | zero =>
            obtain rfl := Option.some.inj hline
            exact (Option.some.inj ha).symm
          | succ i => cases hline
      | false =>
        rw [Service.answered_cons hblank hstops]
        obtain ⟨as, has, hlength, hall⟩ := ih (hstopped.trans hstops)
        refine ⟨(p.service.answer line s).1 :: as, ?_, congrArg (· + 1) hlength, ?_⟩
        · have hgoes : ¬ p.service.stopped (p.service.answer line s).2 = true := by
            rw [show p.service.stopped _ = _ from hstopped.trans hstops]
            decide
          dsimp only
          rw [if_neg hgoes, has, after_requests_cons, hsession]
        · intro i line' a hline ha
          cases i with
          | zero =>
            obtain rfl := Option.some.inj hline
            exact (Option.some.inj ha).symm
          | succ i =>
            rw [hall i line' a hline ha, hsession, List.take_succ_cons,
              after_requests_cons line ((Service.answered rest).take i)]

/-- The answers to lines, one after another. Only well-formed requests change the session. -/
structure Transcript (p : Plugin σ) (given : List String) (start : Session σ) (as : List Answer) :
    Prop where
  length : as.length = given.length
  handled : ∀ (i : Nat) (line : String) (q : Query) (a : Answer), given[i]? = some line →
    as[i]? = some a → Query.parse line = .ok q →
    a = (p.handle q (p.after (Service.requests (given.take i)) start)).1 ∧ a.id = q.id
  malformed : ∀ (i : Nat) (line fault : String) (a : Answer), given[i]? = some line →
    as[i]? = some a → Query.parse line = .error fault → a = ⟨0, .error (Service.malformed fault)⟩
  one_line : ∀ a ∈ as, ∀ c ∈ a.line.toList, 32 ≤ c.toNat
  result_or_error : ∀ a ∈ as, a.received.result.isSome = !a.received.error.isSome
  read_back : ∀ a ∈ as, a.Legible → Received.parse a.line = .ok a.received

/-- A provider writes its handshake, and then one answer for each line that is not blank, up to the
first request to stop. -/
theorem serve_transcript (p : Plugin σ) (input : String) (state : σ) :
    ∃ as, p.service.serve input ⟨state, false⟩ =
        (p.service.handshake :: as.map Answer.line,
          p.after (Service.requests (Service.answered (Service.lines input))) ⟨state, false⟩) ∧
      p.Transcript (Service.answered (Service.lines input)) ⟨state, false⟩ as := by
  obtain ⟨as, has, hlength, hall⟩ :=
    answers_eq (p := p) (s := ⟨state, false⟩) (Service.lines input) rfl
  refine ⟨as, by rw [Service.serve, has], hlength, ?_, ?_, fun a _ => a.le_toNat_line,
    fun a _ => a.result_or_error, ?_⟩
  · intro i line q a hline ha hq
    have hanswer := hall i line a hline ha
    rw [Service.answer, hq] at hanswer
    exact ⟨hanswer, hanswer ▸ id_handle q _⟩
  · intro i line fault a hline ha hfault
    have hanswer := hall i line a hline ha
    rw [Service.answer, hfault] at hanswer
    exact hanswer
  · intro a hmem hlegible
    refine Received.parse_line hlegible ?_
    obtain ⟨i, hi, ha⟩ := List.mem_iff_getElem.mp hmem
    have hanswer := hall i _ a (List.getElem?_eq_getElem (hlength ▸ hi))
      (List.getElem?_eq_some_iff.mpr ⟨hi, ha⟩)
    rw [Service.answer] at hanswer
    rw [hanswer]
    split
    · rintro v ⟨⟩
    · exact handle_ne_null _ _

end Plugin

/-! ## The server -/

namespace Service

variable {σ τ : Type} {v : Service σ} {u : Service τ} {f : τ → σ} {t : τ}

theorem answers_map (hstopped : ∀ t, v.stopped (f t) = u.stopped t)
    (hhandle : ∀ q t, u.stopped t = false →
      v.handle q (f t) = ((u.handle q t).1, f (u.handle q t).2))
    (given : List String) (ht : u.stopped t = false) :
    v.answers given (f t) = ((u.answers given t).1, f (u.answers given t).2) := by
  induction given generalizing t with
  | nil => rfl
  | cons line rest ih =>
    have hanswer : v.answer line (f t) = ((u.answer line t).1, f (u.answer line t).2) := by
      rw [answer, answer]
      cases Query.parse line with
      | error fault => rfl
      | ok q => exact hhandle q t ht
    rw [answers, answers]
    split
    · exact ih ht
    · rw [hanswer]
      dsimp only
      rw [hstopped]
      split
      · rfl
      · next hgoes => rw [ih (Bool.eq_false_iff.mpr hgoes)]

/-- Of two services whose states agree and who answer alike, until they are stopped, one writes what
the other does. -/
theorem serve_map (hname : v.name = u.name) (hstopped : ∀ t, v.stopped (f t) = u.stopped t)
    (hhandle : ∀ q t, u.stopped t = false →
      v.handle q (f t) = ((u.handle q t).1, f (u.handle q t).2))
    (input : String) (ht : u.stopped t = false) :
    v.serve input (f t) = ((u.serve input t).1, f (u.serve input t).2) := by
  have hhandshake : v.handshake = u.handshake :=
    congrArg (fun name : String => s!"FLEETFORM_PLUGIN|1|{name}") hname
  rw [serve, serve, answers_map hstopped hhandle (lines input) ht]
  dsimp only
  rw [hhandshake]

end Service

namespace Server

variable {env : Environment} {q : Query} {s : Server} {w : World}

theorem connected_object {α : Type} {toJson : α → Json} {work : Connection → Serving α} {v : Json}
    (hobject : ∀ a, ∃ members, toJson a = .object members)
    (h : (toJson <$> (s.connected work w).1 : Except ProviderError Json) = .ok v) :
    ∃ members, v = .object members := by
  cases hwork : (s.connected work w).1 with
  | error e =>
    rw [hwork] at h
    cases h
  | ok a =>
    rw [hwork] at h
    obtain rfl := Except.ok.inj h
    exact hobject a

theorem run_object {c : Command} {v : Json} (h : (s.run env c w).1 = .ok v) :
    ∃ members, v = .object members := by
  cases c with
  | getSchema | validateProvider | configure | validateResource | stop => exact ⟨_, (Except.ok.inj h).symm⟩
  | create | read | update | adopt => exact connected_object (fun o => ⟨_, rfl⟩) h
  | delete => exact connected_object (fun ds => ⟨_, rfl⟩) h

/-- The server as a provider: its state is the connection in force and the world outside. -/
def plugin (env : Environment) : Plugin (Option Connection × World) where
  name := Provider.name
  perform method params now :=
    let (a, s, w) := Server.handle env ⟨0, method, params⟩ ⟨now.1, false⟩ now.2
    (a.outcome.map fun v => v.asObject?.getD [], s.connection, w)

theorem outcome_handle {v : Json} (h : (s.handle env q w).1.outcome = .ok v) :
    ∃ members, v = .object members := by
  rw [handle] at h
  cases hcommand : q.command with
  | error e =>
    rw [hcommand] at h
    cases h
  | ok c =>
    rw [hcommand] at h
    dsimp only at h
    cases hrun : (s.run env c w).1 with
    | error e =>
      rw [hrun] at h
      cases h
    | ok v' =>
      rw [hrun] at h
      obtain rfl := Except.ok.inj h
      exact run_object hrun

/-- The number of a request only names its answer. -/
theorem handle_id (env : Environment) (q : Query) (s : Server) (w : World) :
    s.handle env q w = (⟨q.id, (s.handle env ⟨0, q.method, q.params⟩ w).1.outcome⟩,
      (s.handle env ⟨0, q.method, q.params⟩ w).2) := by
  have hcommand : q.command = (Query.mk 0 q.method q.params).command := rfl
  rw [handle, handle, hcommand]
  cases (Query.mk 0 q.method q.params).command <;> rfl

theorem stopped_handle (h : q.method ≠ "stop") : (s.handle env q w).2.1.stopped = s.stopped := by
  by_cases hconfigure : q.method = "configure"
  · obtain ⟨outcome, s', w', hrun, hconfiguring⟩ := handle_configure env hconfigure s w
    rw [hrun]
    cases hconfiguring <;> rfl
  · rw [handle_frame hconfigure h]

theorem handle_plugin (q : Query) (now : Session (Option Connection × World))
    (hgoes : now.stopped = false) :
    Server.handle env q ⟨now.state.1, now.stopped⟩ now.state.2 =
      (((plugin env).handle q now).1,
        ⟨((plugin env).handle q now).2.state.1, ((plugin env).handle q now).2.stopped⟩,
        ((plugin env).handle q now).2.state.2) := by
  obtain ⟨⟨conn, w⟩, stopped⟩ := now
  obtain rfl : stopped = false := hgoes
  rw [Plugin.handle]
  by_cases hstop : q.method = "stop"
  · rw [if_pos hstop, handle_stop hstop]
  · rw [if_neg hstop, handle_id, plugin]
    dsimp only
    have hgoes : (handle env ⟨0, q.method, q.params⟩ ⟨conn, false⟩ w).2.1.stopped = false :=
      stopped_handle hstop
    rcases hrun : handle env ⟨0, q.method, q.params⟩ ⟨conn, false⟩ w with
      ⟨⟨id, outcome⟩, ⟨conn', stopped'⟩, w'⟩
    rw [hrun] at hgoes
    obtain rfl : stopped' = false := hgoes
    cases outcome with
    | error text => rfl
    | ok v =>
      obtain ⟨members, rfl⟩ := outcome_handle (congrArg (fun r => r.1.outcome) hrun)
      rfl

theorem serve_eq (env : Environment) (input : String) (w : World) :
    Server.serve env input w =
      let (lines, now) := (plugin env).service.serve input ⟨(none, w), false⟩
      (lines, now.state.2) := by
  have hserve := Service.serve_map (v := service env) (u := (plugin env).service)
    (f := fun now => (⟨now.state.1, now.stopped⟩, now.state.2)) rfl (fun _ => rfl) handle_plugin input
    (t := ⟨(none, w), false⟩) rfl
  rw [Server.serve]
  exact congrArg (fun r => (r.1, r.2.2)) hserve

end Server

/-! ## What is written -/

example : (Server.serve ⟨[], none, fun _ => .missing⟩
    "x\n\n\x7b\"id\":2,\"method\":\"stop\"\x7d\nx\n" ⟨⟨false, []⟩, 0, []⟩).1 =
      ["FLEETFORM_PLUGIN|1|fleetform",
        "\x7b\"id\":0,\"error\":\"malformed request: expected value at line 1 column 1\"\x7d",
        "\x7b\"id\":2,\"result\":\x7b\x7d\x7d"] := by
  decide +kernel

end CloudProvider
