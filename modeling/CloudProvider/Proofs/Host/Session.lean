import CloudProvider.Host.Server
import CloudProvider.Proofs.Json.Decode
import CloudProvider.Proofs.Runs
import CloudProvider.Proofs.Schema.Complaints

/-!
# Which connection is in force

The server is a machine with two fields: the connection and whether it is stopped. The connection is
the one that the latest configuration without problems has built, and a configuration that fails
changes nothing.

* `Query.command_configure`, `Query.command_stop`, `Query.command_operates`: methods and commands.
* `Configuring`, `Server.handle_configure`: the ways in which configuring ends.
* `Server.handle_frame`, `Server.handle_unconnected`: what other requests change.
* `Turn`, `Server.turns`, `Server.after`: a sequence of requests.
* `Server.configuration_in_force`: the connection after any sequence of requests.
-/

namespace CloudProvider
open Json
set_option autoImplicit false

/-! ## Methods and commands -/

namespace Command

/-- The method of the requests for a command. -/
def method : Command → String
  | .getSchema => "get_schema"
  | .validateProvider _ => "validate_provider_config"
  | .configure _ => "configure"
  | .validateResource .. => "validate_resource_config"
  | .create .. => "create"
  | .read .. => "read"
  | .update .. => "update"
  | .delete .. => "delete"
  | .adopt .. => "import"
  | .stop => "stop"

/-- The methods that operate on a resource. -/
def operations : List String :=
  ["create", "read", "update", "delete", "import"]

end Command

theorem Query.method_of_command {q : Query} {c : Command} (h : q.command = .ok c) :
    q.method = c.method := by
  unfold command at h
  split at h
  all_goals dsimp only at h
  case h_1 heq | h_10 heq =>
    obtain rfl := Except.ok.inj h
    exact heq
  case h_2 heq | h_3 heq =>
    obtain ⟨config, -, h⟩ := bind_ok.mp h
    obtain rfl := Except.ok.inj h
    exact heq
  case h_9 heq =>
    obtain ⟨p, -, h⟩ := bind_ok.mp h
    obtain ⟨id, -, h⟩ := bind_ok.mp h
    obtain ⟨t, -, h⟩ := bind_ok.mp h
    obtain rfl := Except.ok.inj h
    exact heq
  case h_11 => cases h
  all_goals
    next heq =>
      obtain ⟨p, -, h⟩ := bind_ok.mp h
      obtain ⟨t, -, h⟩ := bind_ok.mp h
      obtain rfl := Except.ok.inj h
      exact heq

theorem Query.command_configure {q : Query} (h : q.method = "configure") :
    q.command = .configure <$> q.decoded configDecoder := by
  unfold command
  rw [h]
  rfl

/-! ## Configuring -/

/-- A configuration that is accepted, and the connection that it builds in a world. -/
structure Query.Builds (env : Environment) (q : Query) (w : World) (conn : Connection)
    (w' : World) : Prop where
  method : q.method = "configure"
  built : ∃ config values, configDecoder q.params = .ok config ∧
    Provider.schema.validate config = [] ∧
    (ResourceState.ofJson config).prepare Provider.schema .default = .ok values ∧
    Provider.configure env values w = (.ok conn, w')

/-- The ways in which configuring ends: it fails at one of five points, or it installs a connection. -/
inductive Configuring (env : Environment) (q : Query) (s : Server) (w : World) :
    Except String Json → Server → World → Prop where
  | malformed (m : Mismatch) (hdecode : configDecoder q.params = .error m) :
    Configuring env q s w (.error (ProviderError.json m.message).message) s w
  | invalid (config : Json) (hdecode : configDecoder q.params = .ok config)
    (hproblems : Provider.schema.validate config ≠ []) :
    Configuring env q s w (.ok (Provider.schema.validate config).report) s w
  | unprepared (config : Json) (e : ProviderError) (hdecode : configDecoder q.params = .ok config)
    (hvalid : Provider.schema.validate config = [])
    (hprepare : (ResourceState.ofJson config).prepare Provider.schema .default = .error e) :
    Configuring env q s w (.ok (Diagnostics.report [Server.configurationFailed e])) s w
  | unresolved (config : Json) (values : ResourceState) (e : ProviderError)
    (hdecode : configDecoder q.params = .ok config)
    (hvalid : Provider.schema.validate config = [])
    (hprepare : (ResourceState.ofJson config).prepare Provider.schema .default = .ok values)
    (hsettings : Provider.connection env values = .error e)
    (hfails : Provider.configure env values w = (.error e, w)) :
    Configuring env q s w (.ok (Diagnostics.report [Server.configurationFailed e])) s w
  | refused (config : Json) (values : ResourceState) (conn : Connection) (e : ProviderError)
    (w' : World) (hdecode : configDecoder q.params = .ok config)
    (hvalid : Provider.schema.validate config = [])
    (hprepare : (ResourceState.ofJson config).prepare Provider.schema .default = .ok values)
    (hsettings : Provider.connection env values = .ok conn)
    (hcheck : Provider.checkToken conn.client w = (.error e, w'))
    (hfails : Provider.configure env values w = (.error e, w')) :
    Configuring env q s w (.ok (Diagnostics.report [Server.configurationFailed e])) s w'
  | installed (conn : Connection) (w' : World) (hbuilds : q.Builds env w conn w') :
    Configuring env q s w (.ok (Diagnostics.report [])) { s with connection := some conn } w'

theorem Provider.configure_cases (env : Environment) (values : ResourceState) (w : World) :
    (∃ e, connection env values = .error e ∧ configure env values w = (.error e, w)) ∨
      ∃ conn, connection env values = .ok conn ∧
        ((∃ w', configure env values w = (.ok conn, w')) ∨
          ∃ e w', checkToken conn.client w = (.error e, w') ∧
            configure env values w = (.error e, w')) := by
  rw [configure, run_bind, run_liftM]
  cases hconn : connection env values with
  | error e => exact .inl ⟨e, rfl, rfl⟩
  | ok conn =>
    refine .inr ⟨conn, rfl, ?_⟩
    dsimp only
    split
    · rw [run_bind]
      rcases hcheck : checkToken conn.client w with ⟨e | _, w'⟩
      · exact .inr ⟨e, w', rfl, rfl⟩
      · exact .inl ⟨w', rfl⟩
    · exact .inl ⟨w, rfl⟩

theorem Diagnostics.report_eq_nil {ds : Diagnostics} : ds.report = Diagnostics.report [] ↔ ds = [] := by
  simp [report, toJson]

namespace Configuring

variable {env : Environment} {q : Query} {s s' : Server} {w w' : World}
  {outcome : Except String Json}

/-- A configuration is reported without problems if and only if its connection is in force. -/
theorem clean_iff (h : Configuring env q s w outcome s' w') :
    outcome = .ok (Diagnostics.report []) ↔
      ∃ conn, q.Builds env w conn w' ∧ s' = { s with connection := some conn } := by
  have hfailed (config : Json) (hdecode : configDecoder q.params = .ok config)
      (hnot : Provider.schema.validate config = [] → ∀ values,
        (ResourceState.ofJson config).prepare Provider.schema .default = .ok values →
          ∀ conn w', Provider.configure env values w ≠ (.ok conn, w')) :
      ¬ ∃ conn, q.Builds env w conn w' ∧ s' = { s with connection := some conn } := by
    rintro ⟨conn, ⟨-, config', values, hdecode', hvalid, hprepare, hrun⟩, -⟩
    obtain rfl := Except.ok.inj (hdecode.symm.trans hdecode')
    exact hnot hvalid values hprepare conn w' hrun
  cases h with
  | malformed m hdecode =>
    refine iff_of_false (by simp) ?_
    rintro ⟨conn, ⟨-, config, values, hdecode', -⟩, -⟩
    cases hdecode.symm.trans hdecode'
  | invalid config hdecode hproblems =>
    refine iff_of_false ?_ (hfailed config hdecode fun hvalid => absurd hvalid hproblems)
    rwa [Except.ok.injEq, Diagnostics.report_eq_nil]
  | unprepared config e hdecode _ hprepare =>
    refine iff_of_false (by simp [Diagnostics.report_eq_nil]) (hfailed config hdecode ?_)
    intro _ values hprepare'
    cases hprepare.symm.trans hprepare'
  | unresolved config values e hdecode _ hprepare _ hfails =>
    refine iff_of_false (by simp [Diagnostics.report_eq_nil]) (hfailed config hdecode ?_)
    intro _ values' hprepare' conn w'' hrun
    obtain rfl := Except.ok.inj (hprepare.symm.trans hprepare')
    cases hfails.symm.trans hrun
  | refused config values conn e w' hdecode _ hprepare _ _ hfails =>
    refine iff_of_false (by simp [Diagnostics.report_eq_nil]) (hfailed config hdecode ?_)
    intro _ values' hprepare' conn w'' hrun
    obtain rfl := Except.ok.inj (hprepare.symm.trans hprepare')
    cases hfails.symm.trans hrun
  | installed conn w' hbuilds => exact iff_of_true rfl ⟨conn, hbuilds, rfl⟩

/-- A configuration with problems leaves the server as it is. -/
theorem eq_of_not_clean (h : Configuring env q s w outcome s' w')
    (hnot : outcome ≠ .ok (Diagnostics.report [])) : s' = s := by
  cases h with
  | installed conn w' hbuilds => exact absurd rfl hnot
  | _ => rfl

end Configuring

namespace Server

variable {env : Environment} {q : Query} {s : Server} {w : World}

variable (env) in
theorem handle_configure (h : q.method = "configure") (s : Server) (w : World) :
    ∃ outcome s' w', s.handle env q w = (⟨q.id, outcome⟩, s', w') ∧
      Configuring env q s w outcome s' w' := by
  rw [handle, q.command_configure h, Query.decoded]
  cases hdecode : configDecoder q.params with
  | error m => exact ⟨_, s, w, rfl, .malformed m hdecode⟩
  | ok config =>
    dsimp only [Except.mapError, Functor.map, Except.map]
    rw [run, configure]
    by_cases hproblems : (Provider.schema.validate config).hasErrors = true
    · rw [if_pos hproblems]
      rw [Schema.validate_hasErrors] at hproblems
      exact ⟨_, s, w, rfl, .invalid config hdecode hproblems⟩
    · rw [if_neg hproblems]
      rw [Schema.validate_hasErrors, Classical.not_not] at hproblems
      rw [hproblems]
      cases hprepare : (ResourceState.ofJson config).prepare Provider.schema .default with
      | error e => exact ⟨_, s, w, rfl, .unprepared config e hdecode hproblems hprepare⟩
      | ok values =>
        rcases Provider.configure_cases env values w with ⟨e, hsettings, hrun⟩ |
          ⟨conn, hsettings, ⟨w', hrun⟩ | ⟨e, w', hcheck, hrun⟩⟩
        · simp only [hrun]
          exact ⟨_, s, w, rfl,
            .unresolved config values e hdecode hproblems hprepare hsettings hrun⟩
        · simp only [hrun]
          exact ⟨_, _, w', rfl,
            .installed conn w' ⟨h, config, values, hdecode, hproblems, hprepare, hrun⟩⟩
        · simp only [hrun]
          exact ⟨_, s, w', rfl,
            .refused config values conn e w' hdecode hproblems hprepare hsettings hcheck hrun⟩

/-! ## Other requests -/

theorem handle_stop (h : q.method = "stop") :
    s.handle env q w = (⟨q.id, .ok (.object [])⟩, { s with stopped := true }, w) := by
  have hcommand : q.command = .ok .stop := by
    rw [Query.command, h]
    rfl
  rw [handle, hcommand]
  rfl

theorem handle_frame (hconfigure : q.method ≠ "configure") (hstop : q.method ≠ "stop") :
    (s.handle env q w).2.1 = s := by
  rw [handle]
  cases hcommand : q.command with
  | error e => rfl
  | ok c =>
    have hmethod := Query.method_of_command hcommand
    cases c with
    | configure config => exact absurd hmethod hconfigure
    | stop => exact absurd hmethod hstop
    | _ => rfl

/-- Without a connection every operation on a resource is refused, and nothing is sent. -/
theorem handle_unconnected (hconn : s.connection = none) (h : q.method ∈ Command.operations) :
    ∃ text, s.handle env q w = (⟨q.id, .error text⟩, s, w) := by
  rw [handle]
  cases hcommand : q.command with
  | error e => exact ⟨_, rfl⟩
  | ok c =>
    rw [Query.method_of_command hcommand] at h
    refine ⟨ProviderError.notConfigured.message, ?_⟩
    cases c with
    | create | read | update | delete | adopt =>
      dsimp only
      rw [run]
      simp only [connected, hconn]
      rfl
    | _ => simp [Command.method, Command.operations] at h

end Server

/-! ## Sequences of requests -/

/-- A request in a sequence, with the server and the world that it finds. -/
structure Turn where
  query : Query
  server : Server
  world : World

namespace Turn

variable (env : Environment) (t : Turn)

/-- The answer to the request, with the server and the world after it. -/
def handled : Answer × Server × World :=
  t.server.handle env t.query t.world

/-- The request configures the provider, and no problems are reported. -/
def Clean : Prop :=
  t.query.method = "configure" ∧ (t.handled env).1.outcome = .ok (Diagnostics.report [])

variable {t} in
theorem configuring (h : t.query.method = "configure") :
    Configuring env t.query t.server t.world (t.handled env).1.outcome (t.handled env).2.1
      (t.handled env).2.2 := by
  obtain ⟨outcome, s', w', hrun, hconfiguring⟩ :=
    Server.handle_configure env h t.server t.world
  rw [handled, hrun]
  exact hconfiguring

variable {env t}

theorem Clean.builds (h : t.Clean env) : ∃ conn, t.query.Builds env t.world conn (t.handled env).2.2 ∧
    (t.handled env).2.1 = { t.server with connection := some conn } :=
  (configuring env h.1).clean_iff.mp h.2

theorem connection_of_not_clean (h : ¬ t.Clean env) :
    (t.handled env).2.1.connection = t.server.connection := by
  by_cases hconfigure : t.query.method = "configure"
  · have hnot : (t.handled env).1.outcome ≠ .ok (Diagnostics.report []) := fun hclean =>
      h ⟨hconfigure, hclean⟩
    rw [(configuring env hconfigure).eq_of_not_clean hnot]
  · by_cases hstop : t.query.method = "stop"
    · rw [handled, Server.handle_stop hstop]
    · rw [handled, Server.handle_frame hconfigure hstop]

end Turn

namespace Server

variable (env : Environment)

/-- The turns of a sequence of requests. -/
def turns : List Query → Server → World → List Turn
  | [], _, _ => []
  | q :: rest, s, w =>
    ⟨q, s, w⟩ :: turns rest (s.handle env q w).2.1 (s.handle env q w).2.2

/-- The server and the world after a sequence of requests. -/
def after : List Query → Server → World → Server × World
  | [], s, w => (s, w)
  | q :: rest, s, w => after rest (s.handle env q w).2.1 (s.handle env q w).2.2

theorem connection_before_clean (qs : List Query) (s : Server) (w : World) {before rest : List Turn}
    {t : Turn} (hturns : turns env qs s w = before ++ t :: rest)
    (hnone : ∀ u ∈ before, ¬ u.Clean env) : t.server.connection = s.connection := by
  induction qs generalizing s w before with
  | nil => simp [turns] at hturns
  | cons q qs ih =>
    cases before with
    | nil =>
      obtain ⟨rfl, -⟩ := List.cons.inj hturns
      rfl
    | cons u before =>
      obtain ⟨rfl, htail⟩ := List.cons.inj hturns
      obtain ⟨hfirst, hothers⟩ := List.forall_mem_cons.mp hnone
      rw [ih _ _ htail hothers]
      exact Turn.connection_of_not_clean hfirst

/-- After a sequence of requests the connection is the one that the last configuration without
problems has built, or else the one from before. -/
theorem connection_after (qs : List Query) (s : Server) (w : World) :
    (∃ before t rest conn, turns env qs s w = before ++ t :: rest ∧ t.Clean env ∧
        (∀ u ∈ rest, ¬ u.Clean env) ∧ t.query.Builds env t.world conn (t.handled env).2.2 ∧
        (after env qs s w).1.connection = some conn) ∨
      (∀ t ∈ turns env qs s w, ¬ t.Clean env) ∧
        (after env qs s w).1.connection = s.connection := by
  induction qs generalizing s w with
  | nil => exact .inr ⟨by simp [turns], rfl⟩
  | cons q qs ih =>
    let first : Turn := ⟨q, s, w⟩
    rcases ih (first.handled env).2.1 (first.handled env).2.2 with
      ⟨before, t, rest, conn, hturns, hrest⟩ | ⟨hnone, hconn⟩
    · exact .inl ⟨first :: before, t, rest, conn, congrArg (first :: ·) hturns, hrest⟩
    · by_cases hclean : first.Clean env
      · obtain ⟨conn, hbuilds, hnext⟩ := hclean.builds
        refine .inl ⟨[], first, _, conn, rfl, hclean, hnone, hbuilds, hconn.trans ?_⟩
        rw [hnext]
      · refine .inr ⟨List.forall_mem_cons.mpr ⟨hclean, hnone⟩, hconn.trans ?_⟩
        exact Turn.connection_of_not_clean hclean

/-- After every sequence of requests the connection in force is the one that the latest configuration
reported without problems has built. A configuration is reported so if and only if it is in force
afterwards, and otherwise it changes nothing. Before the first one every operation on a resource is
refused and sends nothing. No other request changes the connection, and only one stops the server. -/
theorem configuration_in_force (qs : List Query) (w : World) :
    ((∃ before t rest conn, turns env qs start w = before ++ t :: rest ∧ t.Clean env ∧
        (∀ u ∈ rest, ¬ u.Clean env) ∧ t.query.Builds env t.world conn (t.handled env).2.2 ∧
        (after env qs start w).1.connection = some conn) ∨
      (∀ t ∈ turns env qs start w, ¬ t.Clean env) ∧
        (after env qs start w).1.connection = none) ∧
    (∀ before t rest, turns env qs start w = before ++ t :: rest →
      (∀ u ∈ before, ¬ u.Clean env) → t.query.method ∈ Command.operations →
        ∃ text, t.handled env = (⟨t.query.id, .error text⟩, t.server, t.world)) ∧
    ∀ t ∈ turns env qs start w,
      (t.query.method = "configure" →
        Configuring env t.query t.server t.world (t.handled env).1.outcome (t.handled env).2.1
            (t.handled env).2.2 ∧
          ((t.handled env).1.outcome = .ok (Diagnostics.report []) ↔
            ∃ conn, t.query.Builds env t.world conn (t.handled env).2.2 ∧
              (t.handled env).2.1 = { t.server with connection := some conn }) ∧
          ((t.handled env).1.outcome ≠ .ok (Diagnostics.report []) →
            (t.handled env).2.1 = t.server)) ∧
      (t.query.method = "stop" → (t.handled env).2.1 = { t.server with stopped := true }) ∧
      (t.query.method ≠ "configure" → t.query.method ≠ "stop" →
        (t.handled env).2.1 = t.server) := by
  refine ⟨connection_after env qs start w, ?_, ?_⟩
  · intro before t rest hturns hnone hoperates
    exact handle_unconnected (connection_before_clean env qs start w hturns hnone) hoperates
  · intro t _
    refine ⟨fun hconfigure => ?_, fun hstop => ?_, handle_frame⟩
    · have hconfiguring := Turn.configuring env hconfigure
      exact ⟨hconfiguring, hconfiguring.clean_iff, hconfiguring.eq_of_not_clean⟩
    · rw [Turn.handled, handle_stop hstop]

end Server

end CloudProvider
