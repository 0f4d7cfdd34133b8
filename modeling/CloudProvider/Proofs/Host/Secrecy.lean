import CloudProvider.Proofs.Host.Deadlines
import CloudProvider.Proofs.Resource.Paired

/-!
# The token is told to the API alone

Two sessions that differ only in the token of the provider run side by side: the answers, the time and
the requests are the same, but for one header.

* `Request.masked`: a request without the value of its authorization header.
* `World.SameButToken`, `Client.SameButToken`, `Server.SameButToken`: what stays the same.
* `ResourceState.SameButToken`, `Provider.configure_same`: configuring with another token.
* `Query.SameButToken`, `Server.handle_same`: one request.
* `Server.token_stays_hidden`: all requests of a session.
-/

namespace CloudProvider
open Json
set_option autoImplicit false

/-! ## Requests and worlds -/

/-- The request without the value of its authorization header. -/
def Request.masked (q : Request) : Request :=
  { q with headers := q.headers.map fun h => if h.1 = "authorization" then (h.1, "") else h }

def Request.SameButToken (q q' : Request) : Prop :=
  q.masked = q'.masked

theorem Request.SameButToken.url {q q' : Request} (h : q.SameButToken q') : q.url = q'.url :=
  (Request.mk.inj h).2.1

/-- The same lies ahead, and the same went out but for the authorization. -/
structure World.SameButToken (w w' : World) : Prop extends w.Alike w' where
  log : w.log.map Request.masked = w'.log.map Request.masked

theorem World.exchange_log (q : Request) (w : World) :
    (w.exchange q).2.log = w.log ++ if w.network.reachable then [q] else [] := by
  cases hw : w.network.reachable with
  | false => simp [exchange_of_unreachable q w hw]
  | true =>
    obtain ⟨reply, w', hrun, htraffic⟩ := exchange_of_reachable q w hw
    simp [hrun, htraffic.log]

theorem World.sameButToken_twins : World.Twins Request.SameButToken World.SameButToken where
  sleep d h := ⟨h.toAlike.sleep d, by rw [sleep_log, sleep_log, h.log]⟩
  url h := h.url
  exchange {q q' w w'} hq h := by
    obtain ⟨hanswer, halike⟩ := h.toAlike.exchange hq.url
    refine ⟨hanswer, halike, ?_⟩
    rw [exchange_log, exchange_log, List.map_append, List.map_append, h.log, h.network]
    split
    · rw [List.map_singleton, List.map_singleton, show q.masked = q'.masked from hq]
    · rfl
  alike h := h.toAlike

/-! ## Clients -/

/-- The text can be the value of a header. -/
def HeaderText (text : String) : Prop :=
  ∀ c ∈ text.toList, Client.isHeaderChar c = true

/-- The token is not blank and can be sent. -/
structure UsableToken (token : String) : Prop where
  notBlank : Text.isBlankText token = false
  header : HeaderText token

/-- The clients have tokens that can be sent, and differ in nothing else. -/
structure Client.SameButToken (c c' : Client) : Prop where
  base : c.base = c'.base
  project : c.project = c'.project
  retry : c.retry = c'.retry
  token : HeaderText c.token ∧ HeaderText c'.token

namespace Client.SameButToken

theorem headers_eq (c : Client) (body : Option Json) :
    c.headers body = ("authorization", "Bearer " ++ c.token) :: (c.headers body).tail := by
  rfl

variable {c c' : Client} (h : c.SameButToken c')
include h

theorem tail_headers (body : Option Json) : (c.headers body).tail = (c'.headers body).tail := by
  unfold headers
  rw [h.project]
  rfl

theorem like : c.Like Request.SameButToken c' where
  retry := h.retry
  request method segments body := by
    have hgood {token : String} (ht : HeaderText token) :
        ("Bearer " ++ token).toList.all isHeaderChar = true := by
      rw [String.toList_append, List.all_append, Bool.and_eq_true]
      exact ⟨by decide, List.all_eq_true.mpr ht⟩
    have hurl : c.url segments = c'.url segments := congrArg (Url.extend · segments) h.base
    unfold request
    rw [hurl, headers_eq c, headers_eq c', h.tail_headers body]
    simp only [List.any_cons, hgood h.token.1, hgood h.token.2, Bool.not_true, Bool.false_or]
    split
    · exact .failed _
    · split
      · exact .done rfl
      · exact .failed _

end Client.SameButToken

theorem Client.new_same {t t' : String} (ht : UsableToken t) (ht' : UsableToken t') (apiUrl : String)
    (project : Option String) (retry : RetryPolicy) :
    SameEnd Client.SameButToken (Client.new apiUrl t project retry)
      (Client.new apiUrl t' project retry) := by
  rw [Client.new, Client.new, if_neg (by simp [ht.notBlank]), if_neg (by simp [ht'.notBlank])]
  cases Url.parse apiUrl with
  | error e => exact .failed _
  | ok base =>
    dsimp only
    split
    · exact .done ⟨rfl, rfl, rfl, ht.header, ht'.header⟩
    · exact .failed _

structure Connection.SameButToken (conn conn' : Connection) : Prop where
  client : conn.client.SameButToken conn'.client
  region : conn.region = conn'.region
  pollInterval : conn.pollInterval = conn'.pollInterval

theorem Connection.SameButToken.like {conn conn' : Connection} (h : conn.SameButToken conn') :
    conn.Like Request.SameButToken conn' :=
  ⟨h.client.like, h.region, h.pollInterval⟩

/-! ## Configurations -/

/-- The members are the same, but for the texts of the token. -/
structure Keyed.SameButToken (t t' : String) (m m' : Keyed Json) : Prop where
  keys : m.keys = m'.keys
  members : ∀ key, key ≠ "token" → m.get? key = m'.get? key
  token : m.get? "token" = some (.string t)
  token' : m'.get? "token" = some (.string t')

namespace Keyed.SameButToken

variable {t t' : String} {m m' : Keyed Json} (h : m.SameButToken t t' m')
include h

theorem setValue?_eq {key : String} (hkey : key ≠ "token") : setValue? key m = setValue? key m' :=
  congrArg (Option.filter _) (h.members key hkey)

theorem setValue?_token :
    setValue? "token" m = some (.string t) ∧ setValue? "token" m' = some (.string t') := by
  rw [setValue?, setValue?, h.token, h.token']
  exact ⟨rfl, rfl⟩

theorem unsupported_eq (attributes : Attributes) (path : String) :
    unsupported attributes path m = unsupported attributes path m' := by
  rw [unsupported, unsupported, h.keys]

theorem conflicts_eq (traits : Traits) (path owner : String) :
    conflicts traits path owner m = conflicts traits path owner m' := by
  have hset (other : String) : (setValue? other m).isSome = (setValue? other m').isSome := by
    by_cases hother : other = "token"
    · rw [hother, h.setValue?_token.1, h.setValue?_token.2]
      rfl
    · rw [h.setValue?_eq hother]
  simp only [conflicts, hset]

/-- Attributes that have no rules for the token do not tell the members apart. -/
theorem attributeErrors_eq {attributes : List (String × Attribute)}
    (hfree : ∀ a, ("token", a) ∈ attributes → a.type = .string ∧ a.traits.validations = [])
    (path : String) : attributeErrors attributes m path = attributeErrors attributes m' path := by
  induction attributes with
  | nil => rfl
  | cons entry rest ih =>
    obtain ⟨name, type, traits⟩ := entry
    have hrest := ih fun a ha => hfree a (List.mem_cons_of_mem _ ha)
    rw [attributeErrors, attributeErrors, hrest, h.conflicts_eq]
    by_cases hname : name = "token"
    · -- The token is a text without rules, so that no token is a problem.
      subst hname
      obtain ⟨htype, hrules⟩ := hfree ⟨type, traits⟩ List.mem_cons_self
      have hnone (text : String) (path : String) : type.errors traits (.string text) path = [] := by
        rw [show type = .string from htype]
        change ruleErrors traits path (.string text) = []
        rw [ruleErrors, show traits.validations = [] from hrules]
        rfl
      rw [h.setValue?_token.1, h.setValue?_token.2]
      simp only [hnone]
    · rw [h.setValue?_eq hname]

end Keyed.SameButToken

namespace Provider

def tokenAttribute : Attribute :=
  (Attribute.optional .string).sensitive.withDescription
    "API token. Falls back to FLEETFORM_TOKEN and the credentials file"

theorem get?_tokenAttribute : Keyed.get? "token" schema.attributes = some tokenAttribute := rfl

variable {t t' : String} {m m' : Keyed Json} (h : m.SameButToken t t' m')
include h

theorem validate_same : schema.validate (.object m) = schema.validate (.object m') := by
  have hfree (a : Attribute) (ha : ("token", a) ∈ schema.attributes) :
      a.type = .string ∧ a.traits.validations = [] := by
    obtain rfl := Option.some.inj (get?_tokenAttribute.symm.trans (get?_of_mem plain ha))
    exact ⟨rfl, rfl⟩
  rw [Schema.validate, Schema.validate, h.unsupported_eq, h.attributeErrors_eq hfree]

end Provider

/-- The states have the tokens, and otherwise the same values. -/
structure ResourceState.SameButToken (t t' : String) (s s' : ResourceState) : Prop where
  values : ∀ key, key ≠ "token" → s.values.get? key = s'.values.get? key
  token : s.text? "token" = some t
  token' : s'.text? "token" = some t'

theorem ResourceState.SameButToken.value?_eq {t t' : String} {s s' : ResourceState}
    (h : s.SameButToken t t' s') {key : String} (hkey : key ≠ "token") : s.value? key = s'.value? key :=
  congrArg (Option.filter _) (h.values key hkey)

namespace Provider

variable {t t' : String} {m m' : Keyed Json} {s s' : ResourceState}

theorem prepare_same (h : m.SameButToken t t' m') :
    SameEnd (ResourceState.SameButToken t t') ((ResourceState.ofJson (.object m)).prepare schema .default)
      ((ResourceState.ofJson (.object m')).prepare schema .default) := by
  have hofJson (m : Keyed Json) :
      (ResourceState.ofJson (.object m)).values = m.erase ResourceState.idKey := rfl
  have hvalues (key : String) (hkey : key ≠ "token") :
      (schema.fill (ResourceState.ofJson (.object m)).values).get? key =
        (schema.fill (ResourceState.ofJson (.object m')).values).get? key := by
    apply get?_fillAll_congr
    rw [hofJson, hofJson]
    by_cases hid : key = ResourceState.idKey
    · rw [hid, Keyed.get?_erase_self, Keyed.get?_erase_self]
    · rw [Keyed.get?_erase_of_ne _ _ _ hid, Keyed.get?_erase_of_ne _ _ _ hid, h.members key hkey]
  have htoken {m : Keyed Json} {t : String} (hm : setValue? "token" m = some (.string t)) :
      setValue? "token" (schema.fill (ResourceState.ofJson (.object m)).values) = some (.string t) := by
    have hgiven : setValue? "token" (m.erase ResourceState.idKey) = setValue? "token" m :=
      congrArg (Option.filter _) (Keyed.get?_erase_of_ne _ _ _ (by decide))
    rw [Schema.fill, setValue?_fillAll plain get?_tokenAttribute, hofJson, hgiven, hm]
    rfl
  have hm := htoken h.setValue?_token.1
  have hm' := htoken h.setValue?_token.2
  unfold ResourceState.prepare
  generalize schema.fill (ResourceState.ofJson (.object m)).values = values at *
  generalize schema.fill (ResourceState.ofJson (.object m')).values = values' at *
  dsimp only
  rw [hvalues Schema.timeoutsName (by decide)]
  refine (SameEnd.refl _).bind fun timeouts _ heq => .done ⟨hvalues, ?_, ?_⟩
  · exact congrArg (Option.bind · asString?) hm
  · exact congrArg (Option.bind · asString?) hm'

end Provider

/-! ## Configuring -/

/-- The settings differ in the token only. -/
theorem Settings.resolve_same {t t' : String} (ht : UsableToken t) (ht' : UsableToken t')
    (env : Environment) (p : Profile) (profile : Option String) :
    SameEnd (fun a a' => a.token = t ∧ a' = { a with token := t' })
      (resolve env { p with token := some t } profile)
      (resolve env { p with token := some t' } profile) := by
  unfold resolve
  refine (SameEnd.refl _).bind fun inFile inFile' heq => ?_
  subst heq
  have htoken {t : String} (ht : UsableToken t) :
      (((({ p with token := some t } : Profile).orElse (fromVariables env)).orElse inFile).token.filter
        (!Text.isBlankText ·)) = some t := by
    change (some t).filter (!Text.isBlankText ·) = some t
    simp [ht.notBlank]
  dsimp only
  rw [htoken ht, htoken ht']
  exact .done ⟨rfl, rfl⟩

namespace Provider

variable {t t' : String} {s s' : ResourceState}

theorem connection_same (ht : UsableToken t) (ht' : UsableToken t') (h : s.SameButToken t t' s')
    (env : Environment) :
    SameEnd Connection.SameButToken (connection env s) (connection env s') := by
  have htext (key : String) (hkey : key ≠ "token") : s'.text? key = s.text? key := by
    rw [ResourceState.text?, ResourceState.text?, h.value?_eq hkey]
  have hexplicit : explicit s = { explicit s with token := some t } := by
    rw [explicit, h.token]
  have hexplicit' : explicit s' = { explicit s with token := some t' } := by
    rw [explicit, explicit, h.token', htext _ (by decide), htext _ (by decide), htext _ (by decide)]
  have hretry : retryPolicy s' = retryPolicy s := by
    rw [retryPolicy, retryPolicy, ResourceState.int?, ResourceState.int?,
      h.value?_eq (show "max_retries" ≠ "token" by decide)]
  unfold connection
  rw [hexplicit', hretry, htext "profile" (by decide), htext "poll_interval" (by decide), hexplicit]
  refine ((Settings.resolve_same ht ht' env _ _).mapError _).bind fun a a' hsettings => ?_
  obtain ⟨rfl, rfl⟩ := hsettings
  refine (SameEnd.refl _).bind fun pause _ hpause => ?_
  subst hpause
  refine ((Client.new_same ht ht' _ _ _).mapError _).bind fun c c' hclient => ?_
  exact .done ⟨hclient, rfl, rfl⟩

theorem checkToken_same {c c' : Client} (h : c.SameButToken c') :
    Agree World.SameButToken (checkToken c) (checkToken c') := by
  have hblind := World.sameButToken_twins.toBlind
  have haccount : Agree World.SameButToken c.account c'.account :=
    Client.get_agree hblind h.like _ _
  have hcheck : Agree World.SameButToken c.checkToken c'.checkToken := by
    intro w w' hw
    obtain ⟨result, w₁, w₁', hrun, hrun', hnext⟩ := exists_outcome (haccount w w' hw)
    rw [Client.checkToken, Client.checkToken, hrun, hrun']
    cases result with
    | ok account => exact ⟨rfl, hnext⟩
    | error e =>
      dsimp only
      split <;> exact ⟨rfl, hnext⟩
  refine hcheck.bind fun check => ?_
  cases check with
  | accepted holder => exact .pure ()
  | rejected reason => exact .throw _

theorem configure_same (ht : UsableToken t) (ht' : UsableToken t') (h : s.SameButToken t t' s')
    (env : Environment) {w w' : World} (hw : w.SameButToken w') :
    SameEnd Connection.SameButToken (configure env s w).1 (configure env s' w').1 ∧
      (configure env s w).2.SameButToken (configure env s' w').2 := by
  have hskip : s'.bool? "skip_credentials_validation" = s.bool? "skip_credentials_validation" := by
    rw [ResourceState.bool?, ResourceState.bool?, h.value?_eq (by decide)]
  have hconn := connection_same ht ht' h env
  rw [configure, configure, run_bind, run_bind, run_liftM, run_liftM, hskip]
  revert hconn
  generalize connection env s = result
  generalize connection env s' = result'
  intro hconn
  cases hconn with
  | failed e => exact ⟨.failed e, hw⟩
  | @done conn conn' hconn =>
    dsimp only
    split
    · obtain ⟨result, w₁, w₁', hrun, hrun', hnext⟩ :=
        exists_outcome (checkToken_same hconn.client w w' hw)
      rw [run_bind, run_bind, hrun, hrun']
      cases result with
      | error e => exact ⟨.failed e, hnext⟩
      | ok => exact ⟨.done hconn, hnext⟩
    · exact ⟨.done hconn, hw⟩

end Provider

/-! ## The server -/

/-- The connections in force differ in the token only. -/
structure Server.SameButToken (s s' : Server) : Prop where
  connection : Option.Rel Connection.SameButToken s.connection s'.connection
  stopped : s.stopped = s'.stopped

/-- The results are equal, and so are the servers and the worlds afterwards but for the token. -/
structure SameRun {α : Type} (run run' : α × Server × World) : Prop where
  result : run.1 = run'.1
  server : run.2.1.SameButToken run'.2.1
  world : run.2.2.SameButToken run'.2.2

/-- The requests are the same, or they configure the provider alike but for its token. -/
inductive Query.SameButToken (t t' : String) : Query → Query → Prop where
  | same (q : Query)
    (hblock : q.method = "configure" → ∀ m, configDecoder q.params ≠ .ok (.object m)) :
    Query.SameButToken t t' q q
  | configure (id : UInt64) (params params' : Json) (m m' : Keyed Json)
    (hconfig : configDecoder params = .ok (.object m))
    (hconfig' : configDecoder params' = .ok (.object m')) (h : m.SameButToken t t' m') :
    Query.SameButToken t t' ⟨id, "configure", params⟩ ⟨id, "configure", params'⟩

namespace Server

variable (env : Environment) {t t' : String} {s s' : Server} {w w' : World}

theorem configure_same (ht : UsableToken t) (ht' : UsableToken t') {m m' : Keyed Json}
    (h : m.SameButToken t t' m') (hs : s.SameButToken s') (hw : w.SameButToken w') :
    SameRun (configure env (.object m) s w) (configure env (.object m') s' w') := by
  have hprepare := Provider.prepare_same h
  rw [configure, configure, Provider.validate_same h]
  split
  · exact ⟨rfl, hs, hw⟩
  · revert hprepare
    generalize (ResourceState.ofJson (.object m)).prepare Provider.schema .default = values
    generalize (ResourceState.ofJson (.object m')).prepare Provider.schema .default = values'
    intro hprepare
    cases hprepare with
    | failed e => exact ⟨rfl, hs, hw⟩
    | @done values values' hvalues =>
      obtain ⟨hend, hnext⟩ := Provider.configure_same ht ht' hvalues env hw
      dsimp only
      revert hend hnext
      rcases Provider.configure env values w with ⟨result, w₁⟩
      rcases Provider.configure env values' w' with ⟨result', w₁'⟩
      intro hend hnext
      cases hend with
      | failed e => exact ⟨rfl, hs, hnext⟩
      | done hconn => exact ⟨rfl, ⟨.some hconn, hs.stopped⟩, hnext⟩

theorem configure_same_of_no_block {config : Json} (hblock : ∀ m, config ≠ .object m)
    (hs : s.SameButToken s') (hw : w.SameButToken w') :
    SameRun (configure env config s w) (configure env config s' w') := by
  have hproblems : (Provider.schema.validate config).hasErrors = true := by
    cases config with
    | object m => exact absurd rfl (hblock m)
    | _ => rfl
  rw [configure, configure, if_pos hproblems, if_pos hproblems]
  exact ⟨rfl, hs, hw⟩

/-- What is done over the connection in force is done alike. -/
theorem connected_same {α : Type} {work : Connection → Serving α}
    (hwork : ∀ conn conn', conn.SameButToken conn' → Agree World.SameButToken (work conn) (work conn'))
    (hs : s.SameButToken s') : Agree World.SameButToken (s.connected work) (s'.connected work) := by
  have hconn := hs.connection
  unfold connected
  revert hconn
  generalize s.connection = conn
  generalize s'.connection = conn'
  intro hconn
  cases hconn with
  | none => exact .throw _
  | some hconn => exact hwork _ _ hconn

theorem run_same {c : Command} (hblock : ∀ m, c ≠ .configure (.object m)) (hs : s.SameButToken s')
    (hw : w.SameButToken w') : SameRun (s.run env c w) (s'.run env c w') := by
  have hserve {α : Type} (toJson : α → Json) {work : Connection → Serving α}
      (hwork : ∀ conn conn', conn.SameButToken conn' →
        Agree World.SameButToken (work conn) (work conn')) :
      SameRun (toJson <$> (s.connected work w).1, s, (s.connected work w).2)
        (toJson <$> (s'.connected work w').1, s', (s'.connected work w').2) := by
    obtain ⟨hresult, hnext⟩ := connected_same hwork hs w w' hw
    exact ⟨congrArg (toJson <$> ·) hresult, hs, hnext⟩
  have hpaired (t : ResourceType) {conn conn' : Connection} (h : conn.SameButToken conn') :
      t.resource.Paired World.SameButToken conn conn' :=
    t.paired World.sameButToken_twins h.like
  cases c with
  | getSchema | validateProvider | validateResource => exact ⟨rfl, hs, hw⟩
  | stop => exact ⟨rfl, ⟨hs.connection, rfl⟩, hw⟩
  | configure config =>
    have hrun := configure_same_of_no_block env (fun m h => hblock m (congrArg _ h)) hs hw
    exact ⟨congrArg (fun ds => Except.ok (Diagnostics.report ds)) hrun.result, hrun.server, hrun.world⟩
  | create t planned => exact hserve Outcome.toJson fun _ _ h => (hpaired t h).created planned
  | read t current => exact hserve Outcome.toJson fun _ _ h => (hpaired t h).refreshed current
  | update t prior planned =>
    exact hserve Outcome.toJson fun _ _ h => (hpaired t h).updated prior planned
  | delete t prior => exact hserve Diagnostics.report fun _ _ h => (hpaired t h).deleted prior
  | adopt t id => exact hserve Outcome.toJson fun _ _ h => (hpaired t h).imported t.name id

end Server

/-! ## Sessions -/

/-- What can be seen of a turn: the answer, whether the server is stopped, the time, and the requests
that went out so far without the values of their authorization headers. -/
def Turn.seen (env : Environment) (t : Turn) : Answer × Bool × Nat × List Request :=
  ((t.handled env).1, (t.handled env).2.1.stopped, (t.handled env).2.2.clock,
    (t.handled env).2.2.log.map Request.masked)

namespace Server

variable (env : Environment) {t t' : String} {s s' : Server} {w w' : World}

theorem handle_same (ht : UsableToken t) (ht' : UsableToken t') {q q' : Query}
    (hq : q.SameButToken t t' q') (hs : s.SameButToken s') (hw : w.SameButToken w') :
    SameRun (s.handle env q w) (s'.handle env q' w') := by
  cases hq with
  | same _ hblock =>
    rw [handle, handle]
    cases hcommand : q.command with
    | error e => exact ⟨rfl, hs, hw⟩
    | ok c =>
      -- A command that configures with a block has it from the parameters, which have none.
      have hno (m : Keyed Json) : c ≠ .configure (.object m) := by
        rintro rfl
        have hmethod := Query.method_of_command hcommand
        rw [q.command_configure hmethod] at hcommand
        have hdecode := hblock hmethod m
        revert hcommand hdecode
        rw [Query.decoded]
        cases configDecoder q.params with
        | error e => rintro ⟨⟩
        | ok config =>
          intro hcommand hdecode
          obtain rfl : config = .object m := Command.configure.inj (Except.ok.inj hcommand)
          exact hdecode rfl
      obtain ⟨hresult, hserver, hworld⟩ := run_same env hno hs hw
      refine ⟨?_, hserver, hworld⟩
      exact congrArg (fun r => Answer.mk q.id (r.mapError ProviderError.message)) hresult
  | configure id params params' m m' hconfig hconfig' h =>
    have hcommand {params : Json} {m : Keyed Json} (hconfig : configDecoder params = .ok (.object m)) :
        Query.command ⟨id, "configure", params⟩ = .ok (.configure (.object m)) := by
      rw [Query.command_configure rfl, Query.decoded, hconfig]
      rfl
    rw [handle, handle, hcommand hconfig, hcommand hconfig']
    obtain ⟨hresult, hserver, hworld⟩ := configure_same env ht ht' h hs hw
    exact ⟨congrArg (fun ds => Answer.mk id (.ok (Diagnostics.report ds))) hresult, hserver, hworld⟩

theorem turns_same (ht : UsableToken t) (ht' : UsableToken t') (session : List (Query × Query))
    (hsession : ∀ pair ∈ session, pair.1.SameButToken t t' pair.2)
    (hs : s.SameButToken s') (hw : w.SameButToken w') :
    (turns env (session.map (·.1)) s w).map (Turn.seen env) =
      (turns env (session.map (·.2)) s' w').map (Turn.seen env) := by
  induction session generalizing s s' w w' with
  | nil => rfl
  | cons pair rest ih =>
    obtain ⟨hpair, hrest⟩ := List.forall_mem_cons.mp hsession
    obtain ⟨hresult, hserver, hworld⟩ := handle_same env ht ht' hpair hs hw
    have hfirst : Turn.seen env ⟨pair.1, s, w⟩ = Turn.seen env ⟨pair.2, s', w'⟩ :=
      Prod.ext hresult (Prod.ext hserver.stopped (Prod.ext hworld.clock hworld.log))
    simp only [List.map_cons, turns, hfirst]
    exact congrArg _ (ih hrest hserver hworld)

/-- Two sessions of the same requests, of which one configures the provider with one token wherever the
other does with another, get the same answers at the same time, and the same requests go out but for the
values of one header. -/
theorem token_stays_hidden (ht : UsableToken t) (ht' : UsableToken t') (session : List (Query × Query))
    (hsession : ∀ pair ∈ session, pair.1.SameButToken t t' pair.2) (w : World) :
    (turns env (session.map (·.1)) start w).map (Turn.seen env) =
      (turns env (session.map (·.2)) start w).map (Turn.seen env) :=
  turns_same env ht ht' session hsession ⟨.none, rfl⟩ ⟨⟨rfl, rfl⟩, rfl⟩

/-- A network is read with one token and with another, and nothing but the tokens is told apart. -/
theorem token_stays_hidden_read :
    let env : Environment := ⟨[("HOME", "/home")], none, fun _ => .missing⟩
    let lan := "\x7b\"id\":\"n\",\"name\":\"backend\",\"region\":\"eu\"," ++
      "\"ip_range\":\"10.0.0.0/24\",\"status\":\"available\"\x7d"
    let w : World := ⟨⟨true, [(.answer ⟨200, lan, none⟩, 1)]⟩, 0, []⟩
    let block (token : String) : Keyed Json :=
      [("skip_credentials_validation", .bool true), ("token", .string token)]
    let read : Query := ⟨2, "read", .object
      [("current_state", .object [("id", .string "n")]), ("type_name", .string "fleetform_private_lan")]⟩
    let session (token : String) : List Query :=
      [⟨1, "configure", .object [("config", .object (block token))]⟩, read]
    let sent (token : String) : List (List (String × String)) :=
      (after env (session token) start w).2.log.map (·.headers)
    (turns env (session "alpha") start w).map (Turn.seen env) =
        (turns env (session "beta") start w).map (Turn.seen env) ∧
      sent "alpha" = [[("authorization", "Bearer alpha"), ("user-agent", "fleetform/0.3.0")]] ∧
      sent "beta" = [[("authorization", "Bearer beta"), ("user-agent", "fleetform/0.3.0")]] := by
  intro env lan w block read session sent
  have husable {token : String}
      (h : (!Text.isBlankText token && token.toList.all Client.isHeaderChar) = true) :
      UsableToken token := by
    rw [Bool.and_eq_true, Bool.not_eq_true', List.all_eq_true] at h
    exact ⟨h.1, h.2⟩
  have hblock : (block "alpha").SameButToken "alpha" "beta" (block "beta") := by
    refine ⟨rfl, fun key hkey => ?_, rfl, rfl⟩
    simp [block, Keyed.get?_cons, Ne.symm hkey]
  have halpha : UsableToken "alpha" := husable (by decide +kernel)
  have hbeta : UsableToken "beta" := husable (by decide +kernel)
  have hsame := token_stays_hidden env halpha hbeta ((session "alpha").zip (session "beta")) ?_ w
  · exact ⟨hsame, by decide +kernel, by decide +kernel⟩
  · intro pair hpair
    rcases List.mem_cons.mp hpair with rfl | hpair
    · exact .configure 1 _ _ _ _ rfl rfl hblock
    · obtain rfl := List.mem_singleton.mp hpair
      exact .same read fun h => absurd h (by decide)

end Server

end CloudProvider
