import CloudProvider.Proofs.Host.Reading

/-!
# A clean delete means that the object is gone

A delete asks for the deletion of one object, and for some types it then looks at that object until an
answer says that it is missing. Nothing is reported if and only if it came to that.

* `Waiter.poll_removal`, `Step.await_removal`: a wait for something to disappear ends well if and only
  if the last look misses it.
* `Deletion`: the requests of a delete and what they come to.
* `ResourceType.lingers`, `ResourceType.delete_deletion`: the deletes of every type.
* `Server.clean_delete_iff_gone`: what a delete returns.
-/

namespace CloudProvider
set_option autoImplicit false

/-! ## Waiting until something is gone -/

section Removal

variable {α : Type} {P : Exchange → Prop} {read : Call (Option α)} (status : α → String)

theorem Waiter.judge_removal {waiter : Waiter} (htargets : waiter.targets = []) (p : Progress)
    (reading : Reading α) :
    (∃ x, waiter.judge p reading = .over (.ok x)) ↔ reading = .absent := by
  cases reading with
  | found object status =>
    have hlisted : listed waiter.targets status = false := by simp [listed, htargets]
    simp only [judge, hlisted, Bool.false_eq_true, if_false]
    split <;> simp
  | absent => simp [judge, forRemoval, htargets]
  | failed e =>
    simp only [judge]
    split <;> simp

theorem Step.look_absent (w : World) :
    (look read status w).1 = .absent ↔ (read w).1 = .ok none := by
  unfold look
  split <;> simp [*]

/-- Each reading is some exchanges, and misses the object if the last of them says so. -/
def Call.Sees (P : Exchange → Prop) (read : Call (Option α)) : Prop :=
  ∀ w, ∃ es, Traffic w es (read w).2 ∧ (∀ e ∈ es, P e) ∧
    ((read w).1 = .ok none ↔ ∃ e, es.getLast? = some e ∧ e.Missing)

/-- The wait for something to disappear ends well if and only if the last answer misses it. -/
theorem Waiter.poll_removal {waiter : Waiter} (htargets : waiter.targets = [])
    (hread : Call.Sees P read) (deadline : Nat) :
    ∀ (budget : Nat) (p : Progress) (w : World),
      let run := waiter.poll ⟨Step.look read status, World.nanos, World.sleep⟩ deadline budget p w
      ∃ es, Traffic w es run.2 ∧ (∀ e ∈ es, P e) ∧
        ((∃ x, run.1 = .over (.ok x)) ↔ ∃ e, es.getLast? = some e ∧ e.Missing) := by
  intro budget
  induction budget with
  | zero =>
    intro p w run
    exact ⟨[], .refl w, by simp, by simp [run, poll]⟩
  | succ budget ih =>
    intro p w run
    obtain ⟨es, htraffic, hP, hmissing⟩ := hread w
    have hover := (judge_removal htargets p (Step.look read status w).1).trans
      ((Step.look_absent status w).trans hmissing)
    rcases hverdict : waiter.judge p (Step.look read status w).1 with result | p'
    · have hrun : run = (.over result, (read w).2) := by
        simp only [run, poll, hverdict, Step.look_world]
      rw [hrun]
      exact ⟨es, htraffic, hP, by simpa [hverdict] using hover⟩
    · -- The wait goes on, so that this look did not miss the object.
      have hnot : ¬ ∃ e, es.getLast? = some e ∧ e.Missing := by
        rw [← hover, hverdict]
        simp
      by_cases hlate : deadline < waiter.nextPoll (read w).2.nanos
      · have hrun : run = (.over (.error (waiter.timeoutError p')), (read w).2) := by
          simp only [run, poll, hverdict, Step.look_world, hlate, if_true]
        rw [hrun]
        exact ⟨es, htraffic, hP, by simpa using hnot⟩
      · have hrun : run = waiter.poll ⟨Step.look read status, World.nanos, World.sleep⟩ deadline
            budget p' ((read w).2.sleep waiter.pollInterval) := by
          simp only [run, poll, hverdict, Step.look_world, hlate, if_false]
        rw [hrun]
        obtain ⟨es', htraffic', hP', hresult⟩ :=
          ih p' ((read w).2.sleep waiter.pollInterval)
        refine ⟨es ++ es', htraffic.trans ((Traffic.sleep _ _).trans htraffic'), ?_, ?_⟩
        · intro e he
          exact (List.mem_append.mp he).elim (hP e) (hP' e)
        · rw [hresult, List.getLast?_append]
          cases hlast : es'.getLast? with
          | none => simpa using hnot
          | some e => simp

theorem Step.await_removal (waiter : Waiter) (htargets : waiter.targets = [])
    (hread : Call.Sees P read) (s : ResourceState) (w : World) :
    ∃ outcome w' es, await waiter read status ⟨s, w⟩ = (outcome, ⟨s, w'⟩) ∧
      Traffic w es w' ∧ (∀ e ∈ es, P e) ∧
      ((∃ x, outcome = .ok x) ↔ ∃ e, es.getLast? = some e ∧ e.Missing) := by
  obtain ⟨start, hstart, heq⟩ : ∃ start, Traffic w [] start ∧
      (if waiter.delay.nanos = 0 then w else w.sleep waiter.delay) = start :=
    ⟨_, .delay _ _, rfl⟩
  have hwait := waiter.poll_removal status htargets hread (w.nanos + waiter.timeout.nanos)
    (waiter.budget w.replyCount) .start start
  generalize hrun : waiter.poll ⟨look read status, World.nanos, World.sleep⟩ (w.nanos + waiter.timeout.nanos)
    (waiter.budget w.replyCount) .start start = run at hwait
  obtain ⟨es, htraffic, hP, hgone⟩ := hwait
  refine ⟨waiter.conclude run.1, run.2, es, ?_, hstart.trans htraffic, hP, ?_⟩
  · simp only [await, Waiter.wait, Waiter.deadline, Waiter.delayed, heq, hrun]
  · simp only [Waiter.conclude_ok, hgone]

end Removal

/-! ## Deleting -/

theorem Exchange.status_of_result {e : Exchange} {v : Json} (h : e.result = .ok v) :
    ∃ r, e.reply = .answer r ∧ 200 ≤ r.status ∧ r.status < 300 := by
  rw [result] at h
  cases hreply : e.reply with
  | drop => simp [hreply, Reply.received] at h
  | hang => simp [hreply, Reply.received] at h
  | answer r =>
    refine ⟨r, rfl, ?_⟩
    simp only [hreply, Reply.received, Response.read, Response.status_withoutBody] at h
    split at h
    · cases h
    · split at h
      · cases h
      · next hsuccess =>
        simp only [Bool.or_eq_true, decide_eq_true_eq, not_or, Nat.not_lt, Nat.not_le] at hsuccess
        exact hsuccess

/-- The requests of a delete and what they come to: the object, whose path may be refused, is to be
deleted, and if it lingers it is looked at until it is gone. -/
structure Deletion (conn : Connection) (path : Except ProviderError (List String)) (lingers : Bool)
    (w w' : World) (result : Except ProviderError Unit) (deletes polls : List Exchange) : Prop where
  traffic : Traffic w (deletes ++ polls) w'
  deleted : ∀ e ∈ deletes, ∃ segments, path = .ok segments ∧
    e.request = ⟨.delete, conn.client.url segments, conn.client.headers none, none⟩
  polled : ∀ e ∈ polls, ∃ segments, path = .ok segments ∧ e.Gets conn.client segments
  sent : deletes ≠ [] ↔ ∃ segments, path = .ok segments ∧ conn.client.Reaches .delete segments none w
  refused : ∀ failure, path = .error failure → result = .error failure
  /-- Looks are only taken once the deletion is accepted, and only at what lingers. -/
  first : polls ≠ [] → lingers = true ∧
    ∃ e, deletes.getLast? = some e ∧ ((∃ v, e.result = .ok v) ∨ e.Missing)
  gone : result = .ok () ↔
    (∃ e, deletes.getLast? = some e ∧ ((∃ v, e.result = .ok v) ∨ e.Missing)) ∧
      (lingers = true → ∃ e, polls.getLast? = some e ∧ e.Missing)

namespace Deletion

variable {conn : Connection} {lingers : Bool} {w w' : World}

theorem of_refused (w : World) (failure : ProviderError) :
    Deletion conn (.error failure) lingers w w (.error failure) [] [] where
  traffic := .refl w
  deleted := by simp
  polled := by simp
  sent := by simp
  refused _ h := congrArg Except.error (Except.error.inj h)
  first := by simp
  gone := by simp

variable {segments : List String} {deletes polls : List Exchange} {w₁ : World}

/-- A deletion that is not accepted, or after which nothing is waited for. -/
theorem of_asked {result : Except ProviderError Unit}
    (hasked : conn.client.Asked .delete segments none w deletes w')
    (hok : result = .ok () ↔
      ∃ e, deletes.getLast? = some e ∧ ((∃ v, e.result = .ok v) ∨ e.Missing))
    (hdone : lingers = true → result ≠ .ok ()) :
    Deletion conn (.ok segments) lingers w w' result deletes [] where
  traffic := by simpa using hasked.traffic
  deleted e he := ⟨segments, rfl, hasked.request e he⟩
  polled := by simp
  sent := by simp [hasked.sent]
  refused := by simp
  first := by simp
  gone := by
    rw [← hok]
    refine ⟨fun h => ⟨h, fun hlingers => absurd h (hdone hlingers)⟩, And.left⟩

/-- A deletion that is accepted, and the looks that follow it. -/
theorem of_accepted {result : Except ProviderError Unit}
    (hasked : conn.client.Asked .delete segments none w deletes w₁)
    (haccepted : ∃ e, deletes.getLast? = some e ∧ ((∃ v, e.result = .ok v) ∨ e.Missing))
    (htraffic : Traffic w₁ polls w') (hpolled : ∀ e ∈ polls, e.Gets conn.client segments)
    (hgone : result = .ok () ↔ ∃ e, polls.getLast? = some e ∧ e.Missing) :
    Deletion conn (.ok segments) true w w' result deletes polls where
  traffic := hasked.traffic.trans htraffic
  deleted e he := ⟨segments, rfl, hasked.request e he⟩
  polled e he := ⟨segments, rfl, hpolled e he⟩
  sent := by simp [hasked.sent]
  refused := by simp
  first _ := ⟨rfl, haccepted⟩
  gone := by
    rw [hgone]
    exact ⟨fun h => ⟨haccepted, fun _ => h⟩, fun h => h.2 rfl⟩

end Deletion

/-! ## The types -/

namespace Lifecycle

variable {α : Type} (l : Lifecycle α) (conn : Connection)

/-- Waiting until an object is gone looks at it, and ends well if the last answer misses it. -/
theorem awaitGone_run (p : Phases α) (c : Collection) (id : String) (timeout : Duration)
    (s : ResourceState) (w : World) :
    ∃ result w' polls, l.awaitGone p conn c id timeout ⟨s, w⟩ = (result, ⟨s, w'⟩) ∧
      Traffic w polls w' ∧ (∀ e ∈ polls, e.Gets conn.client (c.object id)) ∧
      (result = .ok () ↔ ∃ e, polls.getLast? = some e ∧ e.Missing) := by
  have hread : Call.Sees (·.Gets conn.client (c.object id)) (l.fetch conn c id) := by
    intro w
    obtain ⟨es, hasked, -, hmissing⟩ := l.fetch_asked conn c id w
    exact ⟨es, hasked.traffic, hasked.request, hmissing⟩
  obtain ⟨outcome, w', polls, hrun, htraffic, hgets, hgone⟩ :=
    Step.await_removal p.status (l.waiter conn c id p.deleting [] timeout) rfl hread s w
  rw [awaitGone, run_bind, hrun]
  rcases outcome with failure | x
  · exact ⟨_, w', polls, rfl, htraffic, hgets, by simpa using hgone⟩
  · exact ⟨_, w', polls, rfl, htraffic, hgets, by simpa [run_pure] using hgone⟩

theorem delete_deletion {s : ResourceState} {id : String} (hid : s.id = some id) (w : World) :
    ∃ result w' deletes polls, l.delete conn ⟨s, w⟩ = (result, ⟨s, w'⟩) ∧
      Deletion conn ((l.place.collection s).map (·.object id)) l.phases.isSome w w' result
        deletes polls := by
  simp only [delete, run_bind, Step.ofState_run, ResourceState.requireId, hid]
  cases hcollection : l.place.collection s with
  | error failure => exact ⟨_, w, [], [], rfl, .of_refused w failure⟩
  | ok c =>
    obtain ⟨deletes, hasked, hok⟩ := conn.client.delete_asked (c.object id) w
    cases hdelete : (conn.client.delete (c.object id) w).1 with
    | error e =>
      simp only [Step.call_error ⟨s, w⟩ hdelete]
      refine ⟨_, _, deletes, [], rfl, .of_asked hasked ?_ (by simp)⟩
      simp [← hok, hdelete]
    | ok =>
      have haccepted := hok.mp hdelete
      simp only [Step.call_ok ⟨s, w⟩ hdelete]
      cases hphases : l.phases with
      | none =>
        refine ⟨_, _, deletes, [], rfl, .of_asked hasked ?_ (by simp)⟩
        simpa [run_pure] using haccepted
      | some p =>
        obtain ⟨result, w', polls, hrun, htraffic, hgets, hgone⟩ :=
          l.awaitGone_run conn p c id s.timeouts.delete s (conn.client.delete (c.object id) w).2
        simp only [run_bind, Step.ofState_run, hrun]
        exact ⟨result, w', deletes, polls, rfl,
          .of_accepted hasked haccepted htraffic hgets hgone⟩

end Lifecycle

theorem FirewallGroup.delete_deletion {conn : Connection} {s : ResourceState} {id : String}
    (hid : s.id = some id) (w : World) :
    ∃ result w' deletes polls, delete conn ⟨s, w⟩ = (result, ⟨s, w'⟩) ∧
      Deletion conn (.ok (groups ++ [id])) false w w' result deletes polls := by
  obtain ⟨deletes, hasked, hok⟩ := conn.client.delete_asked (groups ++ [id]) w
  simp only [delete, run_bind, Step.ofState_run, ResourceState.requireId, hid]
  cases hdelete : (conn.client.delete (groups ++ [id]) w).1 with
  | error e =>
    rw [Step.call_error ⟨s, w⟩ hdelete]
    exact ⟨_, _, deletes, [], rfl, .of_asked hasked (by simp [← hok, hdelete]) (by simp)⟩
  | ok =>
    rw [Step.call_ok ⟨s, w⟩ hdelete]
    exact ⟨_, _, deletes, [], rfl, .of_asked hasked (by simp [← hok, hdelete]) (by simp)⟩

namespace ResourceType

/-- The objects of the type are still there for a while after their deletion is accepted. -/
def lingers : ResourceType → Bool
  | kubernetesCluster | nodePool | loadBalancer | nasInstance | privateLan => true
  | dnsDomain | dnsRecord | emailIdentity | firewallGroup => false

theorem lingers_eq {t : ResourceType} {l : Lifecycle t.Object} (h : t.lifecycle? = some l) :
    t.lingers = l.phases.isSome := by
  cases t <;> cases h <;> rfl

theorem delete_deletion (t : ResourceType) (conn : Connection) {s : ResourceState} {id : String}
    (hid : s.id = some id) (w : World) :
    ∃ result w' deletes polls, t.resource.delete conn ⟨s, w⟩ = (result, ⟨s, w'⟩) ∧
      Deletion conn (t.objectPath id s) t.lingers w w' result deletes polls := by
  cases hlife : t.lifecycle? with
  | some l =>
    rw [resource_of_lifecycle? hlife, objectPath, hlife, lingers_eq hlife]
    exact l.delete_deletion conn hid w
  | none =>
    rw [objectPath, hlife]
    cases t with
    | firewallGroup => exact FirewallGroup.delete_deletion hid w
    | _ => cases hlife

end ResourceType

/-! ## The server -/

namespace Server

variable {env : Environment} {server : Server} {conn : Connection} {t : ResourceType}

theorem run_delete (hconn : server.connection = some conn) (prior : Json) (w : World) :
    server.run env (.delete t prior) w =
      (Diagnostics.report <$> (t.resource.deleted conn prior w).1, server,
        (t.resource.deleted conn prior w).2) := by
  unfold run connected
  rw [hconn]
  rfl

variable {prior : Json} {s : ResourceState} {id : String}

/-- A delete reports nothing if and only if the last answer to the deletion accepts it or misses the
object and, for what lingers, the last request of all is a look that misses it. Otherwise it reports
one error. Only deletions and looks at the object are sent. -/
theorem clean_delete_iff_gone (hconn : server.connection = some conn)
    (hid : (ResourceState.ofJson prior).id = some id)
    (hs : t.resource.prepared (ResourceState.ofJson prior) = .ok s) (w : World) :
    ∃ ds result w' deletes polls,
      server.run env (.delete t prior) w = (.ok (Diagnostics.report ds), server, w') ∧
      t.resource.delete conn ⟨s, w⟩ = (result, ⟨s, w'⟩) ∧
      Deletion conn (t.objectPath id s) t.lingers w w' result deletes polls ∧
      (ds = [] ↔ result = .ok ()) ∧ (ds = [] ∨ ∃ d, ds = [d] ∧ d.severity = .error) ∧
      (ds = [] →
        (∃ e r, deletes.getLast? = some e ∧ e.reply = .answer r ∧
          (200 ≤ r.status ∧ r.status < 300 ∨ r.status = 404)) ∧
        (t.lingers = true → ∃ segments e r, t.objectPath id s = .ok segments ∧
          (deletes ++ polls).getLast? = some e ∧ e.Gets conn.client segments ∧
          e.reply = .answer r ∧ r.status = 404)) ∧
      ∀ e ∈ deletes ++ polls, e.request.method ≠ .post ∧ e.request.method ≠ .patch := by
  obtain ⟨hexisting, hsid⟩ := Resource.preparedExisting_ok hid hs
  obtain ⟨result, w', deletes, polls, hrun, hdeletion⟩ := t.delete_deletion conn hsid w
  have hdeleted : t.resource.deleted conn prior w = (.ok (.ofResult result), w') := by
    simp only [Resource.deleted, hexisting, hrun]
  have hclean : Diagnostics.ofResult result = [] ↔ result = .ok () := by
    cases result <;> simp [Diagnostics.ofResult]
  rw [run_delete hconn, hdeleted]
  refine ⟨.ofResult result, result, w', deletes, polls, rfl, hrun, hdeletion, hclean, ?_, ?_, ?_⟩
  · rcases Diagnostics.ofResult_cases result with ⟨hnone, -⟩ | hone
    · exact .inl hnone
    · exact .inr hone
  · intro hnone
    obtain ⟨⟨e, he, haccepted⟩, hgone⟩ := hdeletion.gone.mp (hclean.mp hnone)
    refine ⟨⟨e, ?_⟩, fun hlingers => ?_⟩
    · rcases haccepted with ⟨v, hv⟩ | hmissing
      · obtain ⟨r, hr, hsuccess⟩ := Exchange.status_of_result hv
        exact ⟨r, he, hr, .inl hsuccess⟩
      · obtain ⟨r, hr, hstatus⟩ := e.missing_iff.mp hmissing
        exact ⟨r, he, hr, .inr hstatus⟩
    · obtain ⟨e', he', hmissing⟩ := hgone hlingers
      obtain ⟨segments, hpath, hgets⟩ := hdeletion.polled e' (List.mem_of_getLast? he')
      obtain ⟨r, hr, hstatus⟩ := e'.missing_iff.mp hmissing
      exact ⟨segments, e', r, hpath, by simp [List.getLast?_append, he'], hgets, hr, hstatus⟩
  · intro e he
    rcases List.mem_append.mp he with he | he
    · obtain ⟨_, -, hrequest⟩ := hdeletion.deleted e he
      simp [hrequest]
    · obtain ⟨_, -, hrequest⟩ := hdeletion.polled e he
      simp [show e.request = _ from hrequest]

/-- A network that is looked at once more while it is destroyed, and is missing the next time. -/
theorem clean_delete_of_lingering_lan :
    let server : Server := ⟨some .usual, false⟩
    let env : Environment := ⟨[], none, fun _ => .missing⟩
    let lan := "\x7b\"id\":\"l\",\"name\":\"lan\",\"region\":\"eu\",\"ip_range\":\"10.0.0.0/24\"," ++
      "\"status\":\"DESTROYING\"\x7d"
    let w : World := ⟨⟨true, [(.answer ⟨202, "", none⟩, 1), (.answer ⟨200, lan, none⟩, 1)]⟩, 0, []⟩
    let prior := Json.object [("id", .string "l")]
    ∃ w' es e r, server.run env (.delete .privateLan prior) w =
        (.ok (Diagnostics.report []), server, w') ∧
      Traffic w es w' ∧ es.getLast? = some e ∧
      e.Gets Connection.usual.client ["private-lans", "l"] ∧ e.reply = .answer r ∧ r.status = 404 := by
  intro server env lan w prior
  have hdeletes : ((ResourceType.privateLan.resource.prepared (.ofJson prior)).bind fun s =>
      (PrivateLan.lifecycle.delete .usual ⟨s, w⟩).1).isOk = true := by
    decide +kernel
  cases hs : ResourceType.privateLan.resource.prepared (.ofJson prior) with
  | error failure =>
    rw [hs] at hdeletes
    cases hdeletes
  | ok s =>
    rw [hs] at hdeletes
    obtain ⟨ds, result, w', deletes, polls, hserved, hrun, hdeletion, hclean, -, hgone, -⟩ :=
      @clean_delete_iff_gone env server .usual .privateLan prior s "l" rfl rfl hs w
    cases result with
    | error failure =>
      have hfails : (PrivateLan.lifecycle.delete .usual ⟨s, w⟩).1 = .error failure :=
        congrArg Prod.fst hrun
      rw [Except.bind, hfails] at hdeletes
      cases hdeletes
    | ok =>
      obtain rfl := hclean.mpr rfl
      obtain ⟨-, hlast⟩ := hgone rfl
      obtain ⟨segments, e, r, hpath, he, hgets, hr, hstatus⟩ := hlast rfl
      obtain rfl : ["private-lans", "l"] = segments := Except.ok.inj hpath
      exact ⟨w', deletes ++ polls, e, r, hserved, hdeletion.traffic, he, hgets, hr, hstatus⟩

end Server

end CloudProvider
