import CloudProvider.Proofs.Http.Attempts
import CloudProvider.Proofs.Runs

/-!
# What calls send and what they return

Every call of the client asks for one thing, perhaps several times. What it returns is what the last
answer says.

* `Exchange.result`, `Exchange.Shows`: what an answer says.
* `Client.Asked`: the exchanges of a call, all with one request.
* `Client.send_asked`, `Client.get_asked`, `Client.post_asked`, …: one lemma for each call.
-/

namespace CloudProvider
open Json
set_option autoImplicit false

/-! ## What an answer says -/

/-- What the reply means for the sender. -/
def Exchange.result (e : Exchange) : Except ApiError Json :=
  match e.reply.received e.request with
  | .ok response => response.read e.request.url
  | .error failure => .error (.http failure)

/-- The reply is a success with a document in which `decode` finds `x`. -/
def Exchange.Shows {α : Type} (decode : Decoder α) (x : α) (e : Exchange) : Prop :=
  ∃ v, e.result = .ok v ∧ decode v = .ok x

/-- The reply says that there is no such object. -/
def Exchange.Missing (e : Exchange) : Prop :=
  ∃ path, e.result = .error (.notFound path)

theorem Exchange.missing_iff (e : Exchange) :
    e.Missing ↔ ∃ r, e.reply = .answer r ∧ r.status = 404 := by
  rw [Missing, result]
  cases hreply : e.reply with
  | drop => simp [Reply.received]
  | hang => simp [Reply.received]
  | answer r =>
    simp only [Reply.received, Reply.answer.injEq, exists_eq_left']
    by_cases hr : r.status = 404
    · simp [Response.read, hr]
    · simp only [Response.read, Response.status_withoutBody, hr, if_false, iff_false, not_exists]
      intro path
      split
      · simp
      · split
        · simp
        · split <;> simp

theorem Exchange.Missing.result_eq {e : Exchange} (h : e.Missing) :
    e.result = .error (.notFound e.request.url.pathText) := by
  obtain ⟨r, hreply, hstatus⟩ := e.missing_iff.mp h
  simp [result, hreply, Reply.received, Response.read, hstatus]

/-- The exchange asks for something and changes nothing. -/
def Exchange.Reads (e : Exchange) : Prop :=
  e.request.method = .get

theorem Exchange.Shows.unique {α : Type} {decode : Decoder α} {x y : α} {e : Exchange}
    (hx : e.Shows decode x) (hy : e.Shows decode y) : x = y := by
  obtain ⟨v, hv, hx⟩ := hx
  obtain ⟨v', hv', hy⟩ := hy
  obtain rfl := Except.ok.inj (hv.symm.trans hv')
  exact Except.ok.inj (hx.symm.trans hy)

theorem Exchange.Shows.not_missing {α : Type} {decode : Decoder α} {x : α} {e : Exchange}
    (hx : e.Shows decode x) : ¬ e.Missing := by
  rintro ⟨path, hpath⟩
  obtain ⟨v, hv, -⟩ := hx
  cases hv.symm.trans hpath

/-! ## Attempts are exchanges -/

namespace Attempt

variable {a : Attempt} {url : Url}

theorem exchange_of_made {q : Request} (hmade : a.Made (.ok q)) (hurl : q.url = url)
    (hw : a.before.network.reachable = true) :
    ∃ e : Exchange, Traffic a.before [e] a.after ∧ e.request = q ∧ a.outcome url = e.result := by
  obtain ⟨reply, w', hexchange, htraffic⟩ := World.exchange_of_reachable q a.before hw
  obtain ⟨hanswer, rfl⟩ := Prod.mk.inj ((show _ = _ from hmade).symm.trans hexchange)
  refine ⟨⟨q, reply⟩, htraffic, rfl, ?_⟩
  cases hreply : reply.received q <;>
    simp [outcome, Exchange.result, hanswer, hreply, hurl]

theorem retryable_of_repeatable {method : Method} {e : Exchange} (hagain : a.Repeatable method)
    (houtcome : a.outcome url = e.result) : ∃ err, e.result = .error err ∧ err.retryable = true := by
  obtain ⟨err, herr, hretry⟩ := outcome_of_repeatable url hagain
  refine ⟨err, houtcome.symm.trans herr, ?_⟩
  simp only [Client.shouldRetry, Bool.and_eq_true] at hretry
  exact hretry.1

end Attempt

namespace Client

/-- A request can be built and goes out. -/
def Reaches (c : Client) (method : Method) (segments : List String) (body : Option Json)
    (w : World) : Prop :=
  w.network.reachable = true ∧ ∃ q, c.request method segments body = .ok q

/-- Which document is sent does not matter for whether a request can be built. -/
theorem Reaches.of_body {c : Client} {method : Method} {segments : List String} {body body' : Json}
    {w w' : World} (h : c.Reaches method segments (some body) w)
    (hw : w'.network.reachable = true) : c.Reaches method segments (some body') w' := by
  obtain ⟨-, q, hq⟩ := h
  refine ⟨hw, ?_⟩
  have hheaders : c.headers (some body') = c.headers (some body) := rfl
  simp only [request, hheaders] at hq ⊢
  split at hq
  · cases hq
  · next hvalid =>
    split at hq
    · next hhttp => exact ⟨_, by rw [if_neg hvalid, if_pos hhttp]⟩
    · cases hq

/-- The exchanges of a call that asks for one thing. -/
structure Asked (c : Client) (method : Method) (segments : List String) (body : Option Json)
    (w : World) (es : List Exchange) (w' : World) : Prop where
  traffic : Traffic w es w'
  request : ∀ e ∈ es, e.request = ⟨method, c.url segments, c.headers body, body⟩
  sent : es ≠ [] ↔ c.Reaches method segments body w

/-! ## Sending -/

namespace Tries

variable {c : Client} {method : Method} {r : Except Transport Request} {url : Url}
  {done left : Nat} {w : World} {result : Except ApiError Json × World} {attempts : List Attempt}

theorem not_sent (h : c.Tries method r url done left w result attempts)
    (hr : (∃ failure, r = .error failure) ∨ w.network.reachable = false) :
    Traffic w [] result.2 ∧ ∃ failure, result.1 = .error (.http failure) ∨
      result.1 = .error .endlessDelay := by
  have hfails (a : Attempt) (hmade : a.Made r)
      (hr : (∃ failure, r = .error failure) ∨ a.before.network.reachable = false) :
      a.after = a.before ∧ ∃ failure, a.answer = .error failure := by
    cases r with
    | error failure => exact ⟨hmade.2, failure, hmade.1⟩
    | ok q =>
      have hw : a.before.network.reachable = false := by simpa using hr
      have hmade := (show _ = _ from hmade).symm.trans (World.exchange_of_unreachable q _ hw)
      obtain ⟨hanswer, hafter⟩ := Prod.mk.inj hmade
      exact ⟨hafter, _, hanswer⟩
  induction h with
  | last a hmade hstart =>
    subst hstart
    obtain ⟨hafter, failure, hanswer⟩ := hfails a hmade hr
    exact ⟨hafter ▸ .refl _, failure, .inl (by simp only [Attempt.outcome, hanswer])⟩
  | endless a hmade hstart =>
    subst hstart
    obtain ⟨hafter, failure, -⟩ := hfails a hmade hr
    exact ⟨hafter ▸ .refl _, failure, .inr rfl⟩
  | next a d hmade hstart _ _ _ ih =>
    subst hstart
    obtain ⟨hafter, -⟩ := hfails a hmade hr
    rw [hafter] at ih
    obtain ⟨htraffic, hresult⟩ := ih (by simpa using hr)
    exact ⟨(Traffic.sleep d a.before).trans htraffic, hresult⟩

/-- Each attempt at a reachable network is an exchange. All but the last one failed for now, and the
last one decides. -/
theorem exchanges (h : c.Tries method r url done left w result attempts) {q : Request}
    (hr : r = .ok q) (hurl : q.url = url) (hw : w.network.reachable = true) :
    ∃ es e, Traffic w (es ++ [e]) result.2 ∧ (∀ e' ∈ es ++ [e], e'.request = q) ∧
      (∀ e' ∈ es, ∃ err, e'.result = .error err ∧ err.retryable = true) ∧
      (result.1 = e.result ∨
        result.1 = .error .endlessDelay ∧ ∃ err, e.result = .error err ∧ err.retryable = true) := by
  induction h with
  | last a hmade hstart =>
    subst hstart
    obtain ⟨e, htraffic, hrequest, houtcome⟩ := Attempt.exchange_of_made (hr ▸ hmade) hurl hw
    exact ⟨[], e, htraffic, by simpa using hrequest, by simp, .inl houtcome⟩
  | endless a hmade hstart hagain =>
    subst hstart
    obtain ⟨e, htraffic, hrequest, houtcome⟩ := Attempt.exchange_of_made (hr ▸ hmade) hurl hw
    exact ⟨[], e, htraffic, by simpa using hrequest, by simp,
      .inr ⟨rfl, Attempt.retryable_of_repeatable hagain houtcome⟩⟩
  | next a d hmade hstart hagain _ _ ih =>
    subst hstart
    obtain ⟨e, htraffic, hrequest, houtcome⟩ := Attempt.exchange_of_made (hr ▸ hmade) hurl hw
    have hreachable := htraffic.reachable.trans hw
    obtain ⟨es, e', htraffic', hrequest', hearlier, hresult⟩ := ih (by simpa using hreachable)
    refine ⟨e :: es, e', ?_, ?_, ?_, hresult⟩
    · exact htraffic.trans ((Traffic.sleep d a.after).trans htraffic')
    · simpa using ⟨hrequest, by simpa using hrequest'⟩
    · simpa using ⟨Attempt.retryable_of_repeatable hagain houtcome, hearlier⟩

end Tries

variable (c : Client) (segments : List String) (w : World)

/-- The last answer to a request decides: a success, or that there is no such object. -/
theorem send_asked (method : Method) (body : Option Json) :
    ∃ es, c.Asked method segments body w es (c.send method segments body w).2 ∧
      (∀ v, (c.send method segments body w).1 = .ok v ↔
        ∃ e, es.getLast? = some e ∧ e.result = .ok v) ∧
      (∀ path, (c.send method segments body w).1 = .error (.notFound path) ↔
        ∃ e, es.getLast? = some e ∧ e.result = .error (.notFound path)) := by
  have hurl (q : Request) (hq : c.request method segments body = .ok q) :
      q.url = c.url segments := by
    rw [request_eq hq]
  obtain ⟨attempts, h⟩ := c.sendFrom_tries method hurl (c.retry.maxAttempts - 1) 0 w
  by_cases hreaches : c.Reaches method segments body w
  · have ⟨hw, q, hq⟩ := hreaches
    obtain ⟨es, e, htraffic, hrequest, -, hresult⟩ := h.exchanges hq (hurl q hq) hw
    refine ⟨es ++ [e], ⟨htraffic, ?_, by simp [hreaches]⟩, ?_, ?_⟩
    · intro e he
      rw [hrequest e he, request_eq hq]
    all_goals
      intro v
      simp only [List.getLast?_concat, Option.some.injEq, exists_eq_left']
      rcases hresult with hresult | ⟨hresult, err, herr, hretry⟩
      · rw [← hresult]
        rfl
    · refine ⟨fun hv => ?_, fun hv => ?_⟩
      · cases hresult.symm.trans hv
      · cases herr.symm.trans hv
    · refine ⟨fun hv => ?_, fun hv => ?_⟩
      · cases hresult.symm.trans hv
      · cases herr.symm.trans hv
        cases hretry
  · have hr : (∃ failure, c.request method segments body = .error failure) ∨
        w.network.reachable = false := by
      by_cases hw : w.network.reachable = true
      · refine .inl ?_
        cases hq : c.request method segments body with
        | error failure => exact ⟨failure, rfl⟩
        | ok q => exact absurd ⟨hw, q, hq⟩ hreaches
      · exact .inr (by simpa using hw)
    obtain ⟨htraffic, failure, hresult⟩ := h.not_sent hr
    have herr : ∃ err, (c.send method segments body w).1 = .error err ∧
        ∀ path, err ≠ .notFound path := by
      rcases hresult with hresult | hresult <;> exact ⟨_, hresult, by simp⟩
    obtain ⟨err, herr, hne⟩ := herr
    refine ⟨[], ⟨htraffic, by simp, by simp [hreaches]⟩, ?_, ?_⟩
    · simp [herr]
    · simpa [herr] using hne

variable {segments w} in
theorem send_missing_last {method : Method} {body : Option Json} {es : List Exchange}
    (htraffic : Traffic w es (c.send method segments body w).2) {e : Exchange} (he : e ∈ es)
    (hmissing : e.Missing) : es.getLast? = some e := by
  obtain ⟨es', hasked, -⟩ := c.send_asked segments w method body
  obtain rfl := htraffic.unique hasked.traffic
  obtain ⟨hw, q, hq⟩ := hasked.sent.mp (List.ne_nil_of_mem he)
  have hurl (q : Request) (hq : c.request method segments body = .ok q) :
      q.url = c.url segments := by
    rw [request_eq hq]
  obtain ⟨attempts, h⟩ := c.sendFrom_tries method hurl (c.retry.maxAttempts - 1) 0 w
  obtain ⟨earlier, last, htraffic', -, hearlier, -⟩ := h.exchanges hq (hurl q hq) hw
  obtain rfl := htraffic.unique htraffic'
  rcases List.mem_append.mp he with he | he
  · obtain ⟨err, herr, hretry⟩ := hearlier e he
    obtain ⟨path, hpath⟩ := hmissing
    cases herr.symm.trans hpath
    cases hretry
  · rw [List.getLast?_concat, List.mem_singleton.mp he]

/-! ## Decoded answers -/

variable {α : Type} (decode : Decoder α)

theorem bind_decoded (call : Call Json) :
    (∀ x, ((call >>= decoded decode) w).1 = .ok x ↔
      ∃ v, (call w).1 = .ok v ∧ decode v = .ok x) ∧
    (∀ path, ((call >>= decoded decode) w).1 = .error (.notFound path) ↔
      (call w).1 = .error (.notFound path)) ∧
    ((call >>= decoded decode) w).2 = (call w).2 := by
  rw [run_bind]
  rcases call w with ⟨e | v, w'⟩
  · refine ⟨fun x => ⟨fun h => ?_, fun h => ?_⟩, fun path => by simp, rfl⟩
    · cases h
    · obtain ⟨v, hv, -⟩ := h
      cases hv
  · cases hdecode : decode v with
    | ok a =>
      have hrun : decoded decode v w' = (.ok a, w') := by
        simp only [decoded, hdecode, run_pure]
      simp [hrun, hdecode]
    | error m =>
      have hrun : decoded decode v w' = (.error (.decode m.message), w') := by
        simp only [decoded, hdecode, run_throw]
      simp [hrun, hdecode]

/-- A call whose answer is decoded returns what the last answer shows. -/
theorem ask_asked (method : Method) (body : Option Json) :
    let call : Call α := c.send method segments body >>= decoded decode
    ∃ es, c.Asked method segments body w es (call w).2 ∧
      (∀ x, (call w).1 = .ok x ↔ ∃ e, es.getLast? = some e ∧ e.Shows decode x) ∧
      (∀ path, (call w).1 = .error (.notFound path) ↔
        ∃ e, es.getLast? = some e ∧ e.result = .error (.notFound path)) := by
  intro call
  obtain ⟨es, hasked, hok, hmissing⟩ := c.send_asked segments w method body
  obtain ⟨hdecoded, hnot, hworld⟩ := bind_decoded w decode (c.send method segments body)
  refine ⟨es, hworld ▸ hasked, fun x => ?_, fun path => (hnot path).trans (hmissing path)⟩
  rw [hdecoded x]
  constructor
  · rintro ⟨v, hv, hx⟩
    obtain ⟨e, he, hresult⟩ := (hok v).mp hv
    exact ⟨e, he, v, hresult, hx⟩
  · rintro ⟨e, he, v, hresult, hx⟩
    exact ⟨v, (hok v).mpr ⟨e, he, hresult⟩, hx⟩

theorem get_asked :
    ∃ es, c.Asked .get segments none w es (c.get decode segments w).2 ∧
      (∀ x, (c.get decode segments w).1 = .ok x ↔
        ∃ e, es.getLast? = some e ∧ e.Shows decode x) ∧
      (∀ path, (c.get decode segments w).1 = .error (.notFound path) ↔
        ∃ e, es.getLast? = some e ∧ e.result = .error (.notFound path)) :=
  c.ask_asked segments w decode .get none

variable {c segments w decode} in
theorem get_missing {es : List Exchange} (htraffic : Traffic w es (c.get decode segments w).2)
    {e : Exchange} (he : e ∈ es) (hmissing : e.Missing) :
    (c.get decode segments w).1 = .error (.notFound e.request.url.pathText) := by
  have hworld := (bind_decoded w decode (c.send .get segments none)).2.2
  have hlast := c.send_missing_last (hworld ▸ htraffic) he hmissing
  obtain ⟨es', hasked, -, hnot⟩ := c.get_asked segments w decode
  obtain rfl := htraffic.unique hasked.traffic
  exact (hnot _).mpr ⟨e, hlast, hmissing.result_eq⟩

theorem post_asked (body : Json) :
    ∃ es, c.Asked .post segments (some body) w es (c.post decode segments body w).2 ∧
      ∀ x, (c.post decode segments body w).1 = .ok x ↔
        ∃ e, es.getLast? = some e ∧ e.Shows decode x := by
  obtain ⟨es, hasked, hok, -⟩ := c.ask_asked segments w decode .post (some body)
  exact ⟨es, hasked, hok⟩

theorem patch_asked (body : Json) :
    ∃ es, c.Asked .patch segments (some body) w es (c.patch decode segments body w).2 ∧
      ∀ x, (c.patch decode segments body w).1 = .ok x ↔
        ∃ e, es.getLast? = some e ∧ e.Shows decode x := by
  obtain ⟨es, hasked, hok, -⟩ := c.ask_asked segments w decode .patch (some body)
  exact ⟨es, hasked, hok⟩

theorem run_getOptional :
    c.getOptional decode segments w =
      (match (c.get decode segments w).1 with
        | .ok x => .ok (some x)
        | .error (.notFound _) => .ok none
        | .error e => .error e, (c.get decode segments w).2) := by
  rw [getOptional, run_tryCatch, run_map]
  rcases c.get decode segments w with ⟨e | x, w'⟩
  · cases e <;> rfl
  · rfl

theorem getOptional_asked :
    ∃ es, c.Asked .get segments none w es (c.getOptional decode segments w).2 ∧
      (∀ x, (c.getOptional decode segments w).1 = .ok (some x) ↔
        ∃ e, es.getLast? = some e ∧ e.Shows decode x) ∧
      ((c.getOptional decode segments w).1 = .ok none ↔
        ∃ e, es.getLast? = some e ∧ e.Missing) := by
  obtain ⟨es, hasked, hok, hmissing⟩ := c.get_asked segments w decode
  rw [run_getOptional]
  refine ⟨es, hasked, ?_, ?_⟩
  · intro x
    rw [← hok x]
    cases (c.get decode segments w).1 with
    | ok y => simp
    | error e => cases e <;> simp
  · have hiff : (∃ e, es.getLast? = some e ∧ e.Missing) ↔
        ∃ path, (c.get decode segments w).1 = .error (.notFound path) := by
      constructor
      · rintro ⟨e, he, path, hpath⟩
        exact ⟨path, (hmissing path).mpr ⟨e, he, hpath⟩⟩
      · rintro ⟨path, hpath⟩
        obtain ⟨e, he, hresult⟩ := (hmissing path).mp hpath
        exact ⟨e, he, path, hresult⟩
    rw [hiff]
    cases (c.get decode segments w).1 with
    | ok y => simp
    | error e => cases e <;> simp

variable {c segments w decode} in
theorem getOptional_missing {es : List Exchange}
    (htraffic : Traffic w es (c.getOptional decode segments w).2) {e : Exchange} (he : e ∈ es)
    (hmissing : e.Missing) : (c.getOptional decode segments w).1 = .ok none := by
  rw [run_getOptional] at htraffic ⊢
  rw [get_missing htraffic he hmissing]

theorem run_delete :
    c.delete segments w =
      (match (c.send .delete segments none w).1 with
        | .ok _ => .ok ()
        | .error (.notFound _) => .ok ()
        | .error e => .error e, (c.send .delete segments none w).2) := by
  rw [delete, run_tryCatch, run_bind]
  rcases c.send .delete segments none w with ⟨e | x, w'⟩
  · cases e <;> rfl
  · rfl

/-- An object counts as deleted if the last answer is a success or says that it is not there. -/
theorem delete_asked :
    ∃ es, c.Asked .delete segments none w es (c.delete segments w).2 ∧
      ((c.delete segments w).1 = .ok () ↔
        ∃ e, es.getLast? = some e ∧ ((∃ v, e.result = .ok v) ∨ e.Missing)) := by
  obtain ⟨es, hasked, hok, hmissing⟩ := c.send_asked segments w .delete none
  rw [run_delete]
  refine ⟨es, hasked, ?_⟩
  have hiff : (∃ e, es.getLast? = some e ∧ ((∃ v, e.result = .ok v) ∨ e.Missing)) ↔
      (∃ v, (c.send .delete segments none w).1 = .ok v) ∨
        ∃ path, (c.send .delete segments none w).1 = .error (.notFound path) := by
    constructor
    · rintro ⟨e, he, ⟨v, hv⟩ | ⟨path, hpath⟩⟩
      · exact .inl ⟨v, (hok v).mpr ⟨e, he, hv⟩⟩
      · exact .inr ⟨path, (hmissing path).mpr ⟨e, he, hpath⟩⟩
    · rintro (⟨v, hv⟩ | ⟨path, hpath⟩)
      · obtain ⟨e, he, hresult⟩ := (hok v).mp hv
        exact ⟨e, he, .inl ⟨v, hresult⟩⟩
      · obtain ⟨e, he, hresult⟩ := (hmissing path).mp hpath
        exact ⟨e, he, .inr ⟨path, hresult⟩⟩
  rw [hiff]
  cases (c.send .delete segments none w).1 with
  | ok v => simp
  | error e => cases e <;> simp

end Client

end CloudProvider
