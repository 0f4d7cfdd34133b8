import CloudProvider.Proofs.Http.Traffic

/-!
# The attempts of a request

A request is repeated while that helps. The attempts of one call are listed in order, each with the
world before and after it.

* `Attempt`: one attempt; `Attempt.Repeatable`: the request may be repeated after it.
* `Client.Tries`: the attempts from some point on, and what they end in.
* `Client.sendFrom_tries`: the attempts of the loop, by recursion on those that are left.
* `Client.send_attempts`: what holds of the attempts of a call.
-/

namespace CloudProvider
set_option autoImplicit false

/-- One attempt: the world before it, what came back, and the world after it. -/
structure Attempt where
  before : World
  answer : Except Transport Response
  after : World

namespace Attempt

/-- The attempt was made with the request `r`. One that cannot be built is not sent. -/
def Made (r : Except Transport Request) (a : Attempt) : Prop :=
  match r with
  | .ok q => a.before.exchange q = (a.answer, a.after)
  | .error failure => a.answer = .error failure ∧ a.after = a.before

/-- What the attempt means for the caller. -/
def outcome (url : Url) (a : Attempt) : Except ApiError Json :=
  match a.answer with
  | .ok response => response.read url
  | .error failure => .error (.http failure)

/-- The answer has one of these statuses. -/
def Answered (statuses : List Nat) (a : Attempt) : Prop :=
  ∃ response, a.answer = .ok response ∧ response.status ∈ statuses

/-- The same request may have better luck later: another operation holds the object, the API is
busy, no connection could be made or no answer came in time. -/
def FailedForNow (a : Attempt) : Prop :=
  a.Answered [409, 429, 500, 502, 503, 504] ∨
    (∃ url, a.answer = .error (.unreachable url)) ∨ ∃ url, a.answer = .error (.timedOut url)

/-- The API did not act on the request. -/
def TurnedAway (a : Attempt) : Prop :=
  a.Answered [429, 503]

/-- The request may be repeated after the attempt. -/
def Repeatable (method : Method) (a : Attempt) : Prop :=
  a.FailedForNow ∧ (method = .post → a.TurnedAway)

/-- The pause that the answer asks for. -/
def requested (a : Attempt) : Option Duration :=
  match a.answer with
  | .ok response => Client.requestedPause response
  | .error _ => none

end Attempt

/-! ## What an answer means -/

theorem Response.read_of_retryable {response : Response} (url : Url)
    (h : response.status ∈ ApiError.retryableStatuses) :
    ∃ code text, response.read url = .error (.status response.status code text) := by
  have hne : response.status ≠ 404 := by
    intro e
    rw [e] at h
    exact absurd h (by decide)
  have hlarge : 300 ≤ response.status := by
    simp only [ApiError.retryableStatuses, List.mem_cons, List.not_mem_nil, or_false] at h
    omega
  exact ⟨(reportedError response).1, (reportedError response).2, by
    simp [Response.read, hne, hlarge]⟩

theorem Response.status_of_read {response : Response} {url : Url} {e : ApiError}
    (h : response.read url = .error e) (he : e.retryable = true) :
    response.status ∈ ApiError.retryableStatuses ∧ e.status? = some response.status := by
  simp only [Response.read] at h
  split at h
  · cases h
    exact absurd he (by simp [ApiError.retryable])
  · split at h
    · cases h
      exact ⟨by simpa [ApiError.retryable] using he, rfl⟩
    · split at h
      · cases h
      · split at h
        · cases h
        · cases h
          exact absurd he (by simp [ApiError.retryable])

namespace Attempt

theorem outcome_of_repeatable {method : Method} {a : Attempt} (url : Url)
    (h : a.Repeatable method) :
    ∃ e, a.outcome url = .error e ∧ Client.shouldRetry method e = true := by
  obtain ⟨hfailed, hpost⟩ := h
  obtain ⟨response, hanswer, hstatus⟩ | ⟨u, hanswer⟩ | ⟨u, hanswer⟩ := hfailed
  · obtain ⟨code, text, hread⟩ := Response.read_of_retryable url hstatus
    refine ⟨_, by simp only [outcome, hanswer]; exact hread, ?_⟩
    have hagain : (ApiError.status response.status code text).retryable = true := by
      exact List.elem_eq_true_of_mem hstatus
    by_cases hmethod : method = .post
    · obtain ⟨response', hanswer', hstatus'⟩ := hpost hmethod
      obtain rfl : response = response' := Except.ok.inj (hanswer.symm.trans hanswer')
      have htold : response.status = 429 ∨ response.status = 503 := by simpa using hstatus'
      simpa [Client.shouldRetry, hagain, hmethod, ApiError.status?] using htold
    · simp [Client.shouldRetry, hagain, hmethod]
  all_goals
    have hmethod : method ≠ .post := by
      intro e
      obtain ⟨response, hanswer', -⟩ := hpost e
      cases hanswer.symm.trans hanswer'
    exact ⟨_, by simp only [outcome, hanswer]; rfl,
      by simp [Client.shouldRetry, hmethod, ApiError.retryable, Transport.retryable]⟩

theorem repeatable_of_outcome {method : Method} {a : Attempt} {url : Url} {e : ApiError}
    (h : a.outcome url = .error e) (he : Client.shouldRetry method e = true) :
    a.Repeatable method := by
  have hagain : e.retryable = true := by
    simp only [Client.shouldRetry, Bool.and_eq_true] at he
    exact he.1
  have hpost : method = .post → e.status? = some 429 ∨ e.status? = some 503 := by
    intro hmethod
    simpa [Client.shouldRetry, hagain, hmethod] using he
  cases hanswer : a.answer with
  | ok response =>
    simp only [outcome, hanswer] at h
    obtain ⟨hstatus, hcarried⟩ := Response.status_of_read h hagain
    refine ⟨.inl ⟨response, hanswer, hstatus⟩, fun hmethod => ⟨response, hanswer, ?_⟩⟩
    rw [hcarried] at hpost
    simpa using hpost hmethod
  | error failure =>
    simp only [outcome, hanswer, Except.error.injEq] at h
    subst h
    refine ⟨.inr ?_, fun hmethod => absurd (hpost hmethod) (by simp [ApiError.status?])⟩
    cases failure with
    | unreachable u => exact .inl ⟨u, hanswer⟩
    | timedOut u => exact .inr ⟨u, hanswer⟩
    | badHeader | badScheme _ | dropped _ => exact absurd hagain (by simp [ApiError.retryable, Transport.retryable])

end Attempt

namespace Client

theorem attempt_eq {r : Except Transport Request} {url : Url}
    (hurl : ∀ q, r = .ok q → q.url = url) (w : World) :
    ∃ a : Attempt, a.Made r ∧ a.before = w ∧
      attempt r w = ((a.outcome url, a.requested), a.after) := by
  cases r with
  | error failure =>
    exact ⟨⟨w, .error failure, w⟩, ⟨rfl, rfl⟩, rfl, rfl⟩
  | ok q =>
    refine ⟨⟨w, (w.exchange q).1, (w.exchange q).2⟩, rfl, rfl, ?_⟩
    obtain rfl := hurl q rfl
    simp only [attempt, Attempt.outcome, Attempt.requested]
    rcases w.exchange q with ⟨_ | _, w'⟩ <;> rfl

/-! ## The loop -/

/-- The attempts after `done` that failed, with `left` that may follow, from the world `w` on. The
call ends in `result`. -/
inductive Tries (c : Client) (method : Method) (r : Except Transport Request) (url : Url) :
    Nat → Nat → World → Except ApiError Json × World → List Attempt → Prop
  /-- The attempt decides. -/
  | last {done left : Nat} {w : World} (a : Attempt) (hmade : a.Made r) (hstart : a.before = w)
      (hstop : left = 0 ∨ ¬ a.Repeatable method) :
      Tries c method r url done left w (a.outcome url, a.after) [a]
  /-- The pause before the next attempt cannot be represented. -/
  | endless {done left : Nat} {w : World} (a : Attempt) (hmade : a.Made r) (hstart : a.before = w)
      (hagain : a.Repeatable method) (hpause : pause? c.retry a.requested done = none) :
      Tries c method r url done (left + 1) w (.error .endlessDelay, a.after) [a]
  | next {done left : Nat} {w : World} {result : Except ApiError Json × World}
      {rest : List Attempt} (a : Attempt) (d : Duration) (hmade : a.Made r) (hstart : a.before = w)
      (hagain : a.Repeatable method) (hpause : pause? c.retry a.requested done = some d)
      (hrest : Tries c method r url (done + 1) left (a.after.sleep d) result rest) :
      Tries c method r url done (left + 1) w result (a :: rest)

theorem sendFrom_tries (c : Client) (method : Method) {r : Except Transport Request} {url : Url}
    (hurl : ∀ q, r = .ok q → q.url = url) (left : Nat) :
    ∀ (done : Nat) (w : World),
      ∃ attempts, c.Tries method r url done left w (c.sendFrom method r done left w) attempts := by
  induction left with
  | zero =>
    intro done w
    obtain ⟨a, hmade, hstart, heq⟩ := attempt_eq hurl w
    refine ⟨[a], ?_⟩
    have hresult : c.sendFrom method r done 0 w = (a.outcome url, a.after) := by
      unfold sendFrom
      rw [heq]
      cases a.outcome url <;> rfl
    rw [hresult]
    exact .last a hmade hstart (.inl rfl)
  | succ left ih =>
    intro done w
    obtain ⟨a, hmade, hstart, heq⟩ := attempt_eq hurl w
    unfold sendFrom
    rw [heq]
    cases houtcome : a.outcome url with
    | ok v =>
      have hstop : ¬ a.Repeatable method := by
        intro hagain
        obtain ⟨e, he, -⟩ := Attempt.outcome_of_repeatable url hagain
        cases houtcome.symm.trans he
      have hlast : c.Tries method r url done (left + 1) w (a.outcome url, a.after) [a] :=
        .last a hmade hstart (.inr hstop)
      rw [houtcome] at hlast
      exact ⟨[a], hlast⟩
    | error e =>
      by_cases hretry : shouldRetry method e = true
      · have hagain := Attempt.repeatable_of_outcome houtcome hretry
        simp only [hretry, Bool.not_true, Bool.false_eq_true, if_false]
        cases hpause : pause? c.retry a.requested done with
        | none => exact ⟨[a], .endless a hmade hstart hagain hpause⟩
        | some d =>
          obtain ⟨rest, hrest⟩ := ih (done + 1) (a.after.sleep d)
          exact ⟨a :: rest, .next a d hmade hstart hagain hpause hrest⟩
      · have hstop : ¬ a.Repeatable method := by
          intro hagain
          obtain ⟨e', he', hretry'⟩ := Attempt.outcome_of_repeatable url hagain
          cases houtcome.symm.trans he'
          exact hretry hretry'
        have hlast : c.Tries method r url done (left + 1) w (a.outcome url, a.after) [a] :=
          .last a hmade hstart (.inr hstop)
        rw [houtcome] at hlast
        exact ⟨[a], by simpa [hretry] using hlast⟩

namespace Tries

variable {c : Client} {method : Method} {r : Except Transport Request} {url : Url}
  {done left : Nat} {w : World} {result : Except ApiError Json × World} {attempts : List Attempt}

theorem length_pos (h : c.Tries method r url done left w result attempts) :
    1 ≤ attempts.length := by
  cases h <;> simp

theorem length_le (h : c.Tries method r url done left w result attempts) :
    attempts.length ≤ left + 1 := by
  induction h with
  | last => simp
  | endless => simp
  | next a d _ _ _ _ _ ih => simpa using ih

theorem made (h : c.Tries method r url done left w result attempts) :
    ∀ a ∈ attempts, a.Made r := by
  induction h with
  | last a hmade => simpa using hmade
  | endless a hmade => simpa using hmade
  | next a d hmade _ _ _ _ ih => simpa using ⟨hmade, ih⟩

theorem head (h : c.Tries method r url done left w result attempts) :
    ∃ a, attempts.head? = some a ∧ a.before = w := by
  cases h with
  | last a _ hstart => exact ⟨a, rfl, hstart⟩
  | endless a _ hstart => exact ⟨a, rfl, hstart⟩
  | next a _ _ hstart => exact ⟨a, rfl, hstart⟩

/-- The last attempt decides unless the pause after it cannot be represented; fewer attempts than
allowed mean that another would not help. -/
theorem getLast (h : c.Tries method r url done left w result attempts) :
    ∃ a, attempts.getLast? = some a ∧ result.2 = a.after ∧
      (result.1 = a.outcome url ∧ (attempts.length < left + 1 → ¬ a.Repeatable method) ∨
        result.1 = .error .endlessDelay ∧ a.Repeatable method ∧
          ∃ k, k < done + left ∧ c.retry.delay? k = none) := by
  induction h with
  | @last done left w a _ _ hstop =>
    refine ⟨a, rfl, rfl, .inl ⟨rfl, fun hfew => hstop.resolve_left ?_⟩⟩
    simp only [List.length_singleton] at hfew
    omega
  | @endless done left w a _ _ hagain hpause =>
    refine ⟨a, rfl, rfl, .inr ⟨rfl, hagain, done, by omega, ?_⟩⟩
    cases hrequested : a.requested with
    | some d => simp [hrequested, pause?] at hpause
    | none => simpa [hrequested, pause?] using hpause
  | @next done left w result rest a d _ _ _ _ hrest ih =>
    obtain ⟨b, hb, hworld, hcases⟩ := ih
    refine ⟨b, by rw [List.getLast?_cons, hb]; rfl, hworld, ?_⟩
    rcases hcases with ⟨hresult, hfew⟩ | ⟨hresult, hagain, k, hk, hnone⟩
    · exact .inl ⟨hresult, fun hlen => hfew (by simpa using hlen)⟩
    · exact .inr ⟨hresult, hagain, k, by omega, hnone⟩

theorem between (h : c.Tries method r url done left w result attempts) :
    ∀ (k : Nat) (a b : Attempt), attempts[k]? = some a → attempts[k + 1]? = some b →
      a.Repeatable method ∧
        ∃ d, pause? c.retry a.requested (done + k) = some d ∧ b.before = a.after.sleep d := by
  induction h with
  | last a => simp
  | endless a => simp
  | next a d hmade hstart hagain hpause hrest ih =>
    intro k a' b ha' hb
    cases k with
    | zero =>
      obtain rfl : a = a' := by simpa using ha'
      obtain ⟨b', hhead, hbefore⟩ := hrest.head
      obtain rfl : b' = b := by
        rw [List.head?_eq_getElem?] at hhead
        exact Option.some.inj (hhead.symm.trans (by simpa using hb))
      exact ⟨hagain, d, by simpa using hpause, hbefore⟩
    | succ k =>
      have hnext := ih k a' b (by simpa using ha') (by simpa using hb)
      rwa [Nat.add_right_comm, Nat.add_assoc] at hnext

theorem log (h : c.Tries method r url done left w result attempts) {q : Request} (hr : r = .ok q)
    (hw : w.network.reachable = true) :
    result.2.log = w.log ++ List.replicate attempts.length q := by
  have hsent (a : Attempt) (hmade : a.Made r) (hreachable : a.before.network.reachable = true) :
      a.after.log = a.before.log ++ [q] ∧ a.after.network.reachable = true := by
    obtain ⟨reply, w', hexchange, htraffic⟩ := World.exchange_of_reachable q a.before hreachable
    simp only [Attempt.Made, hr] at hmade
    obtain rfl : a.after = w' := congrArg Prod.snd (hmade.symm.trans hexchange)
    exact ⟨htraffic.log, htraffic.reachable.trans hreachable⟩
  induction h with
  | last a hmade hstart =>
    subst hstart
    simpa using (hsent a hmade hw).1
  | endless a hmade hstart =>
    subst hstart
    simpa using (hsent a hmade hw).1
  | next a d hmade hstart _ _ _ ih =>
    subst hstart
    obtain ⟨hlog, hreachable⟩ := hsent a hmade hw
    have hrest := ih (by simpa using hreachable)
    rw [hrest, World.sleep_log, hlog, List.length_cons, List.replicate_succ, List.append_assoc]
    rfl

end Tries

/-! ## The attempts of a call -/

theorem request_eq {c : Client} {method : Method} {segments : List String} {body : Option Json}
    {q : Request} (h : c.request method segments body = .ok q) :
    q = ⟨method, c.url segments, c.headers body, body⟩ := by
  simp only [request] at h
  split at h
  · cases h
  · split at h
    · exact (Except.ok.inj h).symm
    · cases h

theorem pause?_le {p : RetryPolicy} {requested : Option Duration} {k : Nat} {d : Duration}
    (h : pause? p requested k = some d) : d.nanos ≤ p.maxDelay.nanos := by
  have hmin (e : Duration) : (e.min p.maxDelay).nanos ≤ p.maxDelay.nanos := Nat.min_le_right _ _
  cases requested with
  | some e =>
    obtain rfl := Option.some.inj h
    exact hmin e
  | none =>
    obtain ⟨e, -, rfl⟩ := Option.map_eq_some_iff.mp h
    exact hmin e

/-- What holds of the attempts of a call from the world `w` that ends in `result`. -/
structure AttemptsOf (c : Client) (method : Method) (segments : List String) (body : Option Json)
    (w : World) (result : Except ApiError Json × World) (attempts : List Attempt) : Prop where
  least : 1 ≤ attempts.length
  most : attempts.length ≤ max 1 c.retry.maxAttempts
  /-- All attempts are made with one request. -/
  made : ∀ a ∈ attempts, a.Made (c.request method segments body)
  request : ∀ q, c.request method segments body = .ok q →
    q = ⟨method, c.url segments, c.headers body, body⟩
  /-- At a reachable network each attempt sends it once, and nothing else is sent. -/
  sent : ∀ q, c.request method segments body = .ok q → w.network.reachable = true →
    result.2.log = w.log ++ List.replicate attempts.length q
  first : ∃ a, attempts.head? = some a ∧ a.before = w
  last : ∃ a, attempts.getLast? = some a ∧ result = (a.outcome (c.url segments), a.after)
  /-- Every attempt but the last one failed for now; what is not idempotent was turned away. -/
  earlier : ∀ (k : Nat) (a b : Attempt), attempts[k]? = some a →
    attempts[k + 1]? = some b → a.FailedForNow ∧ (method = .post → a.TurnedAway)
  /-- The pause before the next attempt is the one asked for or the one of the policy. -/
  paused : ∀ (k : Nat) (a b : Attempt), attempts[k]? = some a →
    attempts[k + 1]? = some b → ∃ d, b.before = a.after.sleep d ∧ d.nanos ≤ c.retry.maxDelay.nanos ∧
      (∀ asked, a.requested = some asked → d = asked.min c.retry.maxDelay) ∧
      (a.requested = none → c.retry.delay? k = some d)
  /-- Attempts that are left are not made only if they would not help. -/
  stopped : attempts.length < max 1 c.retry.maxAttempts →
    ∀ a, attempts.getLast? = some a → ¬ a.Repeatable method
  /-- The API may have acted on one attempt to create something, but on no two. -/
  once : method = .post → ∀ (i j : Nat) (a b : Attempt), attempts[i]? = some a →
    attempts[j]? = some b → ¬ a.TurnedAway → ¬ b.TurnedAway → i = j

/-- Whatever comes back, a call makes attempts with one request, each after a failure that may pass
and the pause that belongs to it, and the last one decides. -/
theorem send_attempts (c : Client) (method : Method) (segments : List String) (body : Option Json)
    (w : World) (hdelay : ∀ k, k + 1 < c.retry.maxAttempts → c.retry.delay? k ≠ none) :
    ∃ attempts,
      c.AttemptsOf method segments body w (c.send method segments body w) attempts := by
  have hurl (q : Request) (hq : c.request method segments body = .ok q) :
      q.url = c.url segments := by
    rw [request_eq hq]
  obtain ⟨attempts, h⟩ := c.sendFrom_tries method hurl (c.retry.maxAttempts - 1) 0 w
  have hmax : c.retry.maxAttempts - 1 + 1 = max 1 c.retry.maxAttempts := by omega
  -- An attempt that is followed by another one is an earlier one in the sense of the loop.
  have hearlier (i j : Nat) (a b : Attempt) (hij : i < j) (ha : attempts[i]? = some a)
      (hb : attempts[j]? = some b) : a.Repeatable method := by
    have hlen : i + 1 < attempts.length := by
      have := (List.getElem?_eq_some_iff.mp hb).1
      omega
    exact (h.between i a attempts[i + 1] ha (List.getElem?_eq_getElem hlen)).1
  obtain ⟨last, hlast, hworld, hcases⟩ := h.getLast
  obtain ⟨hresult, hstop⟩ := hcases.resolve_right (by
    rintro ⟨-, -, k, hk, hnone⟩
    exact hdelay k (by omega) hnone)
  refine ⟨attempts, ?_⟩
  constructor
  case least => exact h.length_pos
  case most => exact hmax ▸ h.length_le
  case made => exact h.made
  case request => exact fun q hq => request_eq hq
  case sent => exact fun q hq hw => h.log hq hw
  case first => exact h.head
  case last => exact ⟨last, hlast, Prod.ext hresult hworld⟩
  case earlier =>
    intro k a b ha hb
    exact (h.between k a b ha hb).1
  case paused =>
    intro k a b ha hb
    obtain ⟨-, d, hpause, hbefore⟩ := h.between k a b ha hb
    rw [Nat.zero_add] at hpause
    refine ⟨d, hbefore, pause?_le hpause, ?_, ?_⟩
    · intro asked hasked
      rw [hasked] at hpause
      exact (Option.some.inj hpause).symm
    · intro hasked
      rw [hasked] at hpause
      exact hpause
  case stopped =>
    intro hfew a ha
    obtain rfl := Option.some.inj (ha.symm.trans hlast)
    exact hstop (hmax ▸ hfew)
  case once =>
    intro hpost i j a b ha hb hacted hacted'
    rcases Nat.lt_trichotomy i j with hij | hij | hij
    · exact absurd ((hearlier i j a b hij ha hb).2 hpost) hacted
    · exact hij
    · exact absurd ((hearlier j i b a hij hb ha).2 hpost) hacted'

/-- The delays of the usual policy can be represented, so that this holds where a first attempt to
create a network is turned away. -/
theorem send_attempts_turned_away :
    let c : Client :=
      ⟨⟨"https", some ⟨[], "api.fleetform.cloud".toList, none⟩, .segments [['v', '1']], none, none⟩,
        "secret", none, .default⟩
    let w : World :=
      ⟨⟨true, [(.answer ⟨503, "", some "2"⟩, 1), (.answer ⟨201, "{}", none⟩, 1)]⟩, 0, []⟩
    let body := Json.object [("name", .string "backend")]
    (∀ k, k + 1 < c.retry.maxAttempts → c.retry.delay? k ≠ none) ∧
      ∃ attempts, c.AttemptsOf .post ["private-lans"] (some body) w
        (c.send .post ["private-lans"] (some body) w) attempts := by
  intro c w body
  have hdelay : ∀ k, k + 1 < c.retry.maxAttempts → c.retry.delay? k ≠ none := by
    intro k hk
    have hsmall : k = 0 ∨ k = 1 := by
      have : c.retry.maxAttempts = 3 := rfl
      omega
    rcases hsmall with rfl | rfl <;> decide +kernel
  exact ⟨hdelay, send_attempts c .post ["private-lans"] (some body) w hdelay⟩

end Client

end CloudProvider
