import CloudProvider.Proofs.Resource.Entries

/-!
# What lies ahead decides

Looking at a resource depends on the replies that are left, but neither on the clock nor on the requests
that went out before. The same calls of two clients are told apart by nothing but the requests that they
send.

* `World.Blind`: relations of requests and of worlds that calls cannot tell apart.
* `World.Alike`, `World.sameReplies_blind`: the same replies and the same time, or the same replies only.
* `Client.Like`, `Client.send_agree`, `Client.get_agree`, …: the calls of two clients.
* `Work.Related`: the states and the worlds are related.
* `Lifecycle.read_agree`, `ResourceType.read_alike`: reading a resource of any type.
-/

namespace CloudProvider
open Json
set_option autoImplicit false

/-! ## Worlds -/

/-- Calls cannot tell related requests in related worlds apart, and leave the worlds related. -/
structure World.Blind (Q : Request → Request → Prop) (R : World → World → Prop) : Prop where
  sleep : ∀ {w w' : World} (d : Duration), R w w' → R (w.sleep d) (w'.sleep d)
  url : ∀ {q q' : Request}, Q q q' → q.url = q'.url
  exchange : ∀ {q q' : Request} {w w' : World}, Q q q' → R w w' →
    (w.exchange q).1 = (w'.exchange q').1 ∧ R (w.exchange q).2 (w'.exchange q').2

/-- The same replies and the same time lie ahead of both. -/
structure World.Alike (w w' : World) : Prop where
  network : w.network = w'.network
  clock : w.clock = w'.clock

namespace World

variable {w w' : World} {q q' : Request}

/-- What is answered, and which replies are left, depends on the replies and on the URL only. -/
theorem exchange_network (hurl : q.url = q'.url) (h : w.network = w'.network) :
    (w.exchange q).1 = (w'.exchange q').1 ∧
      (w.exchange q).2.network = (w'.exchange q').2.network := by
  simp only [exchange, ← h, hurl]
  cases w.network.reachable with
  | false => exact ⟨rfl, h⟩
  | true =>
    simp only [Bool.not_true, Bool.false_eq_true, if_false]
    rcases nextReply w.network.replies with ⟨reply, replies⟩
    cases reply with
    | hang => exact ⟨rfl, by rw [sleep_network, sleep_network]⟩
    | _ => exact ⟨rfl, rfl⟩

theorem sameReplies_blind : Blind Eq fun w w' => w.network = w'.network where
  sleep _ h := h
  url := congrArg Request.url
  exchange hq h := exchange_network (congrArg Request.url hq) h

theorem exchange_clock (q q' : Request) (h : w.Alike w') :
    (w.exchange q).2.clock = (w'.exchange q').2.clock := by
  simp only [exchange, ← h.network]
  cases w.network.reachable with
  | false => exact h.clock
  | true =>
    simp only [Bool.not_true, Bool.false_eq_true, if_false]
    rcases nextReply w.network.replies with ⟨reply, replies⟩
    cases reply with
    | hang => exact congrArg (· + requestTimeout.millisCeil) h.clock
    | _ => exact h.clock

theorem Alike.sleep (h : w.Alike w') (d : Duration) : (w.sleep d).Alike (w'.sleep d) :=
  ⟨h.network, congrArg (· + d.millisCeil) h.clock⟩

theorem Alike.exchange (h : w.Alike w') (hurl : q.url = q'.url) :
    (w.exchange q).1 = (w'.exchange q').1 ∧ (w.exchange q).2.Alike (w'.exchange q').2 :=
  have hnetwork := exchange_network hurl h.network
  ⟨hnetwork.1, hnetwork.2, exchange_clock q q' h⟩

theorem alike_blind : Blind Eq Alike where
  sleep d h := h.sleep d
  url := congrArg Request.url
  exchange hq h := h.exchange (congrArg Request.url hq)

end World

/-! ## Calls -/

namespace Client

/-- The clients send related requests, and repeat them in the same way. -/
structure Like (Q : Request → Request → Prop) (c c' : Client) : Prop where
  retry : c.retry = c'.retry
  request : ∀ method segments body,
    SameEnd Q (c.request method segments body) (c'.request method segments body)

theorem Like.refl (c : Client) : c.Like Eq c where
  retry := rfl
  request method segments body := .refl (c.request method segments body)

variable {Q : Request → Request → Prop} {R : World → World → Prop} (hR : World.Blind Q R)
include hR

theorem attempt_agree {r r' : Except Transport Request} (hr : SameEnd Q r r') {w w' : World} (h : R w w') :
    (attempt r w).1 = (attempt r' w').1 ∧ R (attempt r w).2 (attempt r' w').2 := by
  cases hr with
  | failed failure => exact ⟨rfl, h⟩
  | @done q q' hq =>
    obtain ⟨answer, w₁, w₁', hrun, hrun', hnext⟩ := exists_outcome (hR.exchange hq h)
    simp only [attempt, hR.url hq, hrun, hrun']
    cases answer <;> exact ⟨rfl, hnext⟩

theorem sendFrom_agree {c c' : Client} (hretry : c.retry = c'.retry) (method : Method)
    {r r' : Except Transport Request} (hr : SameEnd Q r r') (left : Nat) :
    ∀ (done : Nat) (w w' : World), R w w' →
      (c.sendFrom method r done left w).1 = (c'.sendFrom method r' done left w').1 ∧
        R (c.sendFrom method r done left w).2 (c'.sendFrom method r' done left w').2 := by
  induction left with
  | zero =>
    intro done w w' h
    obtain ⟨⟨result, requested⟩, w₁, w₁', hrun, hrun', hnext⟩ :=
      exists_outcome (attempt_agree hR hr h)
    rw [sendFrom, sendFrom, hrun, hrun']
    cases result <;> exact ⟨rfl, hnext⟩
  | succ left ih =>
    intro done w w' h
    obtain ⟨⟨result, requested⟩, w₁, w₁', hrun, hrun', hnext⟩ :=
      exists_outcome (attempt_agree hR hr h)
    rw [sendFrom, sendFrom, hretry, hrun, hrun']
    cases result with
    | ok v => exact ⟨rfl, hnext⟩
    | error e =>
      dsimp only
      split
      · exact ⟨rfl, hnext⟩
      · cases pause? c'.retry requested done with
        | none => exact ⟨rfl, hnext⟩
        | some d => exact ih (done + 1) _ _ (hR.sleep d hnext)

variable {α : Type} {c c' : Client} (hc : c.Like Q c') (segments : List String) (decode : Decoder α)

omit hR in
theorem decoded_respects (v : Json) : Respects R (decoded decode v) := by
  unfold decoded
  cases decode v with
  | ok a => exact .pure a
  | error m => exact .throw _

include hc

theorem send_agree (method : Method) (body : Option Json) :
    Agree R (c.send method segments body) (c'.send method segments body) := by
  unfold send
  rw [hc.retry]
  exact sendFrom_agree hR hc.retry method (hc.request method segments body) _ 0

theorem get_agree : Agree R (c.get decode segments) (c'.get decode segments) :=
  (send_agree hR hc segments .get none).bind (decoded_respects decode)

theorem post_agree (body : Json) :
    Agree R (c.post decode segments body) (c'.post decode segments body) :=
  (send_agree hR hc segments .post (some body)).bind (decoded_respects decode)

theorem patch_agree (body : Json) :
    Agree R (c.patch decode segments body) (c'.patch decode segments body) :=
  (send_agree hR hc segments .patch (some body)).bind (decoded_respects decode)

theorem getOptional_agree :
    Agree R (c.getOptional decode segments) (c'.getOptional decode segments) := by
  refine ((get_agree hR hc segments decode).map some).tryCatch fun e => ?_
  split
  · exact .pure none
  · exact .throw e

theorem delete_agree : Agree R (c.delete segments) (c'.delete segments) := by
  refine ((send_agree hR hc segments .delete none).bind fun _ => .pure ()).tryCatch fun e => ?_
  split
  · exact .pure ()
  · exact .throw e

end Client

/-! ## Steps -/

/-- The states of a resource are related, and so are the worlds outside. -/
structure Work.Related (S : ResourceState → ResourceState → Prop) (R : World → World → Prop)
    (a b : Work) : Prop where
  state : S a.state b.state
  world : R a.world b.world

namespace Step

variable {α : Type} {S : ResourceState → ResourceState → Prop} {R : World → World → Prop}

theorem ofState_related {f : ResourceState → Except ProviderError α}
    (hf : ∀ s s', S s s' → f s = f s') : Respects (Work.Related S R) (ofState f) :=
  fun _ _ h => ⟨hf _ _ h.state, h⟩

theorem change_related {f : ResourceState → ResourceState} (hf : ∀ s s', S s s' → S (f s) (f s')) :
    Respects (Work.Related S R) (change f) :=
  fun _ _ h => ⟨rfl, hf _ _ h.state, h.world⟩

theorem call_agree {c c' : Call α} (hc : Agree R c c') :
    Agree (Work.Related S R) (call c) (call c') := by
  intro a b h
  obtain ⟨hresult, hnext⟩ := hc _ _ h.world
  rw [call_run, call_run, hresult]
  exact ⟨rfl, h.state, hnext⟩

theorem ofState_same (f : ResourceState → Except ProviderError α) :
    Respects (Work.Related Eq R) (ofState f) :=
  ofState_related fun _ _ => congrArg f

theorem change_same (f : ResourceState → ResourceState) :
    Respects (Work.Related Eq R) (change f) :=
  change_related fun _ _ => congrArg f

end Step

/-! ## Reading -/

section Reading

variable {Q : Request → Request → Prop} {R : World → World → Prop} (hR : World.Blind Q R)
  {conn conn' : Connection} (hclient : conn.client.Like Q conn'.client)
include hR hclient

namespace Lifecycle

variable {α : Type} (l : Lifecycle α)

theorem fetch_agree (c : Collection) (id : String) : Agree R (l.fetch conn c id) (l.fetch conn' c id) :=
  Client.getOptional_agree hR hclient _ _

theorem record_agree (c : Collection) (x : α) :
    Agree (Work.Related Eq R) (l.record conn c x) (l.record conn' c x) := by
  refine (Step.change_same _).bind fun _ => ?_
  unfold attach
  split
  · exact .pure ()
  · split
    · refine (Step.call_agree (Client.get_agree hR hclient _ _)).bind fun _ => Step.change_same _
    · exact .pure ()

theorem read_agree : Agree (Work.Related Eq R) (l.read conn) (l.read conn') := by
  refine (Step.ofState_same _).bind fun id => (Step.ofState_same _).bind fun c =>
    (Step.call_agree (l.fetch_agree hR hclient c id)).bind fun found => ?_
  cases found with
  | none => exact Step.change_same _
  | some x => exact l.record_agree hR hclient c x

end Lifecycle

namespace FirewallGroup

theorem read_agree : Agree (Work.Related Eq R) (read conn) (read conn') := by
  refine (Step.ofState_same _).bind fun id =>
    (Step.call_agree (Client.getOptional_agree hR hclient _ _)).bind fun found => ?_
  cases found with
  | none => exact Step.change_same _
  | some group =>
    exact (Step.call_agree (Client.get_agree hR hclient _ _)).bind fun _ => Step.change_same _

end FirewallGroup

theorem ResourceType.read_agree (t : ResourceType) :
    Agree (Work.Related Eq R) (t.resource.read conn) (t.resource.read conn') := by
  cases hlife : t.lifecycle? with
  | some l =>
    rw [resource_of_lifecycle? hlife]
    exact l.read_agree hR hclient
  | none =>
    cases t with
    | firewallGroup => exact FirewallGroup.read_agree hR hclient
    | _ => cases hlife

end Reading

theorem ResourceType.read_alike (t : ResourceType) (conn : Connection) :
    Respects (Work.Related Eq World.Alike) (t.resource.read conn) :=
  t.read_agree World.alike_blind (.refl conn.client)

end CloudProvider
