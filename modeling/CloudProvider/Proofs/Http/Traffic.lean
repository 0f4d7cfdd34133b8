import CloudProvider.Http.Client

/-!
# What goes over the network

The log of a world has the requests that went out. Together with the replies that the network still
has it says what each of them was answered.

* `Exchange`: a request that went out and the reply to it.
* `Traffic w es w'`: from `w` to `w'` exactly the exchanges `es` took place; the clock may have moved.
* `Traffic.trans`, `Traffic.unique`: traffic composes, and two worlds determine it.
* `World.exchange_of_reachable`: sending a request is one exchange.
-/

namespace CloudProvider
set_option autoImplicit false

/-- A request that went out and what the network did with it. -/
structure Exchange where
  request : Request
  reply : Reply

/-- What the sender of a request gets to see of a reply. -/
def Reply.received (q : Request) : Reply → Except Transport Response
  | .answer response => .ok response.withoutBody
  | .drop => .error (.dropped q.url)
  | .hang => .error (.timedOut q.url)

@[simp] theorem Response.status_withoutBody (r : Response) : r.withoutBody.status = r.status := by
  unfold withoutBody
  split <;> rfl

/-! ## Replies one after the other -/

/-- The replies to the next `n` requests, and the replies left after them. -/
def World.takeReplies : Nat → List (Reply × Nat) → List Reply × List (Reply × Nat)
  | 0, replies => ([], replies)
  | n + 1, replies =>
    let (reply, rest) := nextReply replies
    let (more, rest) := takeReplies n rest
    (reply :: more, rest)

theorem World.takeReplies_add (m n : Nat) (replies : List (Reply × Nat)) :
    takeReplies (m + n) replies =
      ((takeReplies m replies).1 ++ (takeReplies n (takeReplies m replies).2).1,
        (takeReplies n (takeReplies m replies).2).2) := by
  induction m generalizing replies with
  | zero => simp [takeReplies]
  | succ m ih =>
    have e : m + 1 + n = (m + n) + 1 := by omega
    rw [e]
    simp only [takeReplies, ih, List.cons_append]

/-! ## Pauses -/

@[simp] theorem World.sleep_network (d : Duration) (w : World) :
    (w.sleep d).network = w.network := by
  cases w
  rfl

@[simp] theorem World.sleep_log (d : Duration) (w : World) : (w.sleep d).log = w.log := by
  cases w
  rfl

@[simp] theorem World.clock_le_sleep (d : Duration) (w : World) : w.clock ≤ (w.sleep d).clock := by
  simp [World.sleep]

/-! ## Traffic -/

/-- From one world to the other exactly these exchanges took place. -/
structure Traffic (w : World) (es : List Exchange) (w' : World) : Prop where
  reachable : w'.network.reachable = w.network.reachable
  log : w'.log = w.log ++ es.map (·.request)
  replies :
    World.takeReplies es.length w.network.replies = (es.map (·.reply), w'.network.replies)
  clock : w.clock ≤ w'.clock
  silent : w.network.reachable = false → es = []

namespace Traffic

theorem refl (w : World) : Traffic w [] w :=
  ⟨rfl, by simp, rfl, Nat.le_refl _, fun _ => rfl⟩

theorem sleep (d : Duration) (w : World) : Traffic w [] (w.sleep d) :=
  ⟨by rw [World.sleep_network], by simp, by rw [World.sleep_network]; rfl, by simp, fun _ => rfl⟩

theorem delay (d : Duration) (w : World) :
    Traffic w [] (if d.nanos = 0 then w else w.sleep d) := by
  split
  · exact .refl _
  · exact .sleep _ _

theorem trans {w w₁ w₂ : World} {es es' : List Exchange} (h : Traffic w es w₁)
    (h' : Traffic w₁ es' w₂) : Traffic w (es ++ es') w₂ where
  reachable := h'.reachable.trans h.reachable
  log := by rw [h'.log, h.log, List.map_append, List.append_assoc]
  replies := by
    rw [List.length_append, World.takeReplies_add, h.replies, h'.replies, List.map_append]
  clock := Nat.le_trans h.clock h'.clock
  silent hw := by rw [h.silent hw, h'.silent (h.reachable.trans hw), List.append_nil]

/-- Two worlds determine the traffic between them. -/
theorem unique {w w' : World} {es es' : List Exchange} (h : Traffic w es w')
    (h' : Traffic w es' w') : es = es' := by
  have hreq : es.map (·.request) = es'.map (·.request) :=
    List.append_cancel_left (h.log.symm.trans h'.log)
  have hlen : es.length = es'.length := by simpa using congrArg List.length hreq
  have hrep : es.map (·.reply) = es'.map (·.reply) := by
    have hr := h.replies
    rw [hlen, h'.replies] at hr
    exact (congrArg Prod.fst hr).symm
  apply List.ext_getElem hlen
  intro i hi hi'
  have hq := List.getElem_of_eq hreq (by simpa using hi)
  have hp := List.getElem_of_eq hrep (by simpa using hi)
  simp only [List.getElem_map] at hq hp
  rw [show es[i] = ⟨es[i].request, es[i].reply⟩ from rfl, hq, hp]

end Traffic

/-! ## One request -/

theorem World.exchange_of_unreachable (q : Request) (w : World)
    (hw : w.network.reachable = false) :
    w.exchange q = (.error (.unreachable q.url), w) := by
  simp [World.exchange, hw]

theorem World.exchange_of_reachable (q : Request) (w : World) (hw : w.network.reachable = true) :
    ∃ reply w', w.exchange q = (reply.received q, w') ∧ Traffic w [⟨q, reply⟩] w' := by
  obtain ⟨reply, replies, hnext⟩ :
      ∃ reply replies, nextReply w.network.replies = (reply, replies) := ⟨_, _, rfl⟩
  let sent : World :=
    { w with network := { w.network with replies := replies }, log := w.log ++ [q] }
  have hsent : Traffic w [⟨q, reply⟩] sent := by
    refine ⟨rfl, rfl, ?_, Nat.le_refl _, ?_⟩
    · simp [takeReplies, hnext, sent]
    · simp [hw]
  cases reply with
  | answer response =>
    exact ⟨_, sent, by simp [World.exchange, hw, hnext, Reply.received, sent], hsent⟩
  | drop =>
    exact ⟨_, sent, by simp [World.exchange, hw, hnext, Reply.received, sent], hsent⟩
  | hang =>
    refine ⟨_, sent.sleep requestTimeout, ?_, hsent.trans (.sleep _ _)⟩
    simp [World.exchange, hw, hnext, Reply.received, sent]

end CloudProvider
