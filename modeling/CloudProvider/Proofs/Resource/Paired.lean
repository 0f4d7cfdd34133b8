import CloudProvider.Host.Outcome
import CloudProvider.Proofs.Resource.Ahead

/-!
# The same operation over two connections

Every operation on a resource ends alike over two connections that differ in nothing but what calls
cannot tell apart.

* `Connection.Like`: connections whose clients are alike.
* `Waiter.poll_agree`, `Waiter.wait_agree`, `Step.await_agree`: waiting.
* `Lifecycle.create_agree`, `FirewallGroup.create_agree`, …: the operations of each type.
* `Resource.Paired`, `ResourceType.paired`: all operations of a type.
* `Resource.look_agree`, `Resource.Paired.created`, `Resource.Paired.updated`, …: their outcomes.
-/

namespace CloudProvider
set_option autoImplicit false

/-- The clients are alike, and resources fall back on the same. -/
structure Connection.Like (Q : Request → Request → Prop) (conn conn' : Connection) : Prop where
  client : conn.client.Like Q conn'.client
  region : conn.region = conn'.region
  pollInterval : conn.pollInterval = conn'.pollInterval

/-- The worlds cannot be told apart, and the same lies ahead of both. -/
structure World.Twins (Q : Request → Request → Prop) (R : World → World → Prop) : Prop
    extends World.Blind Q R where
  alike : ∀ {w w' : World}, R w w' → w.Alike w'

/-! ## Waiting -/

section Waiter

variable {σ α : Type} {R : σ → σ → Prop} (o o' : Observer σ α)
  (hread : ∀ s s', R s s' → (o.read s).1 = (o'.read s').1 ∧ R (o.read s).2 (o'.read s').2)
  (hnow : ∀ s s', R s s' → o.now s = o'.now s')
  (hsleep : ∀ d s s', R s s' → R (o.sleep d s) (o'.sleep d s'))
include hread hnow hsleep

theorem Waiter.poll_agree (waiter : Waiter) (deadline : Nat) :
    ∀ (budget : Nat) (p : Progress) (s s' : σ), R s s' →
      (waiter.poll o deadline budget p s).1 = (waiter.poll o' deadline budget p s').1 ∧
        R (waiter.poll o deadline budget p s).2 (waiter.poll o' deadline budget p s').2 := by
  intro budget
  induction budget with
  | zero => exact fun p s s' h => ⟨rfl, h⟩
  | succ budget ih =>
    intro p s s' h
    obtain ⟨hreading, hnext⟩ := hread s s' h
    simp only [poll, hreading]
    rcases waiter.judge p (o'.read s').1 with result | p
    · exact ⟨rfl, hnext⟩
    · dsimp only
      rw [hnow _ _ hnext]
      split
      · exact ⟨rfl, hnext⟩
      · exact ih p _ _ (hsleep _ _ _ hnext)

theorem Waiter.wait_agree (waiter : Waiter) (more : Nat) (s s' : σ) (h : R s s') :
    (waiter.wait o more s).1 = (waiter.wait o' more s').1 ∧
      R (waiter.wait o more s).2 (waiter.wait o' more s').2 := by
  have hstart : R (waiter.delayed o s) (waiter.delayed o' s') := by
    unfold delayed
    split
    · exact h
    · exact hsleep _ _ _ h
  rw [wait, wait, deadline, deadline, hnow s s' h]
  exact waiter.poll_agree o o' hread hnow hsleep _ _ _ _ _ hstart

end Waiter

variable {Q : Request → Request → Prop} {R : World → World → Prop}

theorem Step.look_agree {α : Type} {read read' : Call (Option α)} (hread : Agree R read read')
    (status : α → String) (w w' : World) (h : R w w') :
    (look read status w).1 = (look read' status w').1 ∧
      R (look read status w).2 (look read' status w').2 := by
  obtain ⟨found, w₁, w₁', hrun, hrun', hnext⟩ := exists_outcome (hread w w' h)
  rw [look, look, hrun, hrun']
  rcases found with e | _ | x <;> exact ⟨rfl, hnext⟩

variable (hR : World.Twins Q R)
include hR

/-- A wait starts from the same time and the same number of replies, and so ends alike. -/
theorem Step.await_agree {α : Type} (waiter : Waiter) {read read' : Call (Option α)}
    (hread : Agree R read read') (status : α → String) :
    Agree (Work.Related Eq R) (await waiter read status) (await waiter read' status) := by
  rintro ⟨s, w⟩ ⟨s', w'⟩ ⟨rfl : s = s', h⟩
  have hcount : w.replyCount = w'.replyCount := by
    rw [World.replyCount, World.replyCount, (hR.alike h).network]
  have hwait := waiter.wait_agree ⟨look read status, World.nanos, World.sleep⟩
    ⟨look read' status, World.nanos, World.sleep⟩ (look_agree hread status)
    (fun _ _ h => congrArg (· * 1000000) (hR.alike h).clock) (fun d _ _ h => hR.sleep d h) w.replyCount w w' h
  unfold await
  dsimp only
  rw [← hcount]
  exact ⟨congrArg waiter.conclude hwait.1, rfl, hwait.2⟩

/-! ## The types -/

variable {conn conn' : Connection} (hconn : conn.Like Q conn')
include hconn

namespace Lifecycle

variable {α : Type} (l : Lifecycle α)

theorem await_agree (c : Collection) (id : String) (pending targets : List String) (timeout : Duration)
    (status : α → String) :
    Agree (Work.Related Eq R)
      (Step.await (l.waiter conn c id pending targets timeout) (l.fetch conn c id) status)
      (Step.await (l.waiter conn' c id pending targets timeout) (l.fetch conn' c id) status) := by
  rw [waiter, waiter, hconn.pollInterval]
  exact Step.await_agree hR _ (l.fetch_agree hR.toBlind hconn.client c id) status

theorem settle_agree (c : Collection) (id : String) (pending : Phases α → List String)
    (timeout : Timeouts → Duration) (x : α) :
    Agree (Work.Related Eq R) (l.settle conn c id pending timeout x)
      (l.settle conn' c id pending timeout x) := by
  have hrecord := l.record_agree hR.toBlind hconn.client c
  unfold settle
  split
  · exact hrecord x
  · refine (Step.ofState_same _).bind fun deadline => .bind ?_ hrecord
    refine (l.await_agree hR hconn c id _ _ deadline _).bind fun found => ?_
    cases found with
    | some y => exact .pure y
    | none => exact .throw _

theorem create_agree : Agree (Work.Related Eq R) (l.create conn) (l.create conn') := by
  unfold create
  rw [hconn.region]
  refine (Step.ofState_same _).bind fun c => (Step.ofState_same _).bind fun body => ?_
  refine (Step.call_agree (Client.post_agree hR.toBlind hconn.client _ _ body)).bind fun x => ?_
  exact (Step.change_same _).bind fun _ => l.settle_agree hR hconn c _ _ _ x

theorem update_agree : Agree (Work.Related Eq R) (l.update conn) (l.update conn') := by
  refine (Step.ofState_same _).bind fun id => (Step.ofState_same _).bind fun c =>
    (Step.ofState_same _).bind fun changed => ?_
  cases changed with
  | false => exact l.read_agree hR.toBlind hconn.client
  | true =>
    refine (Step.ofState_same _).bind fun body => ?_
    refine (Step.call_agree (Client.patch_agree hR.toBlind hconn.client _ _ body)).bind fun x => ?_
    exact l.settle_agree hR hconn c id _ _ x

theorem delete_agree : Agree (Work.Related Eq R) (l.delete conn) (l.delete conn') := by
  refine (Step.ofState_same _).bind fun id => (Step.ofState_same _).bind fun c => ?_
  refine (Step.call_agree (Client.delete_agree hR.toBlind hconn.client _)).bind fun _ => ?_
  split
  · exact .pure ()
  · refine (Step.ofState_same _).bind fun deadline => ?_
    exact (l.await_agree hR hconn c id _ _ deadline _).bind fun _ => .pure ()

end Lifecycle

namespace FirewallGroup

theorem syncRules_agree (group : String) :
    Agree (Work.Related Eq R) (syncRules conn group) (syncRules conn' group) := by
  refine (Step.ofState_same _).bind fun wanted => ?_
  refine (Step.call_agree (Client.get_agree hR.toBlind hconn.client _ _)).bind fun found => ?_
  refine .bind (.forM (fun rule => ?_) _) fun _ => .forM (fun content => ?_) _
  · exact Step.call_agree (Client.delete_agree hR.toBlind hconn.client _)
  · exact (Step.call_agree (Client.post_agree hR.toBlind hconn.client _ _ _)).bind fun _ => .pure _

theorem create_agree : Agree (Work.Related Eq R) (create conn) (create conn') := by
  refine (Step.ofState_same _).bind fun wanted => (Step.ofState_same _).bind fun body => ?_
  refine (Step.call_agree (Client.post_agree hR.toBlind hconn.client _ _ body)).bind fun group => ?_
  refine (Step.change_same _).bind fun _ => (syncRules_agree hR hconn group.id).bind fun _ => ?_
  exact read_agree hR.toBlind hconn.client

theorem update_agree : Agree (Work.Related Eq R) (update conn) (update conn') := by
  -- What comes after the description is the same whether or not it was sent.
  have hrules (id : String) : Agree (Work.Related Eq R)
      (do
        if ← Step.ofState fun s => .ok (s.hasChange "rule") then
          syncRules conn id
        read conn : Step Unit)
      (do
        if ← Step.ofState fun s => .ok (s.hasChange "rule") then
          syncRules conn' id
        read conn' : Step Unit) := by
    have hread := read_agree hR.toBlind hconn.client
    refine (Step.ofState_same _).bind fun changed => ?_
    cases changed with
    | false => exact hread
    | true => exact (syncRules_agree hR hconn id).bind fun _ => hread
  refine (Step.ofState_same _).bind fun id => (Step.ofState_same _).bind fun changed => ?_
  cases changed with
  | false => exact hrules id
  | true =>
    refine (Step.ofState_same _).bind fun body => ?_
    exact (Step.call_agree (Client.patch_agree hR.toBlind hconn.client _ _ body)).bind fun _ => hrules id

theorem delete_agree : Agree (Work.Related Eq R) (delete conn) (delete conn') :=
  (Step.ofState_same _).bind fun _ => Step.call_agree (Client.delete_agree hR.toBlind hconn.client _)

end FirewallGroup

omit hR hconn

/-- All operations of the resource end alike over the two connections. -/
structure Resource.Paired (r : Resource) (R : World → World → Prop) (conn conn' : Connection) : Prop where
  create : Agree (Work.Related Eq R) (r.create conn) (r.create conn')
  read : Agree (Work.Related Eq R) (r.read conn) (r.read conn')
  update : Agree (Work.Related Eq R) (r.update conn) (r.update conn')
  delete : Agree (Work.Related Eq R) (r.delete conn) (r.delete conn')

include hR hconn in
theorem ResourceType.paired (t : ResourceType) : t.resource.Paired R conn conn' := by
  have hread := t.read_agree hR.toBlind hconn.client
  cases hlife : t.lifecycle? with
  | some l =>
    rw [resource_of_lifecycle? hlife] at hread ⊢
    exact ⟨l.create_agree hR hconn, hread, l.update_agree hR hconn, l.delete_agree hR hconn⟩
  | none =>
    cases t with
    | firewallGroup =>
      exact ⟨FirewallGroup.create_agree hR hconn, hread, FirewallGroup.update_agree hR hconn,
        FirewallGroup.delete_agree hR hconn⟩
    | _ => cases hlife

/-! ## Outcomes -/

theorem Resource.look_agree {r : Resource} (hread : Agree (Work.Related Eq R) (r.read conn) (r.read conn'))
    (sent : Json) (s : ResourceState) {w w' : World} (hw : R w w') :
    (r.look conn sent s w).1 = (r.look conn' sent s w').1 ∧
      R (r.look conn sent s w).2 (r.look conn' sent s w').2 := by
  obtain ⟨result, ⟨s₁, w₁⟩, ⟨_, w₁'⟩, hrun, hrun', rfl, hnext⟩ :=
    exists_outcome (hread ⟨s, w⟩ ⟨s, w'⟩ ⟨rfl, hw⟩)
  rw [Resource.look, Resource.look, hrun, hrun']
  cases result <;> exact ⟨rfl, hnext⟩

namespace Resource.Paired

variable {r : Resource} (h : r.Paired R conn conn')
include h

theorem created (planned : Json) : Agree R (r.created conn planned) (r.created conn' planned) := by
  intro w w' hw
  unfold Resource.created
  cases hs : r.prepared (.ofJson planned) with
  | error failure => exact ⟨rfl, hw⟩
  | ok s =>
    obtain ⟨result, ⟨s₁, w₁⟩, ⟨_, w₁'⟩, hrun, hrun', rfl, hnext⟩ :=
      exists_outcome (h.create ⟨s, w⟩ ⟨s, w'⟩ ⟨rfl, hw⟩)
    dsimp only
    rw [hrun, hrun']
    exact ⟨rfl, hnext⟩

theorem refreshed (current : Json) :
    Agree R (r.refreshed conn current) (r.refreshed conn' current) := by
  intro w w' hw
  unfold Resource.refreshed
  cases hs : r.preparedExisting (.ofJson current) with
  | error failure => exact ⟨rfl, hw⟩
  | ok s =>
    obtain ⟨houtcome, hnext⟩ := look_agree h.read current s hw
    exact ⟨congrArg Except.ok houtcome, hnext⟩

theorem updated (prior planned : Json) :
    Agree R (r.updated conn prior planned) (r.updated conn' prior planned) := by
  intro w w' hw
  unfold Resource.updated
  cases hs : r.preparedExisting ((ResourceState.ofJson planned).withPrior prior) with
  | error failure => exact ⟨rfl, hw⟩
  | ok s =>
    obtain ⟨result, ⟨s₁, w₁⟩, ⟨_, w₁'⟩, hrun, hrun', rfl, hnext⟩ :=
      exists_outcome (h.update ⟨s, w⟩ ⟨s, w'⟩ ⟨rfl, hw⟩)
    dsimp only
    rw [hrun, hrun']
    cases result with
    | ok => exact ⟨rfl, hnext⟩
    | error e =>
      dsimp only
      cases hbefore : r.prepared (.ofJson prior) with
      | error refusal => exact ⟨rfl, hnext⟩
      | ok before =>
        obtain ⟨houtcome, hlast⟩ := look_agree h.read prior before hnext
        dsimp only
        rw [houtcome]
        exact ⟨rfl, hlast⟩

theorem deleted (prior : Json) : Agree R (r.deleted conn prior) (r.deleted conn' prior) := by
  intro w w' hw
  unfold Resource.deleted
  cases hs : r.preparedExisting (.ofJson prior) with
  | error failure => exact ⟨rfl, hw⟩
  | ok s =>
    obtain ⟨hresult, hnext⟩ := h.delete ⟨s, w⟩ ⟨s, w'⟩ ⟨rfl, hw⟩
    exact ⟨congrArg (fun result => Except.ok (Diagnostics.ofResult result)) hresult, hnext.world⟩

theorem imported (type id : String) :
    Agree R (r.imported conn type id) (r.imported conn' type id) := by
  intro w w' hw
  unfold Resource.imported
  cases hs : r.prepared (.ofJson (.object [])) with
  | error failure => exact ⟨rfl, hw⟩
  | ok s =>
    dsimp only
    cases hadopt : r.adopt id s with
    | error failure => exact ⟨rfl, hw⟩
    | ok s' =>
      obtain ⟨result, ⟨s₁, w₁⟩, ⟨_, w₁'⟩, hrun, hrun', rfl, hnext⟩ :=
        exists_outcome (h.read ⟨s', w⟩ ⟨s', w'⟩ ⟨rfl, hw⟩)
      dsimp only
      rw [hrun, hrun']
      exact ⟨rfl, hnext⟩

end Resource.Paired

end CloudProvider
