import CloudProvider.Proofs.Steps
import CloudProvider.Resource.Lifecycle

/-!
# What life cycles do

Each operation of a life cycle in terms of the requests that it sends and of the states that it leaves,
in every case that can arise.

* `Place.attribute?`, `Place.collection_congr`: what it depends on where a resource is.
* `Lifecycle.beside`, `Lifecycle.write`: an object with the text beside it, as it is read and written.
* `Lifecycle.record_run`, `Lifecycle.settle_run`: an object is recorded, if need be once it is ready.
* `Lifecycle.create_run`, `Lifecycle.read_run`, `Lifecycle.update_run`: the operations.
-/

namespace CloudProvider
open Json
set_option autoImplicit false

/-- The attribute that names the parent of a resource. -/
def Place.attribute? : Place → Option String
  | top _ => none
  | inside _ attr _ => some attr

theorem Place.collection_congr {p : Place} {s s' : ResourceState}
    (h : ∀ attr, p.attribute? = some attr → s'.values.get? attr = s.values.get? attr) :
    p.collection s' = p.collection s := by
  cases p with
  | top path => rfl
  | inside parents attr name =>
    simp only [collection, ResourceState.requiredText, ResourceState.text?, ResourceState.value?,
      h attr rfl]

/-- The exchange asks for what is at a path. -/
def Exchange.Gets (c : Client) (segments : List String) (e : Exchange) : Prop :=
  e.request = ⟨.get, c.url segments, c.headers none, none⟩

/-- The text in an answer about what is kept beside an object. -/
def Attachment.decoder {α : Type} (a : Attachment α) : Decoder String :=
  Record.decoder a.title (Record.required a.name Decode.text)

namespace Lifecycle

variable {α : Type} (l : Lifecycle α) (conn : Connection) (c : Collection)

/-! ## Objects with the text beside them -/

/-- The text beside an object, if there is one now. -/
def beside (object : α) : Call (Option String) :=
  match l.attachment with
  | none => return none
  | some a =>
    if a.available object then
      some <$> conn.client.get a.decoder (c.object (l.identity object) ++ [a.name])
    else return none

/-- Writes an object and the text beside it. -/
def write (v : α × Option String) (s : ResourceState) : ResourceState :=
  match l.attachment, v.2 with
  | some a, some text => (l.writeTo v.1 s).set a.name (.string text)
  | _, _ => l.writeTo v.1 s

/-- The exchanges ask for what is kept beside an object. -/
def GetsBeside (object : α) (es : List Exchange) : Prop :=
  ∀ e ∈ es, ∃ a, l.attachment = some a ∧
    e.Gets conn.client (c.object (l.identity object) ++ [a.name])

theorem beside_run (object : α) (w : World) :
    ∃ es, Traffic w es (l.beside conn c object w).2 ∧ l.GetsBeside conn c object es ∧
      ∀ text, (l.beside conn c object w).1 = .ok text →
        (∀ t, text = some t → ∃ a e, l.attachment = some a ∧ a.available object = true ∧
          es.getLast? = some e ∧ e.Shows a.decoder t) ∧
        (text = none → ∀ a, l.attachment = some a → a.available object = false) := by
  unfold beside
  cases hattachment : l.attachment with
  | none =>
    refine ⟨[], .refl w, by simp [GetsBeside], ?_⟩
    intro text htext
    obtain rfl := Except.ok.inj htext
    exact ⟨by simp, by simp⟩
  | some a =>
    cases havailable : a.available object with
    | false =>
      simp only [havailable, Bool.false_eq_true, if_false, run_pure]
      refine ⟨[], .refl w, by simp [GetsBeside], ?_⟩
      intro text htext
      obtain rfl := Except.ok.inj htext
      exact ⟨by simp, by simpa using havailable⟩
    | true =>
      obtain ⟨es, hasked, hok, -⟩ :=
        conn.client.get_asked (c.object (l.identity object) ++ [a.name]) w a.decoder
      simp only [havailable, if_true, run_map]
      refine ⟨es, hasked.traffic, fun e he => ⟨a, hattachment, hasked.request e he⟩, ?_⟩
      intro text htext
      cases hget : (conn.client.get a.decoder (c.object (l.identity object) ++ [a.name]) w).1 with
      | error e =>
        rw [hget] at htext
        cases htext
      | ok t =>
        rw [hget] at htext
        obtain rfl := Except.ok.inj htext
        obtain ⟨e, he, hshows⟩ := (hok t).mp hget
        refine ⟨?_, by simp⟩
        intro t' ht'
        obtain rfl := Option.some.inj ht'
        exact ⟨a, e, rfl, havailable, he, hshows⟩

/-- Recording an object writes it, and then the text beside it unless that cannot be read. -/
theorem record_run (object : α) (s : ResourceState) (w : World) :
    l.record conn c object ⟨s, w⟩ =
      match l.beside conn c object w with
      | (.ok text, w) => (.ok (), ⟨l.write (object, text) s, w⟩)
      | (.error e, w) => (.error e.toProviderError, ⟨l.writeTo object s, w⟩) := by
  rw [record, run_bind, Step.change_run]
  simp only [attach, beside, write]
  cases hattachment : l.attachment with
  | none => rfl
  | some a =>
    cases havailable : a.available object with
    | false => simp only [havailable, Bool.false_eq_true, if_false, run_pure]
    | true =>
      simp only [havailable, if_true, run_bind, run_map, Step.call_run, Step.change_run]
      rw [Attachment.decoder]
      rcases conn.client.get (Record.decoder a.title (Record.required a.name Decode.text))
        (c.object (l.identity object) ++ [a.name]) w with ⟨e | t, w'⟩ <;> rfl

/-! ## Objects that become ready -/

theorem fetch_asked (id : String) (w : World) :
    ∃ es, conn.client.Asked .get (c.object id) none w es (l.fetch conn c id w).2 ∧
      (∀ x, (l.fetch conn c id w).1 = .ok (some x) ↔
        ∃ e, es.getLast? = some e ∧ e.Shows l.decoder x) ∧
      ((l.fetch conn c id w).1 = .ok none ↔ ∃ e, es.getLast? = some e ∧ e.Missing) :=
  conn.client.getOptional_asked (c.object id) w l.decoder

theorem awaitReady_run (p : Phases α) (id : String) (pending : List String) (timeout : Duration)
    (s : ResourceState) (w : World) :
    ∃ es w', Traffic w es w' ∧ (∀ e ∈ es, e.Gets conn.client (c.object id)) ∧
      ((∃ failure,
          l.awaitReady p conn c id pending timeout ⟨s, w⟩ = (.error failure, ⟨s, w'⟩)) ∨
        ∃ x e, l.awaitReady p conn c id pending timeout ⟨s, w⟩ = (.ok x, ⟨s, w'⟩) ∧
          es.getLast? = some e ∧ e.Shows l.decoder x ∧
          Text.sameLetters p.ready (p.status x) = true) := by
  have hread (w : World) : ∃ es, Traffic w es (l.fetch conn c id w).2 ∧
      ∀ e ∈ es, e.Gets conn.client (c.object id) := by
    obtain ⟨es, hasked, -⟩ := l.fetch_asked conn c id w
    exact ⟨es, hasked.traffic, hasked.request⟩
  obtain ⟨outcome, w', hrun, es, w₁, es₁, htraffic, hlast, hgets, hfound, hgone⟩ :=
    Step.await_run p.status (l.waiter conn c id pending [p.ready] timeout) hread ⟨s, w⟩
  refine ⟨es ++ es₁, w', htraffic.trans hlast, hgets, ?_⟩
  simp only [awaitReady, run_bind, hrun]
  rcases outcome with failure | _ | x
  · exact .inl ⟨failure, rfl⟩
  · exact absurd (hgone rfl) (by simp [waiter])
  · right
    obtain ⟨hshown, hready⟩ := hfound x rfl
    obtain ⟨es', hasked, hok, -⟩ := l.fetch_asked conn c id w₁
    rw [hshown] at hasked hok
    obtain rfl := hasked.traffic.unique hlast
    obtain ⟨e, he, hshows⟩ := (hok x).mp rfl
    refine ⟨x, e, rfl, ?_, hshows, ?_⟩
    · rw [List.getLast?_append, he]
      rfl
    · simpa [Waiter.listed, waiter] using hready

/-- An object that was created or changed is recorded, once it is ready if that takes time. -/
theorem settle_run (id : String) (pending : Phases α → List String) (timeout : Timeouts → Duration)
    (object : α) (s : ResourceState) (w : World) :
    ∃ es w', Traffic w es w' ∧ (∀ e ∈ es, e.Gets conn.client (c.object id)) ∧
      ((∃ failure,
          l.settle conn c id pending timeout object ⟨s, w⟩ = (.error failure, ⟨s, w'⟩)) ∨
        ∃ x, l.settle conn c id pending timeout object ⟨s, w⟩ = l.record conn c x ⟨s, w'⟩ ∧
          (l.phases = none → x = object ∧ es = []) ∧
          ∀ p, l.phases = some p → Text.sameLetters p.ready (p.status x) = true ∧
            ∃ e, es.getLast? = some e ∧ e.Shows l.decoder x) := by
  unfold settle
  cases hphases : l.phases with
  | none => exact ⟨[], w, .refl w, by simp, .inr ⟨object, rfl, fun _ => ⟨rfl, rfl⟩, by simp⟩⟩
  | some p =>
    simp only [run_bind, Step.ofState_run]
    obtain ⟨es, w', htraffic, hgets, hresult⟩ :=
      l.awaitReady_run conn c p id (pending p) (timeout s.timeouts) s w
    refine ⟨es, w', htraffic, hgets, ?_⟩
    rcases hresult with ⟨failure, hrun⟩ | ⟨x, e, hrun, he, hshows, hready⟩
    · simp only [hrun]
      exact .inl ⟨failure, rfl⟩
    · simp only [hrun]
      refine .inr ⟨x, rfl, by simp, ?_⟩
      intro p' hp'
      obtain rfl := Option.some.inj hp'
      exact ⟨hready, e, he, hshows⟩

/-! ## The operations -/

/-- Creating an object is refused before anything is sent, or it is asked for and then recorded under
its identity. -/
theorem create_run (s : ResourceState) (w : World) :
    (∃ failure, l.create conn ⟨s, w⟩ = (.error failure, ⟨s, w⟩) ∧
        (l.place.collection s = .error failure ∨ l.draft conn.region s = .error failure)) ∨
      ∃ c body es w', l.place.collection s = .ok c ∧ l.draft conn.region s = .ok body ∧
        conn.client.Asked .post c.path (some body) w es w' ∧
        ((∃ failure, l.create conn ⟨s, w⟩ = (.error failure, ⟨s, w'⟩) ∧
            ∀ e, es.getLast? = some e → ∀ x, ¬ e.Shows l.decoder x) ∨
          ∃ e x, es.getLast? = some e ∧ e.Shows l.decoder x ∧
            l.create conn ⟨s, w⟩ =
              l.settle conn c (l.identity x) (·.creating) (·.create) x
                ⟨s.setId (l.identity x), w'⟩) := by
  simp only [create, run_bind, Step.ofState_run, Step.change_run, Step.call_run]
  cases hcollection : l.place.collection s with
  | error failure => exact .inl ⟨failure, rfl, .inl rfl⟩
  | ok c =>
    dsimp only
    cases hdraft : l.draft conn.region s with
    | error failure => exact .inl ⟨failure, rfl, .inr rfl⟩
    | ok body =>
      right
      dsimp only
      obtain ⟨es, hasked, hok⟩ := conn.client.post_asked c.path w l.decoder body
      refine ⟨c, body, es, _, rfl, rfl, hasked, ?_⟩
      cases hpost : (conn.client.post l.decoder c.path body w).1 with
      | error e =>
        refine .inl ⟨e.toProviderError, rfl, ?_⟩
        intro e' he' x hshows
        cases hpost.symm.trans ((hok x).mpr ⟨e', he', hshows⟩)
      | ok x =>
        obtain ⟨e, he, hshows⟩ := (hok x).mp hpost
        exact .inr ⟨e, x, he, hshows, rfl⟩

theorem read_run (s : ResourceState) (w : World) :
    (∃ failure, l.read conn ⟨s, w⟩ = (.error failure, ⟨s, w⟩) ∧
        (s.id = none ∨ l.place.collection s = .error failure)) ∨
      ∃ id c es w', s.id = some id ∧ l.place.collection s = .ok c ∧
        conn.client.Asked .get (c.object id) none w es w' ∧
        ((∃ failure, l.read conn ⟨s, w⟩ = (.error failure, ⟨s, w'⟩) ∧
            ∀ e, es.getLast? = some e → ¬ e.Missing) ∨
          (l.read conn ⟨s, w⟩ = (.ok (), ⟨s.clearId, w'⟩) ∧
            ∃ e, es.getLast? = some e ∧ e.Missing) ∨
          ∃ e x, es.getLast? = some e ∧ e.Shows l.decoder x ∧
            l.read conn ⟨s, w⟩ = l.record conn c x ⟨s, w'⟩) := by
  simp only [read, run_bind, Step.ofState_run, Step.call_run, ResourceState.requireId]
  cases hid : s.id with
  | none => exact .inl ⟨_, rfl, .inl rfl⟩
  | some id =>
    dsimp only
    cases hcollection : l.place.collection s with
    | error failure => exact .inl ⟨failure, rfl, .inr rfl⟩
    | ok c =>
      right
      dsimp only
      obtain ⟨es, hasked, hok, hmissing⟩ := l.fetch_asked conn c id w
      refine ⟨id, c, es, _, rfl, rfl, hasked, ?_⟩
      cases hfetch : (l.fetch conn c id w).1 with
      | error e =>
        refine .inl ⟨e.toProviderError, rfl, fun e' he' hmiss => ?_⟩
        cases hfetch.symm.trans (hmissing.mpr ⟨e', he', hmiss⟩)
      | ok found =>
        cases found with
        | none => exact .inr (.inl ⟨rfl, hmissing.mp hfetch⟩)
        | some x =>
          obtain ⟨e, he, hshows⟩ := (hok x).mp hfetch
          exact .inr (.inr ⟨e, x, he, hshows, rfl⟩)

/-- Changing an object only reads it if nothing is to be changed. Otherwise it is refused before
anything is sent, or the change is asked for and its outcome recorded. -/
theorem update_run (s : ResourceState) (w : World) :
    (∃ failure, l.update conn ⟨s, w⟩ = (.error failure, ⟨s, w⟩) ∧
        (s.id = none ∨ l.place.collection s = .error failure ∨ l.changes s = .error failure)) ∨
      (s.hasChanges l.updatable = false ∧ l.update conn ⟨s, w⟩ = l.read conn ⟨s, w⟩) ∨
      ∃ id c body es w', s.hasChanges l.updatable = true ∧ s.id = some id ∧
        l.place.collection s = .ok c ∧ l.changes s = .ok body ∧
        conn.client.Asked .patch (c.object id) (some body) w es w' ∧
        ((∃ failure, l.update conn ⟨s, w⟩ = (.error failure, ⟨s, w'⟩)) ∨
          ∃ e x, es.getLast? = some e ∧ e.Shows l.decoder x ∧
            l.update conn ⟨s, w⟩ =
              l.settle conn c id (·.updating) (·.update) x ⟨s, w'⟩) := by
  simp only [update, run_bind, Step.ofState_run, ResourceState.requireId]
  cases hid : s.id with
  | none => exact .inl ⟨_, rfl, .inl rfl⟩
  | some id =>
    dsimp only
    cases hcollection : l.place.collection s with
    | error failure => exact .inl ⟨failure, rfl, .inr (.inl rfl)⟩
    | ok c =>
      dsimp only
      cases hchanges : s.hasChanges l.updatable with
      | false => exact .inr (.inl ⟨rfl, rfl⟩)
      | true =>
        simp only [if_true, run_bind, Step.ofState_run, Step.call_run]
        cases hbody : l.changes s with
        | error failure => exact .inl ⟨failure, rfl, .inr (.inr rfl)⟩
        | ok body =>
          right
          right
          dsimp only
          obtain ⟨es, hasked, hok⟩ := conn.client.patch_asked (c.object id) w l.decoder body
          refine ⟨id, c, body, es, _, trivial, rfl, rfl, rfl, hasked, ?_⟩
          cases hpatch : (conn.client.patch l.decoder (c.object id) body w).1 with
          | error e => exact .inl ⟨e.toProviderError, rfl⟩
          | ok x =>
            obtain ⟨e, he, hshows⟩ := (hok x).mp hpatch
            exact .inr ⟨e, x, he, hshows, rfl⟩

end Lifecycle

end CloudProvider
