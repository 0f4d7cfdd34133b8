import CloudProvider.Host.Outcome
import CloudProvider.Proofs.Resource.Entries

/-!
# What a resource shows and what is written of it

Reading a resource looks at the API and writes what it sees into the state. Creating and changing it
end in the same way, so that a state that is returned is always one that was written.

* `Portrait`: what is seen of a resource, how it is written, and the laws of its operations.
* `Lifecycle.portrait`: the resource of a life cycle.
-/

namespace CloudProvider
set_option autoImplicit false

/-- What is seen of a resource, how it is written into a state, and the laws of its operations. -/
structure Portrait (r : Resource) where
  View : Type
  /-- Looks at the API, without changing the state. -/
  look : Connection → Step (Option View)
  write : View → ResourceState → ResourceState
  /-- The answers show all that the view has. -/
  ShownIn : View → List Exchange → Prop
  plain : plainAll r.schema.attributes = true
  noIdAttribute : ResourceState.idKey ∉ r.schema.attributes.map (·.1)
  frame : ∀ (v : View) (s : ResourceState), write v s = { s with values := (write v s).values }
  sound : ∀ (v : View) (s : ResourceState), s.Sound r.schema r.timeouts →
    (write v s).Sound r.schema r.timeouts
  again : ∀ (v : View) (s s' : ResourceState), s'.values = (write v s).values → write v s' = s'
  adopt_sound : ∀ (id : String) (s s' : ResourceState), r.adopt id s = .ok s' →
    s.Sound r.schema r.timeouts → s'.Sound r.schema r.timeouts
  /-- Reading writes what it sees. -/
  read_of_look : ∀ (conn : Connection) (s : ResourceState) (w w' : World) (v : View),
    look conn ⟨s, w⟩ = (.ok (some v), ⟨s, w'⟩) → r.read conn ⟨s, w⟩ = (.ok (), ⟨write v s, w'⟩)
  read_sends : ∀ conn, Step.Sends Exchange.Reads (r.read conn)
  read_ends : ∀ (conn : Connection) (s : ResourceState) (w : World) (work : Work),
    r.read conn ⟨s, w⟩ = (.ok (), work) → work.state.id = none ∨
      ∃ v es, work.state = write v s ∧ Traffic w es work.world ∧ ShownIn v es
  create_ends : ∀ (conn : Connection) (s : ResourceState) (w : World) (work : Work),
    r.create conn ⟨s, w⟩ = (.ok (), work) → work.state.id = none ∨
      ∃ v id es, work.state = write v (s.setId id) ∧ Traffic w es work.world ∧ ShownIn v es
  update_ends : ∀ (conn : Connection) (s : ResourceState) (w : World) (work : Work),
    r.update conn ⟨s, w⟩ = (.ok (), work) → work.state.id = none ∨
      ∃ v es, work.state = write v s ∧ Traffic w es work.world ∧ ShownIn v es
  /-- Without changes an update only reads. -/
  update_same : ∀ (conn : Connection) (s : ResourceState) (w : World),
    s.values = s.prior → r.update conn ⟨s, w⟩ = r.read conn ⟨s, w⟩

/-! ## Life cycles -/

namespace Lifecycle

variable {α : Type} (l : Lifecycle α)

/-- Looks for an object and for the text beside it. -/
def look (conn : Connection) : Step (Option (α × Option String)) := do
  let id ← Step.ofState (·.requireId)
  let c ← Step.ofState l.place.collection
  match ← Step.call (l.fetch conn c id) with
  | some found => return some (found, ← Step.call (l.beside conn c found))
  | none => return none

/-- The answers show the object, and the text beside it where there is one. -/
def ShownIn (v : α × Option String) (es : List Exchange) : Prop :=
  (∃ e ∈ es, e.Shows l.decoder v.1) ∧
    (∀ text, v.2 = some text →
      ∃ a, l.attachment = some a ∧ ∃ e ∈ es, e.Shows a.decoder text) ∧
    (v.2 = none → ∀ a, l.attachment = some a → a.available v.1 = false)

variable {l} {conn : Connection} {s : ResourceState} {w w' : World} {work : Work}

theorem read_of_look {v : α × Option String}
    (h : l.look conn ⟨s, w⟩ = (.ok (some v), ⟨s, w'⟩)) :
    l.read conn ⟨s, w⟩ = (.ok (), ⟨l.write v s, w'⟩) := by
  obtain ⟨id, work₁, hid, h⟩ := run_bind_ok h
  obtain ⟨c, work₂, hcollection, h⟩ := run_bind_ok h
  obtain ⟨found, work₃, hfetch, h⟩ := run_bind_ok h
  simp only [read, run_bind, hid, hcollection, hfetch]
  obtain ⟨-, rfl⟩ := Prod.mk.inj hid
  obtain ⟨-, rfl⟩ := Prod.mk.inj hcollection
  cases found with
  | none => cases h
  | some x =>
    obtain ⟨text, work₄, hbeside, h⟩ := run_bind_ok h
    obtain ⟨hv, rfl⟩ := Prod.mk.inj h
    obtain rfl := Option.some.inj (Except.ok.inj hv)
    rw [Step.call_run] at hfetch hbeside
    obtain ⟨-, rfl⟩ := Prod.mk.inj hfetch
    obtain ⟨htext, hworld⟩ := Prod.mk.inj hbeside
    simp only [Work.mk.injEq, true_and] at hworld
    dsimp only
    rw [record_run]
    rcases hrun : l.beside conn c x (l.fetch conn c id w).2 with ⟨e | t, w₁⟩
    · rw [hrun] at htext
      cases htext
    · rw [hrun] at htext hworld
      obtain rfl := Except.ok.inj htext
      obtain rfl := hworld
      rfl

/-- An object that is recorded without failure was written with the text that was shown. -/
theorem record_ends {c : Collection} {x : α}
    (h : l.record conn c x ⟨s, w⟩ = (.ok (), work)) :
    ∃ text es, work.state = l.write (x, text) s ∧ Traffic w es work.world ∧
      (∀ t, text = some t → ∃ a, l.attachment = some a ∧ ∃ e ∈ es, e.Shows a.decoder t) ∧
      (text = none → ∀ a, l.attachment = some a → a.available x = false) := by
  rw [record_run] at h
  obtain ⟨es, htraffic, -, htext⟩ := l.beside_run conn c x w
  rcases hrun : l.beside conn c x w with ⟨e | text, w'⟩ <;> rw [hrun] at h htraffic htext
  · cases h
  · obtain rfl := (Prod.mk.inj h).2
    obtain ⟨hshown, hnone⟩ := htext text rfl
    refine ⟨text, es, rfl, htraffic, ?_, hnone⟩
    intro t ht
    obtain ⟨a, e, ha, -, he, hshows⟩ := hshown t ht
    exact ⟨a, ha, e, List.mem_of_getLast? he, hshows⟩

theorem read_ends (h : l.read conn ⟨s, w⟩ = (.ok (), work)) :
    work.state.id = none ∨
      ∃ v es, work.state = l.write v s ∧ Traffic w es work.world ∧ l.ShownIn v es := by
  rcases l.read_run conn s w with ⟨failure, hrun, -⟩ | ⟨id, c, es, w₁, -, -, hasked, hcases⟩
  · cases h.symm.trans hrun
  · rcases hcases with ⟨failure, hrun, -⟩ | ⟨hrun, -⟩ | ⟨e, x, he, hshows, hrun⟩
    · cases h.symm.trans hrun
    · left
      obtain rfl := (Prod.mk.inj (h.symm.trans hrun)).2
      rfl
    · right
      obtain ⟨text, es', hstate, htraffic, htext, hnone⟩ := record_ends (hrun.symm.trans h)
      refine ⟨(x, text), es ++ es', hstate, hasked.traffic.trans htraffic, ?_, ?_, hnone⟩
      · exact ⟨e, List.mem_append_left _ (List.mem_of_getLast? he), hshows⟩
      · intro t ht
        obtain ⟨a, ha, e', he', hshows'⟩ := htext t ht
        exact ⟨a, ha, e', List.mem_append_right _ he', hshows'⟩

/-- An object that was created or changed is shown by the answer to that or by the one that says that
it is ready. -/
theorem settle_ends {c : Collection} {id : String} {pending : Phases α → List String}
    {timeout : Timeouts → Duration} {x : α} {before : List Exchange} {e : Exchange} {w₀ : World}
    (htraffic : Traffic w₀ before w) (he : before.getLast? = some e) (hshows : e.Shows l.decoder x)
    (h : l.settle conn c id pending timeout x ⟨s, w⟩ = (.ok (), work)) :
    ∃ v es, work.state = l.write v s ∧ Traffic w₀ es work.world ∧ l.ShownIn v es := by
  obtain ⟨es, w', htraffic', -, hcases⟩ := l.settle_run conn c id pending timeout x s w
  rcases hcases with ⟨failure, hrun⟩ | ⟨y, hrun, hnone, hsome⟩
  · cases h.symm.trans hrun
  · obtain ⟨text, es', hstate, htraffic'', htext, habsent⟩ := record_ends (hrun.symm.trans h)
    have hshown : ∃ e ∈ before ++ es, e.Shows l.decoder y := by
      cases hphases : l.phases with
      | none =>
        obtain ⟨rfl, -⟩ := hnone hphases
        exact ⟨e, List.mem_append_left _ (List.mem_of_getLast? he), hshows⟩
      | some p =>
        obtain ⟨-, e', he', hshows'⟩ := hsome p hphases
        exact ⟨e', List.mem_append_right _ (List.mem_of_getLast? he'), hshows'⟩
    refine ⟨(y, text), before ++ es ++ es', hstate,
      (htraffic.trans htraffic').trans htraffic'', ?_, ?_, habsent⟩
    · obtain ⟨e', he', hshows'⟩ := hshown
      exact ⟨e', List.mem_append_left _ he', hshows'⟩
    · intro t ht
      obtain ⟨a, ha, e', he', hshows'⟩ := htext t ht
      exact ⟨a, ha, e', List.mem_append_right _ he', hshows'⟩

theorem create_ends (h : l.create conn ⟨s, w⟩ = (.ok (), work)) :
    ∃ v id es, work.state = l.write v (s.setId id) ∧ Traffic w es work.world ∧
      l.ShownIn v es := by
  rcases l.create_run conn s w with ⟨failure, hrun, -⟩ | ⟨c, body, es, w', -, -, hasked, hcases⟩
  · cases h.symm.trans hrun
  · rcases hcases with ⟨failure, hrun, -⟩ | ⟨e, x, he, hshows, hrun⟩
    · cases h.symm.trans hrun
    · obtain ⟨v, es', hends⟩ := settle_ends hasked.traffic he hshows (hrun.symm.trans h)
      exact ⟨v, _, es', hends⟩

theorem update_ends (h : l.update conn ⟨s, w⟩ = (.ok (), work)) :
    work.state.id = none ∨
      ∃ v es, work.state = l.write v s ∧ Traffic w es work.world ∧ l.ShownIn v es := by
  rcases l.update_run conn s w with ⟨failure, hrun, -⟩ | ⟨-, hrun⟩ |
    ⟨id, c, body, es, w', -, -, -, -, hasked, hcases⟩
  · cases h.symm.trans hrun
  · exact read_ends (hrun.symm.trans h)
  · rcases hcases with ⟨failure, hrun⟩ | ⟨e, x, he, hshows, hrun⟩
    · cases h.symm.trans hrun
    · exact .inr (settle_ends hasked.traffic he hshows (hrun.symm.trans h))

variable (l conn)

theorem record_sends (c : Collection) (x : α) :
    Step.Sends Exchange.Reads (l.record conn c x) := by
  rintro ⟨s, w⟩
  obtain ⟨es, htraffic, hgets, -⟩ := l.beside_run conn c x w
  refine ⟨es, ?_, ?_⟩
  · rw [record_run]
    rcases hrun : l.beside conn c x w with ⟨e | text, w'⟩ <;> rw [hrun] at htraffic <;> exact htraffic
  · intro e he
    obtain ⟨a, -, hget⟩ := hgets e he
    exact congrArg Request.method hget

theorem settle_sends (c : Collection) (id : String) (pending : Phases α → List String)
    (timeout : Timeouts → Duration) (x : α) :
    Step.Sends Exchange.Reads (l.settle conn c id pending timeout x) := by
  rintro ⟨s, w⟩
  obtain ⟨polls, w₁, htraffic, hgets, hcases⟩ := l.settle_run conn c id pending timeout x s w
  have hpolls : ∀ e ∈ polls, e.Reads := fun e he => congrArg Request.method (hgets e he)
  rcases hcases with ⟨failure, hrun⟩ | ⟨y, hrun, -, -⟩
  · rw [hrun]
    exact ⟨polls, htraffic, hpolls⟩
  · obtain ⟨rest, htraffic', hrest⟩ := l.record_sends conn c y ⟨s, w₁⟩
    rw [hrun]
    refine ⟨polls ++ rest, htraffic.trans htraffic', fun e he => ?_⟩
    exact (List.mem_append.mp he).elim (hpolls e) (hrest e)

theorem read_sends : Step.Sends Exchange.Reads (l.read conn) := by
  refine (Step.Keeps.ofState _).sends.bind fun id => (Step.Keeps.ofState _).sends.bind fun c => ?_
  refine (Step.Keeps.call fun w => ?_).sends.bind fun found => ?_
  · obtain ⟨es, hasked, -⟩ := l.fetch_asked conn c id w
    exact ⟨es, hasked.traffic, fun e he => congrArg Request.method (hasked.request e he)⟩
  · cases found with
    | none => exact .change _
    | some x => exact record_sends l conn c x

variable {l conn}

theorem update_unchanged (hchanges : s.hasChanges l.updatable = false) :
    l.update conn ⟨s, w⟩ = l.read conn ⟨s, w⟩ := by
  simp only [update, run_bind, Step.ofState_run]
  cases hid : s.requireId with
  | error failure => simp only [read, run_bind, Step.ofState_run, hid]
  | ok id =>
    dsimp only
    cases hcollection : l.place.collection s with
    | error failure => simp only [read, run_bind, Step.ofState_run, hid, hcollection]
    | ok c => simp only [hchanges, Bool.false_eq_true, if_false]

/-- The resource of a life cycle that writes as required. -/
def portrait (l : Lifecycle α) (h : l.Writing)
    (hadopt : ∀ (id : String) (s s' : ResourceState), l.adopt id s = .ok s' →
      s.Sound l.schema l.timeouts → s'.Sound l.schema l.timeouts) : Portrait l.resource where
  View := α × Option String
  look := l.look
  write := l.write
  ShownIn := l.ShownIn
  plain := h.plain
  noIdAttribute := h.noIdAttribute
  frame v s := h.write_frame v s
  sound v _ hs := h.sound hs v
  again v _ _ hs' := h.again v hs'
  adopt_sound := hadopt
  read_of_look _ _ _ _ _ hlook := read_of_look hlook
  read_sends := l.read_sends
  read_ends _ _ _ _ hrun := read_ends hrun
  create_ends _ _ _ _ hrun := .inr (create_ends hrun)
  update_ends _ _ _ _ hrun := update_ends hrun
  update_same _ _ _ hsame := update_unchanged (ResourceState.hasChanges_of_eq l.updatable hsame)

end Lifecycle

end CloudProvider
