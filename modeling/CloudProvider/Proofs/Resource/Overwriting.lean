import CloudProvider.Proofs.Resource.Ahead
import CloudProvider.Proofs.Resource.FirewallGroup

/-!
# What a read overwrites

Two reads of one object that have the same replies ahead of them see the same. What they write does not
depend on what stood there, apart from the keys that are never written and those that are kept.

* `Portrait.Spares`: nothing is ever written under the key.
* `Portrait.ReadsAlike`: two reads fail alike, find nothing, or write the same view.
* `Portrait.Overwrites`: writing a view leaves nothing of what stood there.
* `Portrait.Forgets`: all that is needed for a read to forget.
* `Lifecycle.Overwriting`: what is required of the entries of a life cycle.
* `Lifecycle.forgets`, `FirewallGroup.forgets`: both kinds of resources.
-/

namespace CloudProvider
set_option autoImplicit false

/-! ## Reads of one object -/

namespace Portrait

variable {r : Resource} (p : Portrait r)

/-- Nothing that is seen of a resource is ever written under the key. -/
def Spares (key : String) : Prop :=
  ∀ (v : p.View) (s : ResourceState), (p.write v s).values.get? key = s.values.get? key

/-- Both reads fail alike, or find nothing, or write the same view, and the same replies are left. -/
def ReadsAlike (conn : Connection) (a b : Work) : Prop :=
  ∃ result s₁ s₁' w₁ w₁', r.read conn a = (result, ⟨s₁, w₁⟩) ∧ r.read conn b = (result, ⟨s₁', w₁'⟩) ∧
    w₁.network = w₁'.network ∧
    (result = .ok () → s₁ = a.state.clearId ∧ s₁' = b.state.clearId ∨
      ∃ v es, p.ShownIn v es ∧ s₁ = p.write v a.state ∧ s₁' = p.write v b.state)

/-- Writing the view leaves nothing of what stood there, the kept keys aside. -/
def Overwrites (kept : List String) (v : p.View) : Prop :=
  ∀ s s' : ResourceState,
    (∀ key, p.Spares key ∨ key ∈ kept → s.values.get? key = s'.values.get? key) →
    ∀ key, (p.write v s).values.get? key = (p.write v s').values.get? key

/-- A read forgets what stood in the state, the keys aside that are never written or that are kept.
The states that it writes have to be complete for that. -/
structure Forgets (kept : List String) (Complete : ResourceState → Prop) : Prop where
  deadlines : p.Spares Schema.timeoutsName
  ordered : ∀ (v : p.View) (s : ResourceState), Keyed.Ordered s.values →
    Keyed.Ordered (p.write v s).values
  reads : ∀ (conn : Connection) (s s' : ResourceState) (w w' : World) (id : String),
    s.id = some id → s'.id = some id →
    (∀ key, p.Spares key → s.values.get? key = s'.values.get? key) → w.network = w'.network →
    p.ReadsAlike conn ⟨s, w⟩ ⟨s', w'⟩
  overwrites : ∀ (v : p.View) (es : List Exchange) (s : ResourceState), p.ShownIn v es →
    Complete (p.write v s) → p.Overwrites kept v

end Portrait

namespace ResourceState

theorem ordered_setAll {s : ResourceState} (h : Keyed.Ordered s.values)
    (entries : List (String × Json)) : Keyed.Ordered (s.setAll entries).values := by
  induction entries generalizing s with
  | nil => exact h
  | cons entry rest ih => exact ih (h.insert entry.1 entry.2)

end ResourceState

variable {s s' : ResourceState} {w w' : World} {id : String}

namespace Lifecycle

variable {α : Type} (l : Lifecycle α) (conn : Connection)

theorem beside_respects (c : Collection) (x : α) :
    Respects (fun w w' => w.network = w'.network) (l.beside conn c x) := by
  unfold beside
  split
  · exact .pure none
  · split
    · exact (Client.get_agree World.sameReplies_blind (.refl conn.client) _ _).map some
    · exact .pure none

variable {l conn}

theorem read_eq (hid : s.id = some id) (w : World) :
    l.read conn ⟨s, w⟩ =
      match l.place.collection s with
      | .error failure => (.error failure, ⟨s, w⟩)
      | .ok c =>
        match l.fetch conn c id w with
        | (.error e, w) => (.error e.toProviderError, ⟨s, w⟩)
        | (.ok none, w) => (.ok (), ⟨s.clearId, w⟩)
        | (.ok (some x), w) => l.record conn c x ⟨s, w⟩ := by
  simp only [read, run_bind, Step.ofState_run, Step.call_run, ResourceState.requireId, hid]
  cases l.place.collection s with
  | error failure => rfl
  | ok c =>
    dsimp only
    rcases l.fetch conn c id w with ⟨e | _ | x, w⟩ <;> rfl

variable (l conn) in
theorem recordsAlike (c : Collection) (x : α) (s s' : ResourceState) (hnetwork : w.network = w'.network) :
    ∃ result s₁ s₁' w₁ w₁', l.record conn c x ⟨s, w⟩ = (result, ⟨s₁, w₁⟩) ∧
      l.record conn c x ⟨s', w'⟩ = (result, ⟨s₁', w₁'⟩) ∧ w₁.network = w₁'.network ∧
      (result = .ok () → ∃ (text : Option String) (es : List Exchange),
        s₁ = l.write (x, text) s ∧ s₁' = l.write (x, text) s' ∧
        (∀ t, text = some t → ∃ a, l.attachment = some a ∧ ∃ e ∈ es, e.Shows a.decoder t) ∧
        (text = none → ∀ a, l.attachment = some a → a.available x = false)) := by
  obtain ⟨hsame, hleft⟩ := l.beside_respects conn c x w w' hnetwork
  obtain ⟨es, -, -, htext⟩ := l.beside_run conn c x w
  rw [record_run, record_run]
  revert hsame hleft htext
  rcases l.beside conn c x w with ⟨text, w₁⟩
  rcases l.beside conn c x w' with ⟨text', w₁'⟩
  rintro (rfl : text = text') hleft htext
  cases text with
  | error e => exact ⟨_, _, _, w₁, w₁', rfl, rfl, hleft, by simp⟩
  | ok text =>
    obtain ⟨hshown, hnone⟩ := htext text rfl
    refine ⟨_, _, _, w₁, w₁', rfl, rfl, hleft, fun _ => ⟨text, es, rfl, rfl, ?_, hnone⟩⟩
    intro t ht
    obtain ⟨a, e, ha, -, he, hshows⟩ := hshown t ht
    exact ⟨a, ha, e, List.mem_of_getLast? he, hshows⟩

theorem readsAlike (h : l.Writing)
    (hadopt : ∀ (id : String) (s s' : ResourceState), l.adopt id s = .ok s' →
      s.Sound l.schema l.timeouts → s'.Sound l.schema l.timeouts)
    (hid : s.id = some id) (hid' : s'.id = some id)
    (hplace : l.place.collection s' = l.place.collection s) (hnetwork : w.network = w'.network) :
    (l.portrait h hadopt).ReadsAlike conn ⟨s, w⟩ ⟨s', w'⟩ := by
  unfold Portrait.ReadsAlike
  change ∃ result s₁ s₁' w₁ w₁', l.read conn ⟨s, w⟩ = _ ∧ l.read conn ⟨s', w'⟩ = _ ∧ _
  rw [read_eq hid, read_eq hid', hplace]
  cases l.place.collection s with
  | error failure => exact ⟨_, s, s', w, w', rfl, rfl, hnetwork, by rintro ⟨⟩⟩
  | ok c =>
    dsimp only
    obtain ⟨es, -, hok, -⟩ := l.fetch_asked conn c id w
    obtain ⟨hfound, hnext⟩ :=
      l.fetch_agree World.sameReplies_blind (.refl conn.client) c id w w' hnetwork
    revert hok hfound hnext
    rcases l.fetch conn c id w with ⟨found, w₁⟩
    rcases l.fetch conn c id w' with ⟨found', w₁'⟩
    rintro hok (rfl : found = found') hnext
    rcases found with e | _ | x
    · exact ⟨_, s, s', w₁, w₁', rfl, rfl, hnext, by rintro ⟨⟩⟩
    · exact ⟨_, _, _, w₁, w₁', rfl, rfl, hnext, fun _ => .inl ⟨rfl, rfl⟩⟩
    · obtain ⟨e, he, hshows⟩ := (hok x).mp rfl
      obtain ⟨result, s₁, s₁', w₂, w₂', hrun, hrun', hleft, hends⟩ :=
        l.recordsAlike conn c x s s' hnext
      refine ⟨result, s₁, s₁', w₂, w₂', hrun, hrun', hleft, fun hresult => ?_⟩
      obtain ⟨text, es', hwritten, hwritten', htext, hnone⟩ := hends hresult
      refine .inr ⟨(x, text), es ++ es', ⟨?_, ?_, hnone⟩, hwritten, hwritten'⟩
      · exact ⟨e, List.mem_append_left _ (List.mem_of_getLast? he), hshows⟩
      · intro t ht
        obtain ⟨a, ha, e', he', hshows'⟩ := htext t ht
        exact ⟨a, ha, e', List.mem_append_right _ he', hshows'⟩

/-! ## What is written -/

/-- Writing an object leaves nothing of what stood there: the entries depend on the kept values alone,
and whatever may be written is written each time unless it is kept. -/
structure Overwriting (h : l.Writing) (kept : List String) : Prop where
  same : ∀ (x : α) (s s' : ResourceState),
    (∀ key ∈ kept, s.values.get? key = s'.values.get? key) → h.entries x s = h.entries x s'
  covered : ∀ (x y : α) (s s' : ResourceState), ∀ key ∈ (h.entries y s').map (·.1),
    key ∈ (h.entries x s).map (·.1) ∨ key ∈ kept

/-- Entries that do not depend on the state, under keys that do not depend on the object. -/
theorem Overwriting.of_keys {h : l.Writing} (hsame : ∀ x s s', h.entries x s = h.entries x s')
    (hkeys : ∀ x y s, (h.entries x s).map (·.1) = (h.entries y s).map (·.1)) :
    Overwriting h [] where
  same x s s' _ := hsame x s s'
  covered x y s s' _ hkey := .inl (hkeys y x s ▸ hsame y s' s ▸ hkey)

variable {h : l.Writing} {kept : List String} {key : String}
  {hadopt : ∀ (id : String) (s s' : ResourceState), l.adopt id s = .ok s' →
    s.Sound l.schema l.timeouts → s'.Sound l.schema l.timeouts}

/-- What is no entry of an object, nor the text beside one, is spared. -/
theorem spares (hkey : ∀ (x : α) (s : ResourceState), key ∉ (h.entries x s).map (·.1))
    (hbeside : ∀ a, l.attachment = some a → key ≠ a.name) : (l.portrait h hadopt).Spares key :=
  fun v s => h.get?_write v s (hkey v.1 s) hbeside

/-- An object that comes with the text beside it overwrites what stood there. -/
theorem Overwriting.overwrites (o : Overwriting h kept) {v : α × Option String}
    (hfull : v.2 = none → l.attachment = none) : (l.portrait h hadopt).Overwrites kept v := by
  intro s s' hagree key
  have hentries := o.same v.1 s s' fun key hkey => hagree key (.inr hkey)
  change (l.write v s).values.get? key = (l.write v s').values.get? key
  by_cases hkey : key ∈ (h.entries v.1 s).map (·.1)
  · -- Both states hold the entry.
    obtain ⟨entry, hentry, rfl⟩ := List.mem_map.mp hkey
    rw [(h.holds_write v s entry hentry).get?, (h.holds_write v s' entry (hentries ▸ hentry)).get?]
  by_cases hbeside : ∃ a, l.attachment = some a ∧ key = a.name
  · obtain ⟨a, ha, rfl⟩ := hbeside
    cases htext : v.2 with
    | none => cases ha.symm.trans (hfull htext)
    | some text => simp [write, ha, htext, ResourceState.set]
  · -- The key is never written, or it is kept.
    have hother : ∀ a, l.attachment = some a → key ≠ a.name := fun a ha e => hbeside ⟨a, ha, e⟩
    rw [h.get?_write v s hkey hother, h.get?_write v s' (hentries ▸ hkey) hother]
    by_cases hkept : key ∈ kept
    · exact hagree key (.inr hkept)
    · refine hagree key (.inl (spares (fun y t hmem => ?_) hother))
      exact (o.covered v.1 y s t key hmem).elim hkey hkept

theorem ordered_write (h : l.Writing) (v : α × Option String) (hs : Keyed.Ordered s.values) :
    Keyed.Ordered (l.write v s).values := by
  have hobject : Keyed.Ordered (l.writeTo v.1 s).values := by
    rw [h.writeTo_eq]
    exact ResourceState.ordered_setAll hs _
  unfold write
  split
  · exact hobject.insert _ _
  · exact hobject

theorem forgets {Complete : ResourceState → Prop} (o : Overwriting h kept)
    (hplace : ∀ attr, l.place.attribute? = some attr → (l.portrait h hadopt).Spares attr)
    (hfull : ∀ (v : α × Option String) (es : List Exchange) (s : ResourceState), l.ShownIn v es →
      Complete (l.write v s) → v.2 = none → l.attachment = none) :
    (l.portrait h hadopt).Forgets kept Complete where
  deadlines := spares h.noTimeouts fun a ha => (h.beside a ha).2.1.symm
  ordered v _ hs := ordered_write h v hs
  reads _ _ _ _ _ _ hid hid' hspared hnetwork :=
    readsAlike h hadopt hid hid'
      (Place.collection_congr fun attr hattr => (hspared attr (hplace attr hattr)).symm) hnetwork
  overwrites v es s hshown hcomplete := o.overwrites (hfull v es s hshown hcomplete)

/-- The same for entries under fixed keys, with no parent to name and no text beside the object. -/
theorem forgets_of_keys {Complete : ResourceState → Prop}
    (hsame : ∀ x s s', h.entries x s = h.entries x s')
    (hkeys : ∀ x y s, (h.entries x s).map (·.1) = (h.entries y s).map (·.1))
    (hplace : l.place.attribute? = none) (hbeside : l.attachment = none) :
    (l.portrait h hadopt).Forgets [] Complete := by
  refine forgets (.of_keys hsame hkeys) (fun attr hattr => ?_) fun _ _ _ _ _ _ => hbeside
  rw [hplace] at hattr
  cases hattr

end Lifecycle

/-! ## Firewall groups -/

namespace FirewallGroup

variable {conn : Connection}

theorem readsAlike (hid : s.id = some id) (hid' : s'.id = some id)
    (hnetwork : w.network = w'.network) : portrait.ReadsAlike conn ⟨s, w⟩ ⟨s', w'⟩ := by
  have hlook : Respects (Work.Related (fun s s' => s.id = some id ∧ s'.id = some id)
      fun w w' => w.network = w'.network) (look conn) := by
    refine (Step.ofState_related fun s s' h => ?_).bind fun id => ?_
    · simp only [ResourceState.requireId, h.1, h.2]
    refine (Step.call_agree
      (Client.getOptional_agree World.sameReplies_blind (.refl conn.client) _ _)).bind fun found => ?_
    cases found with
    | none => exact .pure none
    | some group =>
      exact (Step.call_agree
        (Client.get_agree World.sameReplies_blind (.refl conn.client) _ _)).bind fun _ => .pure _
  obtain ⟨hsame, hleft⟩ := hlook ⟨s, w⟩ ⟨s', w'⟩ ⟨⟨hid, hid'⟩, hnetwork⟩
  obtain ⟨es, w₁, -, -, hstate, hshown⟩ := look_run conn s w
  obtain ⟨-, w₁', -, -, hstate', -⟩ := look_run conn s' w'
  unfold Portrait.ReadsAlike
  change ∃ result s₁ s₁' w₁ w₁', read conn ⟨s, w⟩ = _ ∧ read conn ⟨s', w'⟩ = _ ∧ _
  rw [read_eq, read_eq, run_bind, run_bind]
  revert hsame hleft hstate hshown hstate'
  rcases look conn ⟨s, w⟩ with ⟨found, work⟩
  rcases look conn ⟨s', w'⟩ with ⟨found', work'⟩
  rintro (rfl : found = found') hleft (rfl : work = _) hshown (rfl : work' = _)
  rcases found with e | _ | v
  · exact ⟨_, s, s', w₁, w₁', rfl, rfl, hleft.world, by rintro ⟨⟩⟩
  · exact ⟨_, _, _, w₁, w₁', rfl, rfl, hleft.world, fun _ => .inl ⟨rfl, rfl⟩⟩
  · exact ⟨_, _, _, w₁, w₁', rfl, rfl, hleft.world, fun _ => .inr ⟨v, es, hshown v rfl, rfl, rfl⟩⟩

theorem spares {key : String} (hdescription : key ≠ "description") (hrule : key ≠ "rule") :
    portrait.Spares key := by
  intro v s
  have hkey : key ∉ (v.1.entries v.2).map (·.1) := by simp [entries, hdescription, hrule]
  exact ResourceState.get?_setAll hkey s

theorem overwrites (v : FirewallGroup × List FirewallRule) : portrait.Overwrites [] v := by
  intro s s' hagree key
  have hholds (s : ResourceState) : (s.setAll (v.1.entries v.2)).Holds (v.1.entries v.2) :=
    ResourceState.holds_setAll (by simp [entries]) s
  change (s.setAll (v.1.entries v.2)).values.get? key = (s'.setAll (v.1.entries v.2)).values.get? key
  by_cases hkey : key ∈ (v.1.entries v.2).map (·.1)
  · obtain ⟨entry, hentry, rfl⟩ := List.mem_map.mp hkey
    rw [(hholds s entry hentry).get?, (hholds s' entry hentry).get?]
  · rw [ResourceState.get?_setAll hkey, ResourceState.get?_setAll hkey]
    simp only [entries, List.map_cons, List.map_nil, List.mem_cons, List.not_mem_nil, or_false,
      not_or] at hkey
    exact hagree key (.inl (spares hkey.1 hkey.2))

theorem forgets (Complete : ResourceState → Prop) : portrait.Forgets [] Complete where
  deadlines := spares (by decide) (by decide)
  ordered v _ hs := ResourceState.ordered_setAll hs (v.1.entries v.2)
  reads _ _ _ _ _ _ hid hid' _ hnetwork := readsAlike hid hid' hnetwork
  overwrites v _ _ _ _ := overwrites v

end FirewallGroup

end CloudProvider
