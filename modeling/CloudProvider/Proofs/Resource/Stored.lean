import CloudProvider.Proofs.Resource.Portrait

/-!
# APIs that store what they are sent

To such an API an object is a document. What is shown of the object is what is stored, its status aside,
and each member of a change that is sent takes the place of the stored one.

* `Lifecycle.Tells`, `Lifecycle.Keeps`: what such an API does, exchange by exchange.
* `Lifecycle.Keeps.of_reads`, `Lifecycle.Keeps.of_patches`: reading and changing an object.
* `Lifecycle.Recorded`: the state in which a stored object is recorded.
* `Lifecycle.read_stored`, `Lifecycle.update_stored`: the operations record what is stored.
-/

namespace CloudProvider
open Json
set_option autoImplicit false

/-- The members are those of the document, the status aside. -/
def AgreesWith (doc members : Keyed Json) : Prop :=
  ∀ key, key ≠ "status" → members.get? key = doc.get? key

namespace Lifecycle

variable {α : Type} (l : Lifecycle α)

/-! ## Such an API -/

/-- If the answer shows an object at all, it shows the stored one. -/
def Tells (doc : Keyed Json) (e : Exchange) : Prop :=
  ∀ v x, e.result = .ok v → l.decoder v = .ok x → ∃ members, v = .object members ∧ AgreesWith doc members

/-- The API shows what is stored and stores what it is sent, from one document to the other. The answer
to a change shows the object only where nothing has to be waited for. -/
inductive Keeps : Keyed Json → List Exchange → Keyed Json → Prop where
  | done (doc : Keyed Json) : Keeps doc [] doc
  | shown {doc doc' : Keyed Json} {e : Exchange} {es : List Exchange} :
      e.Reads → l.Tells doc e → Keeps doc es doc' → Keeps doc (e :: es) doc'
  | stored {doc doc' body : Keyed Json} {e : Exchange} {es : List Exchange} :
      e.request.method = .patch → e.request.body = some (.object body) →
      (l.phases = none → l.Tells (body.onto doc) e) → Keeps (body.onto doc) es doc' →
      Keeps doc (e :: es) doc'
  | refused {doc doc' : Keyed Json} {e : Exchange} {es : List Exchange} :
      e.request.method = .patch → (∀ v, e.result ≠ .ok v) → Keeps doc es doc' → Keeps doc (e :: es) doc'

variable {l}

namespace Keeps

theorem append {doc doc' : Keyed Json} {es es' : List Exchange} (h : l.Keeps doc (es ++ es') doc') :
    ∃ doc₁, l.Keeps doc es doc₁ ∧ l.Keeps doc₁ es' doc' := by
  induction es generalizing doc with
  | nil => exact ⟨doc, .done doc, h⟩
  | cons e es ih =>
    cases h with
    | shown hreads htells h =>
      obtain ⟨doc₁, hfirst, hlast⟩ := ih h
      exact ⟨doc₁, .shown hreads htells hfirst, hlast⟩
    | stored hpatch hbody htells h =>
      obtain ⟨doc₁, hfirst, hlast⟩ := ih h
      exact ⟨doc₁, .stored hpatch hbody htells hfirst, hlast⟩
    | refused hpatch hresult h =>
      obtain ⟨doc₁, hfirst, hlast⟩ := ih h
      exact ⟨doc₁, .refused hpatch hresult hfirst, hlast⟩

theorem of_reads {doc doc' : Keyed Json} {es : List Exchange} (h : l.Keeps doc es doc')
    (hreads : ∀ e ∈ es, e.Reads) : doc' = doc ∧ ∀ e ∈ es, l.Tells doc e := by
  induction h with
  | done doc => exact ⟨rfl, by simp⟩
  | shown hread htells h ih =>
    obtain ⟨rfl, hall⟩ := ih fun e he => hreads e (List.mem_cons_of_mem _ he)
    exact ⟨rfl, List.forall_mem_cons.mpr ⟨htells, hall⟩⟩
  | stored hpatch => cases hpatch.symm.trans (hreads _ (List.mem_cons_self ..))
  | refused hpatch => cases hpatch.symm.trans (hreads _ (List.mem_cons_self ..))

/-- A change that is sent several times is stored if the last answer is a success. -/
theorem of_patches {doc doc' body : Keyed Json} {es : List Exchange} {e : Exchange} {v : Json}
    (h : l.Keeps doc es doc')
    (hpatches : ∀ e ∈ es, e.request.method = .patch ∧ e.request.body = some (.object body))
    (he : es.getLast? = some e) (hresult : e.result = .ok v) :
    (∀ key, doc'.get? key = (body.onto doc).get? key) ∧ (l.phases = none → l.Tells doc' e) := by
  induction h with
  | done doc => cases he
  | shown hread =>
    cases hread.symm.trans (hpatches _ (List.mem_cons_self ..)).1
  | @stored doc doc' sent e' rest hpatch hsent htells hrest ih =>
    obtain ⟨-, hbody⟩ := hpatches _ (List.mem_cons_self ..)
    obtain rfl : sent = body := Json.object.inj (Option.some.inj (hsent.symm.trans hbody))
    cases rest with
    | nil =>
      obtain rfl := Option.some.inj he
      cases hrest
      exact ⟨fun _ => rfl, htells⟩
    | cons e₁ rest =>
      obtain ⟨hsame, htells'⟩ := ih (fun e he => hpatches e (List.mem_cons_of_mem _ he)) he
      refine ⟨fun key => ?_, htells'⟩
      rw [hsame key]
      simp only [Keyed.get?_onto]
      cases sent.get? key <;> rfl
  | @refused doc doc' e' rest hpatch hnot hrest ih =>
    cases rest with
    | nil =>
      obtain rfl := Option.some.inj he
      exact absurd hresult (hnot v)
    | cons e₁ rest => exact ih (fun e he => hpatches e (List.mem_cons_of_mem _ he)) he

end Keeps

/-! ## Recording stored objects -/

variable (l) in
/-- The second state is the first one with the stored object written into it. -/
def Recorded (doc : Keyed Json) (s s' : ResourceState) : Prop :=
  ∃ members x text, l.decoder (.object members) = .ok x ∧ AgreesWith doc members ∧
    s' = l.write (x, text) s

theorem Recorded.of_shows {doc : Keyed Json} {s s' : ResourceState} {e : Exchange} {x : α}
    {text : Option String} (htells : l.Tells doc e) (hshows : e.Shows l.decoder x)
    (hs' : s' = l.write (x, text) s) : l.Recorded doc s s' := by
  obtain ⟨v, hv, hx⟩ := hshows
  obtain ⟨members, rfl, hagrees⟩ := htells v x hv hx
  exact ⟨members, x, text, hx, hagrees, hs'⟩

theorem Recorded.congr {doc doc' : Keyed Json} {s s' : ResourceState} (h : l.Recorded doc s s')
    (hsame : ∀ key, doc.get? key = doc'.get? key) : l.Recorded doc' s s' := by
  obtain ⟨members, x, text, hx, hagrees, hs'⟩ := h
  exact ⟨members, x, text, hx, fun key hkey => (hagrees key hkey).trans (hsame key), hs'⟩

variable {conn : Connection} {s : ResourceState} {w : World} {work : Work}

theorem record_reads {c : Collection} {x : α} (h : l.record conn c x ⟨s, w⟩ = (.ok (), work)) :
    ∃ text es, work.state = l.write (x, text) s ∧ Traffic w es work.world ∧ ∀ e ∈ es, e.Reads := by
  rw [record_run] at h
  obtain ⟨es, htraffic, hgets, -⟩ := l.beside_run conn c x w
  rcases hrun : l.beside conn c x w with ⟨e | text, w'⟩ <;> rw [hrun] at h htraffic
  · cases h
  · obtain rfl := (Prod.mk.inj h).2
    refine ⟨text, es, rfl, htraffic, fun e he => ?_⟩
    obtain ⟨a, -, hget⟩ := hgets e he
    exact congrArg Request.method hget

theorem read_stored {doc doc' : Keyed Json} {es : List Exchange}
    (h : l.read conn ⟨s, w⟩ = (.ok (), work)) (hid : work.state.id ≠ none)
    (htraffic : Traffic w es work.world) (hkeeps : l.Keeps doc es doc') :
    doc' = doc ∧ l.Recorded doc s work.state := by
  rcases l.read_run conn s w with ⟨failure, hrun, -⟩ |
    ⟨id, c, looks, w₁, -, -, hasked, ⟨failure, hrun, -⟩ | ⟨hrun, -⟩ | ⟨e, x, he, hshows, hrun⟩⟩
  · cases h.symm.trans hrun
  · cases h.symm.trans hrun
  · obtain rfl := (Prod.mk.inj (h.symm.trans hrun)).2
    exact absurd rfl hid
  · obtain ⟨text, rest, hstate, htraffic', hreads⟩ := record_reads (hrun.symm.trans h)
    obtain rfl := htraffic.unique (hasked.traffic.trans htraffic')
    have hall : ∀ e ∈ looks ++ rest, e.Reads := by
      intro e he
      rcases List.mem_append.mp he with he | he
      · exact congrArg Request.method (hasked.request e he)
      · exact hreads e he
    obtain ⟨hdoc, htells⟩ := hkeeps.of_reads hall
    have hlast := htells e (List.mem_append_left _ (List.mem_of_getLast? he))
    exact ⟨hdoc, .of_shows hlast hshows hstate⟩

/-- Changing an object that is there records what is stored, with the changes that were sent if there
were any. -/
theorem update_stored {doc doc' : Keyed Json} {es : List Exchange}
    (hobject : ∀ v, l.changes s = .ok v → ∃ body, v = .object body)
    (h : l.update conn ⟨s, w⟩ = (.ok (), work)) (hid : work.state.id ≠ none)
    (htraffic : Traffic w es work.world) (hkeeps : l.Keeps doc es doc') :
    s.hasChanges l.updatable = false ∧ l.Recorded doc s work.state ∨
      s.hasChanges l.updatable = true ∧ ∃ id c body, s.id = some id ∧ l.place.collection s = .ok c ∧
        l.changes s = .ok (.object body) ∧ l.Recorded (Keyed.onto body doc) s work.state ∧
        conn.client.Reaches .patch (c.object id) (some (.object body)) w := by
  rcases l.update_run conn s w with ⟨failure, hrun, -⟩ | ⟨hsame, hrun⟩ |
    ⟨id, c, v, patches, w₁, hchanged, hsid, hcollection, hchanges, hasked,
      ⟨failure, hrun⟩ | ⟨e, x, he, hshows, hrun⟩⟩
  · cases h.symm.trans hrun
  · exact .inl ⟨hsame, (read_stored (hrun.symm.trans h) hid htraffic hkeeps).2⟩
  · cases h.symm.trans hrun
  right
  obtain ⟨body, rfl⟩ := hobject v hchanges
  have hreaches := hasked.sent.mp fun hnil => by simp [hnil] at he
  refine ⟨hchanged, id, c, body, hsid, hcollection, hchanges, ?_, hreaches⟩
  obtain ⟨polls, w₂, htraffic₁, hgets, hcases⟩ :=
    l.settle_run conn c id (·.updating) (·.update) x s w₁
  rw [hrun] at h
  rcases hcases with ⟨failure, hsettle⟩ | ⟨y, hsettle, hsync, hasync⟩
  · cases h.symm.trans hsettle
  obtain ⟨text, rest, hstate, htraffic₂, hreads⟩ := record_reads (hsettle.symm.trans h)
  obtain rfl := htraffic.unique (hasked.traffic.trans (htraffic₁.trans htraffic₂))
  obtain ⟨doc₁, hpatched, hrest⟩ := hkeeps.append
  have hall : ∀ e ∈ polls ++ rest, e.Reads := by
    intro e he
    rcases List.mem_append.mp he with he | he
    · exact congrArg Request.method (hgets e he)
    · exact hreads e he
  obtain ⟨-, htells⟩ := hrest.of_reads hall
  have ⟨v, hv, _⟩ := hshows
  have hpatches : ∀ e ∈ patches,
      e.request.method = .patch ∧ e.request.body = some (.object body) := by
    intro e he
    rw [hasked.request e he]
    exact ⟨rfl, rfl⟩
  obtain ⟨hstored, hanswered⟩ := hpatched.of_patches hpatches he hv
  -- The object is that of the last look if it takes time to change, and else that of the answer.
  have hrecorded : l.Recorded doc₁ s work.state := by
    cases hphases : l.phases with
    | none =>
      obtain ⟨rfl, -⟩ := hsync hphases
      exact .of_shows (hanswered hphases) hshows hstate
    | some p =>
      obtain ⟨-, e', he', hshows'⟩ := hasync p hphases
      have hlast := htells e' (List.mem_append_left _ (List.mem_of_getLast? he'))
      exact .of_shows hlast hshows' hstate
  exact hrecorded.congr hstored

end Lifecycle

end CloudProvider
