import CloudProvider.Proofs.Resource.Runs
import CloudProvider.Proofs.State

/-!
# How objects are written into states

An object is written entry by entry, under keys that are attributes of its type. Writing it once more
changes nothing.

* `Lifecycle.Writing`: the entries of an object, and what is required of them.
* `Lifecycle.Writing.sound`: what is written fits the schema.
* `Lifecycle.Writing.again`: writing an object with the text beside it once more.
-/

namespace CloudProvider
open Json
set_option autoImplicit false

namespace Lifecycle

variable {α : Type}

/-- The entries of an object in the state of its resource, which may depend on the values that are
there, and what is required of them. -/
structure Writing (l : Lifecycle α) where
  entries : α → ResourceState → List (String × Json)
  writeTo_eq : ∀ x s, l.writeTo x s = s.setAll (entries x s)
  nodup : ∀ x s, ((entries x s).map (·.1)).Nodup
  fits : ∀ x s, ∀ entry ∈ entries x s, FitsAt l.schema.attributes entry.1 entry.2
  noId : ∀ x s, ResourceState.idKey ∉ (entries x s).map (·.1)
  noTimeouts : ∀ x s, Schema.timeoutsName ∉ (entries x s).map (·.1)
  /-- The text beside an object has an attribute of its own, without a default. -/
  beside : ∀ a, l.attachment = some a → a.name ≠ ResourceState.idKey ∧
    a.name ≠ Schema.timeoutsName ∧ ∀ x s, a.name ∉ (entries x s).map (·.1)
  /-- The entries stay what they are once they are there. -/
  stays : ∀ (x : α) (s s' : ResourceState), s'.Holds (entries x s) →
    (∀ key, key ∉ (entries x s).map (·.1) → (∀ a, l.attachment = some a → key ≠ a.name) →
      s'.values.get? key = s.values.get? key) →
    s'.Holds (entries x s')
  /-- The status of an object that takes time to become usable is among the entries. -/
  status : ∀ p, l.phases = some p → ∀ x s, ("status", .string (p.status x)) ∈ entries x s
  plain : plainAll l.schema.attributes = true
  noIdAttribute : ResourceState.idKey ∉ l.schema.attributes.map (·.1)

namespace Writing

variable {l : Lifecycle α} (h : l.Writing) {s : ResourceState}
include h

/-! ## Single objects -/

theorem writeTo_frame (x : α) (s : ResourceState) :
    l.writeTo x s = { s with values := (l.writeTo x s).values } := by
  rw [h.writeTo_eq]
  exact ResourceState.setAll_frame _ _

theorem writeTo_sound {defaults : Timeouts} (hs : s.Sound l.schema defaults) (x : α) :
    (l.writeTo x s).Sound l.schema defaults := by
  rw [h.writeTo_eq]
  refine hs.setAll h.plain fun entry hentry => ⟨?_, ?_, h.fits x s entry hentry⟩
  · intro e
    exact h.noId x s (e ▸ List.mem_map_of_mem hentry)
  · intro e
    exact h.noTimeouts x s (e ▸ List.mem_map_of_mem hentry)

/-! ## Objects with the text beside them -/

theorem write_frame (v : α × Option String) (s : ResourceState) :
    l.write v s = { s with values := (l.write v s).values } := by
  have hobject := h.writeTo_frame v.1 s
  unfold write
  split
  · rw [hobject]
    rfl
  · exact hobject

theorem sound {defaults : Timeouts} (hs : s.Sound l.schema defaults) (v : α × Option String) :
    (l.write v s).Sound l.schema defaults := by
  have hobject := h.writeTo_sound hs v.1
  unfold write
  split
  · next a text ha _ =>
    obtain ⟨hid, htimeouts, -⟩ := h.beside a ha
    exact hobject.set h.plain hid htimeouts (fitsAt_of_isScalar _ _ rfl)
  · exact hobject

theorem holds_write (v : α × Option String) (s : ResourceState) :
    (l.write v s).Holds (h.entries v.1 s) := by
  have hobject : (l.writeTo v.1 s).Holds (h.entries v.1 s) := by
    rw [h.writeTo_eq]
    exact ResourceState.holds_setAll (h.nodup v.1 s) s
  unfold write
  split
  · next a text ha _ => exact hobject.set ((h.beside a ha).2.2 v.1 s) _
  · exact hobject

theorem get?_write {key : String} (v : α × Option String) (s : ResourceState)
    (hkey : key ∉ (h.entries v.1 s).map (·.1))
    (hbeside : ∀ a, l.attachment = some a → key ≠ a.name) :
    (l.write v s).values.get? key = s.values.get? key := by
  have hobject : (l.writeTo v.1 s).values.get? key = s.values.get? key := by
    rw [h.writeTo_eq]
    exact ResourceState.get?_setAll hkey s
  unfold write
  split
  · next a text ha _ =>
    exact (Keyed.get?_insert_of_ne _ _ _ _ (hbeside a ha)).trans hobject
  · exact hobject

/-- Writing the same once more changes nothing, whatever the values before are. -/
theorem again (v : α × Option String) {s' : ResourceState}
    (hs' : s'.values = (l.write v s).values) : l.write v s' = s' := by
  have hholds : s'.Holds (h.entries v.1 s) := by
    intro entry hentry
    rw [hs']
    exact h.holds_write v s entry hentry
  have hobject : l.writeTo v.1 s' = s' := by
    rw [h.writeTo_eq]
    refine (h.stays v.1 s s' hholds ?_).setAll_eq
    intro key hkey hbeside
    rw [hs', h.get?_write v s hkey hbeside]
  unfold write
  split
  · next a text ha htext =>
    rw [hobject, ResourceState.set]
    have hsettled : Keyed.Settled a.name (.string text) s'.values := by
      rw [hs', write, ha, htext]
      exact Keyed.settled_insert _ _ _
    rw [hsettled]
  · exact hobject

end Writing

end Lifecycle

end CloudProvider
