import CloudProvider.Proofs.Schema.Filled
import CloudProvider.ResourceState

/-!
# Laws of resource states

* `ResourceState.setAll`, `ResourceState.Holds`: several entries written, and entries that are there.
* `ResourceState.Sound`: what holds of every state that an operation works on.
* `ResourceState.hasChange_of_eq`: equal values are no change.
* `ResourceState.text?_eq_some`, `ResourceState.decode_ok`, …: values in their types.
* `ResourceState.Sound.prepare_again`: a sound state that is sent back is prepared as it was.
-/

namespace CloudProvider
open Json
set_option autoImplicit false

/-! ## Equality of values -/

mutual

theorem Json.same_refl : ∀ v : Json, v.same v = true
  | .null => rfl
  | .bool b => by simp [same]
  | .number (.int n) => by simp [same, sameNumber]
  | .number (.float x) => by simp [same, sameNumber, Binary64.sameValue]
  | .string s => by simp [same]
  | .array items => by simpa [same] using Json.sameItems_refl items
  | .object members => by simpa [same] using Json.sameMembers_refl members

theorem Json.sameItems_refl : ∀ items : List Json, sameItems items items = true
  | [] => rfl
  | v :: rest => by simp [sameItems, Json.same_refl v, Json.sameItems_refl rest]

theorem Json.sameMembers_refl : ∀ members : List (String × Json), sameMembers members members = true
  | [] => rfl
  | (key, v) :: rest => by simp [sameMembers, Json.same_refl v, Json.sameMembers_refl rest]

end

theorem Json.sameOption_refl (v : Option Json) : sameOption v v = true := by
  cases v with
  | none => rfl
  | some v => exact v.same_refl

theorem Json.asObject?_eq_some {v : Json} {members : Keyed Json} :
    v.asObject? = some members ↔ v = .object members := by
  cases v <;> simp [asObject?]

namespace ResourceState

variable {s : ResourceState} {key : String} {entries : List (String × Json)} {schema : Schema}
  {defaults : Timeouts}

/-! ## Changes -/

theorem hasChange_of_eq (h : s.values.get? key = s.prior.get? key) : s.hasChange key = false := by
  simp [hasChange, h, sameOption_refl]

theorem hasChanges_of_eq (keys : List String) (h : s.values = s.prior) :
    s.hasChanges keys = false := by
  rw [hasChanges, List.any_eq_false]
  intro key _
  simp [hasChange_of_eq (congrArg (Keyed.get? key) h)]

/-! ## Values in their types -/

theorem text?_eq_some {t : String} : s.text? key = some t ↔ s.values.get? key = some (.string t) := by
  rw [text?, value?]
  cases s.values.get? key with
  | none => simp
  | some v => cases v <;> simp [Option.filter, isNull, asString?]

theorem requiredText_ok {t : String} :
    s.requiredText key = .ok t ↔ s.values.get? key = some (.string t) := by
  rw [← text?_eq_some, requiredText]
  cases s.text? key <;> simp

theorem requireId_ok {id : String} : s.requireId = .ok id ↔ s.id = some id := by
  rw [requireId]
  cases s.id <;> simp

theorem bool?_eq_some {b : Bool} : s.bool? key = some b ↔ s.values.get? key = some (.bool b) := by
  rw [bool?, value?]
  cases s.values.get? key with
  | none => simp
  | some v => cases v <;> simp [Option.filter, isNull, asBool?]

theorem int?_eq_some {n : Int64} : s.int? key = some n ↔
    ∃ i, s.values.get? key = some (.number (.int i)) ∧ i.toInt64? = some n := by
  rw [int?, value?]
  cases s.values.get? key with
  | none => simp
  | some v =>
    cases v with
    | number k => cases k <;> simp [Option.filter, isNull, asInt64?]
    | _ => simp [Option.filter, isNull, asInt64?]

theorem decode_ok {α : Type} {decode : Decoder α} {o : Option α} :
    s.decode decode key = .ok o ↔
      s.value? key = none ∧ o = none ∨
        ∃ v a, s.value? key = some v ∧ decode v = .ok a ∧ o = some a := by
  rw [ResourceState.decode]
  cases s.value? key with
  | none => simp [eq_comm]
  | some v => cases hv : decode v <;> simp [hv, eq_comm]

/-! ## Values that are unset -/

theorem text?_of_unset (h : s.value? key = none) : s.text? key = none := by
  rw [text?, h]
  rfl

theorem int?_of_unset (h : s.value? key = none) : s.int? key = none := by
  rw [int?, h]
  rfl

theorem decode_of_unset {α : Type} {decode : Decoder α} {o : Option α} (hunset : s.value? key = none)
    (h : s.decode decode key = .ok o) : o = none := by
  rw [ResourceState.decode, hunset] at h
  exact (Except.ok.inj h).symm

/-! ## Writing entries -/

/-- Writes entries one after the other. -/
def setAll (s : ResourceState) (entries : List (String × Json)) : ResourceState :=
  entries.foldl (fun s entry => s.set entry.1 entry.2) s

/-- The entries are there: writing one of them changes nothing. -/
def Holds (s : ResourceState) (entries : List (String × Json)) : Prop :=
  ∀ entry ∈ entries, Keyed.Settled entry.1 entry.2 s.values

theorem setAll_cons (s : ResourceState) (entry : String × Json) (entries : List (String × Json)) :
    s.setAll (entry :: entries) = (s.set entry.1 entry.2).setAll entries := rfl

theorem setAll_frame (s : ResourceState) (entries : List (String × Json)) :
    s.setAll entries = { s with values := (s.setAll entries).values } := by
  induction entries generalizing s with
  | nil => rfl
  | cons entry rest ih =>
    rw [setAll_cons, ih]
    rfl

theorem get?_setAll (hkey : key ∉ entries.map (·.1)) (s : ResourceState) :
    (s.setAll entries).values.get? key = s.values.get? key := by
  induction entries generalizing s with
  | nil => rfl
  | cons entry rest ih =>
    simp only [List.map_cons, List.mem_cons, not_or] at hkey
    rw [setAll_cons, ih hkey.2]
    exact Keyed.get?_insert_of_ne _ _ _ _ hkey.1

theorem settled_setAll {v : Json} (hkey : key ∉ entries.map (·.1))
    (h : Keyed.Settled key v s.values) : Keyed.Settled key v (s.setAll entries).values := by
  induction entries generalizing s with
  | nil => exact h
  | cons entry rest ih =>
    simp only [List.map_cons, List.mem_cons, not_or] at hkey
    rw [setAll_cons]
    exact ih hkey.2 (h.insert hkey.1 _)

theorem holds_setAll (hnodup : (entries.map (·.1)).Nodup) (s : ResourceState) :
    (s.setAll entries).Holds entries := by
  induction entries generalizing s with
  | nil => simp [Holds]
  | cons entry rest ih =>
    simp only [List.map_cons, List.nodup_cons] at hnodup
    intro e he
    rw [setAll_cons]
    rcases List.mem_cons.mp he with rfl | he
    · exact settled_setAll hnodup.1 (Keyed.settled_insert _ _ _)
    · exact ih hnodup.2 _ e he

theorem Holds.setAll_eq (h : s.Holds entries) : s.setAll entries = s := by
  induction entries with
  | nil => rfl
  | cons entry rest ih =>
    have hset : s.set entry.1 entry.2 = s := by
      rw [set, h entry (List.mem_cons_self ..)]
    rw [setAll_cons, hset]
    exact ih fun e he => h e (List.mem_cons_of_mem _ he)

theorem Holds.set (h : s.Holds entries) (hkey : key ∉ entries.map (·.1)) (v : Json) :
    (s.set key v).Holds entries := by
  intro entry hentry
  refine (h entry hentry).insert ?_ v
  rintro rfl
  exact hkey (List.mem_map_of_mem hentry)

/-! ## Sound states -/

/-- What holds of every state that an operation works on: the defaults are there, the identity is
kept apart, and the deadlines are those of the values. -/
structure Sound (schema : Schema) (defaults : Timeouts) (s : ResourceState) : Prop where
  filled : Filled schema.attributes s.values
  noIdentity : s.values.get? idKey = none
  deadlines : defaults.withOverrides (s.values.get? Schema.timeoutsName) = .ok s.timeouts

theorem ofJson_noIdentity (document : Json) : (ofJson document).values.get? idKey = none :=
  Keyed.get?_erase_self _ _

theorem withPrior_values (s : ResourceState) (prior : Json) :
    (s.withPrior prior).values = s.values := by
  unfold withPrior
  split <;> rfl

theorem values_of_prepare {s' : ResourceState} (h : s.prepare schema defaults = .ok s') :
    s'.values = schema.fill s.values := by
  simp only [prepare, bind, Except.bind] at h
  split at h
  · cases h
  · obtain rfl := Except.ok.inj h
    rfl

theorem sound_of_prepare {s' : ResourceState} (hplain : plainAll schema.attributes = true)
    (hid : idKey ∉ schema.attributes.map (·.1)) (hs : s.values.get? idKey = none)
    (h : s.prepare schema defaults = .ok s') :
    s'.Sound schema defaults ∧ s'.id = s.id ∧ s'.prior = s.prior ∧
      s'.values = schema.fill s.values := by
  simp only [prepare, bind, Except.bind] at h
  split at h
  · cases h
  · next timeouts hdeadlines =>
    obtain rfl := Except.ok.inj h
    refine ⟨⟨fillAll_filled _ hplain _, ?_, hdeadlines⟩, rfl, rfl, rfl⟩
    exact (get?_fillAll hid s.values).trans hs

namespace Sound

theorem set (hplain : plainAll schema.attributes = true) (h : s.Sound schema defaults) {v : Json}
    (hid : key ≠ idKey) (htimeouts : key ≠ Schema.timeoutsName)
    (hfits : FitsAt schema.attributes key v) : (s.set key v).Sound schema defaults where
  filled := h.filled.insert hplain hfits
  noIdentity := (Keyed.get?_insert_of_ne _ _ _ _ (Ne.symm hid)).trans h.noIdentity
  deadlines := by
    rw [ResourceState.set, Keyed.get?_insert_of_ne _ _ _ _ (Ne.symm htimeouts)]
    exact h.deadlines

theorem setAll (hplain : plainAll schema.attributes = true) (h : s.Sound schema defaults)
    (hentries : ∀ entry ∈ entries, entry.1 ≠ idKey ∧ entry.1 ≠ Schema.timeoutsName ∧
      FitsAt schema.attributes entry.1 entry.2) :
    (s.setAll entries).Sound schema defaults := by
  induction entries generalizing s with
  | nil => exact h
  | cons entry rest ih =>
    obtain ⟨hid, htimeouts, hfits⟩ := hentries entry (List.mem_cons_self ..)
    rw [setAll_cons]
    exact ih (h.set hplain hid htimeouts hfits) fun e he => hentries e (List.mem_cons_of_mem _ he)

theorem setId (h : s.Sound schema defaults) (id : String) : (s.setId id).Sound schema defaults :=
  ⟨h.filled, h.noIdentity, h.deadlines⟩

theorem ofJson_eq (h : s.Sound schema defaults) {document : Json} (hdoc : s.toJson? = some document) :
    (ofJson document).withPrior document = ⟨s.id, s.values, s.values, .default⟩ := by
  obtain ⟨id, hid, rfl⟩ := Option.map_eq_some_iff.mp hdoc
  have hvalues : (s.values.insert idKey (.string id)).erase idKey = s.values := by
    rw [Keyed.erase_insert, Keyed.erase_of_get? h.noIdentity]
  simp only [ofJson, withPrior, asObject?, Option.getD_some, Keyed.get?_insert_self,
    Option.bind_some, asString?, hvalues, hid, Option.filter_some]
  by_cases hempty : id = ""
  · simp [hempty]
  · simp [hempty]

/-- A state that is sent back is prepared as it was. -/
theorem prepare_again (h : s.Sound schema defaults) {document : Json}
    (hdoc : s.toJson? = some document) :
    ((ofJson document).withPrior document).prepare schema defaults =
      .ok ⟨s.id, s.values, s.values, s.timeouts⟩ := by
  rw [h.ofJson_eq hdoc]
  simp only [prepare, Schema.fill, h.filled.fillAll_eq, h.deadlines]
  rfl

end Sound

end ResourceState

end CloudProvider
