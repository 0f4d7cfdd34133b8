import CloudProvider.Proofs.Keyed
import CloudProvider.Schema.Defaults

/-!
# Values that have their defaults

* `Filled`: every attribute that is set has its defaults inside, and none that has a default is unset.
* `AttrType.plain`: names are different and defaults are scalars, as in all schemas of resources.
* `AttrType.blocks?`, `blocks_induction`: what is filled inside a value, and going down there.
* `fillAll_keeps`: what filling keeps of members.
* `fillAll_filled`: filling gives values that are filled.
* `Filled.fillAll_eq`: filling them again changes nothing.
* `Filled.insert`: writing a value that is filled itself.
-/

namespace CloudProvider
set_option autoImplicit false

/-- A value that is set and has no parts. -/
def Json.isScalar : Json → Bool
  | .null | .array _ | .object _ => false
  | .bool _ | .number _ | .string _ => true

theorem Json.isNull_of_isScalar {v : Json} (h : v.isScalar = true) : v.isNull = false := by
  cases v <;> simp_all [isScalar, isNull]

mutual

/-- The attributes have different names and their defaults are scalars, at every level. -/
def AttrType.plain : AttrType → Bool
  | .object attributes => plainAll attributes
  | .list t | .set t | .map t => t.plain
  | .string | .int | .float | .bool => true

def plainAll : List (String × Attribute) → Bool
  | [] => true
  | (name, ⟨type, traits⟩) :: rest =>
    !(rest.map (·.1)).contains name && traits.default.all Json.isScalar && type.plain &&
      plainAll rest

end

theorem plain_of_mem {attributes : List (String × Attribute)} {entry : String × Attribute}
    (hplain : plainAll attributes = true) (hentry : entry ∈ attributes) :
    entry.2.traits.default.all Json.isScalar = true ∧ entry.2.type.plain = true := by
  induction attributes with
  | nil => cases hentry
  | cons head rest ih =>
    obtain ⟨name, type, traits⟩ := head
    simp only [plainAll, Bool.and_eq_true] at hplain
    obtain ⟨⟨⟨-, hscalar⟩, htype⟩, hrest⟩ := hplain
    rcases List.mem_cons.mp hentry with rfl | hmem
    · exact ⟨hscalar, htype⟩
    · exact ih hrest hmem

/-- What an attribute has to do with the values: a value that is set has its defaults inside, and
a default is not missing. -/
def Attribute.FilledIn (a : Attribute) (name : String) (values : Keyed Json) : Prop :=
  match (values.get? name).filter (!·.isNull) with
  | some v => a.type.fill v = v ∧ Keyed.Settled name v values
  | none => a.traits.default = none

/-- Every attribute is filled in. -/
def Filled (attributes : List (String × Attribute)) (values : Keyed Json) : Prop :=
  ∀ entry ∈ attributes, entry.2.FilledIn entry.1 values

/-! ## Filling what is filled -/

theorem Filled.fillAll_eq {attributes : List (String × Attribute)} {values : Keyed Json}
    (h : Filled attributes values) : fillAll attributes values = values := by
  induction attributes with
  | nil => rfl
  | cons entry rest ih =>
    obtain ⟨name, type, traits⟩ := entry
    have hhead := h _ (List.mem_cons_self ..)
    have hrest := ih fun entry hentry => h entry (List.mem_cons_of_mem _ hentry)
    simp only [Attribute.FilledIn] at hhead
    rw [fillAll]
    cases hvalue : (values.get? name).filter (!·.isNull) with
    | some v =>
      rw [hvalue] at hhead
      obtain ⟨hfill, hsettled⟩ := hhead
      simp only [hfill]
      rw [hsettled, hrest]
    | none =>
      rw [hvalue] at hhead
      simp only [show traits.default = none from hhead]
      exact hrest

/-! ## What filling does not touch -/

variable {name key : String} {attributes : List (String × Attribute)} {values : Keyed Json} {v : Json}

theorem get?_fillAll (hname : name ∉ attributes.map (·.1)) (values : Keyed Json) :
    (fillAll attributes values).get? name = values.get? name := by
  induction attributes generalizing values with
  | nil => rfl
  | cons entry rest ih =>
    obtain ⟨other, type, traits⟩ := entry
    simp only [List.map_cons, List.mem_cons, not_or] at hname
    rw [fillAll, ih hname.2]
    split
    · exact Keyed.get?_insert_of_ne _ _ _ _ hname.1
    · exact Keyed.get?_insert_of_ne _ _ _ _ hname.1
    · rfl

theorem get?_fillAll_congr {values values' : Keyed Json} (h : values.get? key = values'.get? key) :
    (fillAll attributes values).get? key = (fillAll attributes values').get? key := by
  induction attributes generalizing values values' with
  | nil => exact h
  | cons entry rest ih =>
    obtain ⟨name, type, traits⟩ := entry
    rw [fillAll, fillAll]
    apply ih
    by_cases hkey : key = name
    · subst hkey
      rw [← h]
      split
      · simp
      · simp
      · exact h
    · have hsame (v : Json) (values : Keyed Json) :
          (values.insert name v).get? key = values.get? key :=
        Keyed.get?_insert_of_ne _ _ _ _ hkey
      cases (values.get? name).filter (!·.isNull) <;> cases (values'.get? name).filter (!·.isNull) <;>
        cases traits.default <;> simp only [hsame, h]

theorem Keyed.Ordered.fillAll (h : Keyed.Ordered values) :
    Keyed.Ordered (CloudProvider.fillAll attributes values) := by
  induction attributes generalizing values with
  | nil => exact h
  | cons entry rest ih =>
    obtain ⟨name, type, traits⟩ := entry
    rw [CloudProvider.fillAll]
    apply ih
    split
    · exact h.insert _ _
    · exact h.insert _ _
    · exact h

theorem Keyed.Settled.fillAll (hname : name ∉ attributes.map (·.1))
    (h : Keyed.Settled name v values) : Keyed.Settled name v (fillAll attributes values) := by
  induction attributes generalizing values with
  | nil => exact h
  | cons entry rest ih =>
    obtain ⟨other, type, traits⟩ := entry
    simp only [List.map_cons, List.mem_cons, not_or] at hname
    rw [CloudProvider.fillAll]
    apply ih hname.2
    split
    · exact h.insert hname.1 _
    · exact h.insert hname.1 _
    · exact h

/-! ## Filling -/

theorem AttrType.fill_of_isScalar (t : AttrType) (h : v.isScalar = true) : t.fill v = v := by
  cases v with
  | null | array | object => cases h
  | bool | number | string =>
    cases t with
    | list t | set t => cases t <;> rfl
    | _ => rfl

theorem Json.mapObjects_mapObjects {f : Keyed Json → Keyed Json} (hf : ∀ m, f (f m) = f m)
    (v : Json) : (v.mapObjects f).mapObjects f = v.mapObjects f := by
  cases v with
  | object members => simp [mapObjects, hf]
  | array items =>
    simp only [mapObjects, List.map_map, array.injEq]
    apply List.map_congr_left
    intro item _
    cases item <;> simp [hf]
  | _ => rfl

/-- The attributes of the objects that are filled inside a value of the type. -/
def AttrType.blocks? : AttrType → Option (List (String × Attribute))
  | .object attributes | .list (.object attributes) | .set (.object attributes) => some attributes
  | _ => none

theorem AttrType.fill_eq (t : AttrType) (v : Json) : t.fill v =
    match t.blocks? with
    | some inner => v.mapObjects (fillAll inner)
    | none => v := by
  cases t with
  | object attributes => simp only [fill, blocks?]
  | list t | set t => cases t <;> simp only [fill, blocks?]
  | _ => simp only [fill, blocks?]

theorem plainAll_of_blocks? {t : AttrType} {inner : List (String × Attribute)} (h : t.plain = true)
    (hinner : t.blocks? = some inner) : plainAll inner = true := by
  unfold AttrType.blocks? at hinner
  split at hinner <;> cases hinner <;> exact h

theorem AttrType.sizeOf_blocks?_lt {t : AttrType} {inner : List (String × Attribute)}
    (h : t.blocks? = some inner) : sizeOf inner < sizeOf t := by
  unfold blocks? at h
  split at h <;> cases h <;> simp <;> omega

-- Filling goes down into objects by way of the types of their attributes. What it does at one level
-- follows from what it does one level below.

/-- What holds of attributes as soon as it holds of those of all blocks in them. -/
theorem blocks_induction {P : List (String × Attribute) → Prop}
    (h : ∀ attributes, (∀ entry ∈ attributes, ∀ inner, entry.2.type.blocks? = some inner → P inner) →
      P attributes) (attributes : List (String × Attribute)) : P attributes := by
  apply h
  intro entry hentry inner hinner
  have hdown : sizeOf inner < sizeOf attributes := by
    have hblocks := AttrType.sizeOf_blocks?_lt hinner
    have hmem := List.sizeOf_lt_of_mem hentry
    obtain ⟨name, type, traits⟩ := entry
    simp only [Prod.mk.sizeOf_spec, Attribute.mk.sizeOf_spec] at hmem hblocks
    omega
  exact blocks_induction h inner
termination_by sizeOf attributes

/-- Filling keeps what holds of members, if it holds of the defaults, if inserting keeps it, and if
changing the objects inside values keeps it wherever the change does. -/
theorem fillAll_keeps {D : List (String × Attribute) → Prop} {Q : Keyed Json → Prop} {R : Json → Prop}
    (hdefaults : ∀ attributes, D attributes → ∀ entry ∈ attributes,
      (∀ d, entry.2.traits.default = some d → R d) ∧
        ∀ inner, entry.2.type.blocks? = some inner → D inner)
    (hget : ∀ m key v, Q m → Keyed.get? key m = some v → R v)
    (hinsert : ∀ m key v, Q m → R v → Q (Keyed.insert key v m))
    (hobjects : ∀ f : Keyed Json → Keyed Json, (∀ m, Q m → Q (f m)) → ∀ v, R v → R (v.mapObjects f))
    (attributes : List (String × Attribute)) : D attributes → ∀ m, Q m → Q (fillAll attributes m) := by
  induction attributes using blocks_induction with
  | h attributes ih =>
    intro hD
    have hentries := hdefaults attributes hD
    clear hD
    induction attributes with
    | nil => exact fun m hm => hm
    | cons entry rest ihrest =>
      intro m hm
      obtain ⟨⟨hdefault, hblocks⟩, hrest⟩ := List.forall_mem_cons.mp hentries
      obtain ⟨hentry, hentriesRest⟩ := List.forall_mem_cons.mp ih
      have hstep := ihrest hentriesRest hrest
      obtain ⟨name, type, traits⟩ := entry
      rw [fillAll]
      apply hstep
      cases hvalue : (m.get? name).filter (!·.isNull) with
      | some v =>
        have hv := hget m name v hm (Option.filter_eq_some_iff.mp hvalue).1
        apply hinsert m name _ hm
        rw [AttrType.fill_eq]
        cases hinner : type.blocks? with
        | none => exact hv
        | some inner => exact hobjects _ (hentry inner hinner (hblocks inner hinner)) v hv
      | none =>
        cases hd : traits.default with
        | some d => exact hinsert m name d hm (hdefault d hd)
        | none => exact hm

theorem AttrType.isNull_fill (t : AttrType) (h : v.isNull = false) : (t.fill v).isNull = false := by
  rw [fill_eq]
  cases t.blocks? with
  | some inner => cases v <;> simp_all [Json.mapObjects, Json.isNull]
  | none => exact h

/-- Filling an attribute fills it in, whatever is filled afterwards under other names. -/
theorem Attribute.filledIn_fillAll {type : AttrType} {traits : Traits}
    (hname : name ∉ attributes.map (·.1)) (hscalar : traits.default.all Json.isScalar = true)
    (hfill : ∀ v, type.fill (type.fill v) = type.fill v) (values : Keyed Json) :
    (Attribute.mk type traits).FilledIn name
      (fillAll ((name, ⟨type, traits⟩) :: attributes) values) := by
  rw [fillAll]
  have hset (v : Json) (hv : v.isNull = false) (hsame : type.fill v = v) :
      (Attribute.mk type traits).FilledIn name (fillAll attributes (values.insert name v)) := by
    have hsettled := (Keyed.settled_insert name v values).fillAll hname
    simp only [FilledIn, hsettled.get?, Option.filter_some, hv, Bool.not_false, if_true]
    exact ⟨hsame, hsettled⟩
  cases hvalue : (values.get? name).filter (!·.isNull) with
  | some v =>
    have hv : v.isNull = false := by simpa using (Option.filter_eq_some_iff.mp hvalue).2
    exact hset _ (type.isNull_fill hv) (hfill v)
  | none =>
    cases hdefault : traits.default with
    | some d =>
      have hd : d.isScalar = true := by simpa [hdefault] using hscalar
      exact hset d (Json.isNull_of_isScalar hd) (type.fill_of_isScalar hd)
    | none => simp only [FilledIn, get?_fillAll hname, hvalue, hdefault]

theorem filled_of_plainAll (hplain : plainAll attributes = true)
    (hfill : ∀ entry ∈ attributes, ∀ v, entry.2.type.fill (entry.2.type.fill v) = entry.2.type.fill v)
    (values : Keyed Json) : Filled attributes (fillAll attributes values) := by
  induction attributes generalizing values with
  | nil =>
    intro entry hentry
    cases hentry
  | cons entry rest ih =>
    obtain ⟨name, type, traits⟩ := entry
    obtain ⟨htype, hrestFill⟩ := List.forall_mem_cons.mp hfill
    simp only [plainAll, Bool.and_eq_true, Bool.not_eq_true', List.contains_eq_mem,
      decide_eq_false_iff_not] at hplain
    obtain ⟨⟨⟨hname, hscalar⟩, -⟩, hrest⟩ := hplain
    intro entry hentry
    rcases List.mem_cons.mp hentry with rfl | hentry
    · exact Attribute.filledIn_fillAll hname hscalar htype values
    · rw [fillAll]
      exact ih hrest hrestFill _ entry hentry

theorem fillAll_filled (attributes : List (String × Attribute)) : plainAll attributes = true →
    ∀ values, Filled attributes (fillAll attributes values) := by
  induction attributes using blocks_induction with
  | h attributes ih =>
    intro hplain
    apply filled_of_plainAll hplain
    intro entry hentry v
    rw [AttrType.fill_eq, AttrType.fill_eq]
    cases hinner : entry.2.type.blocks? with
    | none => rfl
    | some inner =>
      have hinnerPlain := plainAll_of_blocks? (plain_of_mem hplain hentry).2 hinner
      exact Json.mapObjects_mapObjects (fun m => (ih entry hentry inner hinner hinnerPlain m).fillAll_eq) v

/-! ## Writing a value -/

/-- The value may stand under the key: it has its defaults inside, and is not missing where there is
a default. -/
def FitsAt (attributes : Keyed Attribute) (key : String) (v : Json) : Prop :=
  ∀ a, attributes.get? key = some a →
    if v.isNull then a.traits.default = none else a.type.fill v = v

theorem get?_of_mem {entry : String × Attribute} (hplain : plainAll attributes = true)
    (hentry : entry ∈ attributes) : Keyed.get? entry.1 attributes = some entry.2 := by
  induction attributes with
  | nil => cases hentry
  | cons head rest ih =>
    obtain ⟨name, type, traits⟩ := head
    simp only [plainAll, Bool.and_eq_true, Bool.not_eq_true', List.contains_eq_mem,
      decide_eq_false_iff_not] at hplain
    obtain ⟨⟨⟨hname, -⟩, -⟩, hrest⟩ := hplain
    rw [Keyed.get?_cons]
    rcases List.mem_cons.mp hentry with rfl | hmem
    · simp
    · have hne : name ≠ entry.1 := by
        rintro rfl
        exact hname (List.mem_map_of_mem hmem)
      rw [if_neg hne]
      exact ih hrest hmem

theorem Filled.insert (hplain : plainAll attributes = true) (h : Filled attributes values)
    (hfits : FitsAt attributes key v) : Filled attributes (values.insert key v) := by
  intro entry hentry
  by_cases hkey : entry.1 = key
  · have hv := hfits entry.2 (hkey ▸ get?_of_mem hplain hentry)
    simp only [Attribute.FilledIn, hkey, Keyed.get?_insert_self, Option.filter_some]
    cases hnull : v.isNull with
    | true => simpa [hnull] using hv
    | false => simpa [hnull, Keyed.settled_insert] using hv
  · have hold := h entry hentry
    simp only [Attribute.FilledIn, Keyed.get?_insert_of_ne _ _ _ _ hkey] at hold ⊢
    split
    · next w hw =>
      rw [hw] at hold
      exact ⟨hold.1, hold.2.insert hkey v⟩
    · next hw =>
      rw [hw] at hold
      exact hold

theorem fitsAt_of_isScalar (attributes : Keyed Attribute) (key : String) (h : v.isScalar = true) :
    FitsAt attributes key v := by
  intro a _
  simp [Json.isNull_of_isScalar h, a.type.fill_of_isScalar h]

/-- The values of the type have no objects inside that could be filled. -/
def AttrType.isFlat : AttrType → Bool
  | .object _ | .list (.object _) | .set (.object _) => false
  | _ => true

theorem AttrType.fill_of_isFlat {t : AttrType} (h : t.isFlat = true) (v : Json) : t.fill v = v := by
  have hnone : t.blocks? = none := by
    unfold blocks?
    split
    · cases h
    · cases h
    · cases h
    · rfl
  rw [fill_eq, hnone]

theorem fitsAt_of_isFlat {a : Attribute} (ha : Keyed.get? key attributes = some a)
    (hflat : a.type.isFlat = true) (hdefault : a.traits.default = none) (v : Json) :
    FitsAt attributes key v := by
  intro a' ha'
  obtain rfl := Option.some.inj (ha.symm.trans ha')
  split
  · exact hdefault
  · exact AttrType.fill_of_isFlat hflat v

end CloudProvider
