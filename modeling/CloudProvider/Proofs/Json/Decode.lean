import CloudProvider.Json.Decode
import CloudProvider.Proofs.Keyed

/-!
# Laws of decoders

* `Decode.Exact`: a decoder that accepts what is written and nothing else, as those of scalars do.
* `Decode.Reads`: a decoder that gets back what is written, as those of records do.
* `Record.seq_ok`, `Record.map_ok`: a record that is built has each of its fields.
* `Record.Checked`: what a record is built from passes its checks, so that it is read.
* `Record.required_ok`, `Record.defaulted_build`, …: single fields.
* `Record.Gives`: the value of a record, put together field by field.
-/

namespace CloudProvider
set_option autoImplicit false

theorem bind_ok {ε α β : Type} {x : Except ε α} {f : α → Except ε β} {b : β} :
    x >>= f = .ok b ↔ ∃ a, x = .ok a ∧ f a = .ok b := by
  cases x with
  | error e => simp [bind, Except.bind]
  | ok a => simp [bind, Except.bind]

theorem bind_error {ε α β : Type} {x : Except ε α} {f : α → Except ε β} {e : ε} :
    x >>= f = .error e ↔ x = .error e ∨ ∃ a, x = .ok a ∧ f a = .error e := by
  cases x with
  | error e => simp [bind, Except.bind]
  | ok a => simp [bind, Except.bind]

theorem mapped_ok {ε α β : Type} {x : Except ε α} {f : α → β} {b : β} :
    f <$> x = .ok b ↔ ∃ a, x = .ok a ∧ f a = b := by
  cases x with
  | error e => simp [Functor.map, Except.map]
  | ok a => simp [Functor.map, Except.map]

/-! ## Integers -/

namespace Integer

theorem ext {m n : Integer} (h : m.val = n.val) : m = n := by
  obtain ⟨m, hm, hm'⟩ := m
  obtain ⟨n, hn, hn'⟩ := n
  obtain rfl : m = n := h
  rfl

theorem toInt64?_eq_some {n : Integer} {a : Int64} : n.toInt64? = some a ↔ n.val = a.toInt := by
  rw [toInt64?]
  have hlower := n.lower
  constructor
  · intro h
    split at h
    · obtain rfl := Option.some.inj h
      rw [Int64.toInt_ofInt_of_le (by omega) (by omega)]
    · cases h
  · intro h
    rw [if_pos (h ▸ a.toInt_lt), h, Int64.ofInt_toInt]

end Integer

namespace Json

variable {α β : Type}

theorem uint64_eq_iff {n : Integer} {a : UInt64} : number (.int n) = uint64 a ↔ n.val = a.toNat := by
  simp only [uint64, number.injEq, Number.int.injEq]
  exact ⟨fun h => congrArg Integer.val h, fun h => Integer.ext h⟩

theorem uint32_eq_iff {n : Integer} {a : UInt32} : number (.int n) = uint32 a ↔ n.val = a.toNat := by
  rw [uint32, uint64_eq_iff, UInt32.toNat_toUInt64]

theorem uint8_eq_iff {n : Integer} {a : UInt8} : number (.int n) = uint8 a ↔ n.val = a.toNat := by
  rw [uint8, uint64_eq_iff, UInt8.toNat_toUInt64]

theorem uint16_eq_iff {n : Integer} {a : UInt16} : number (.int n) = uint16 a ↔ n.val = a.toNat := by
  rw [uint16, uint64_eq_iff, UInt16.toNat_toUInt64]

theorem int64_eq_iff {n : Integer} {a : Int64} : number (.int n) = int64 a ↔ n.val = a.toInt := by
  simp only [int64, number.injEq, Number.int.injEq]
  exact ⟨fun h => congrArg Integer.val h, fun h => Integer.ext h⟩

namespace Decode

/-- The decoder accepts what is written and nothing else. -/
def Exact (decode : Decoder α) (encode : α → Json) : Prop :=
  ∀ v a, decode v = .ok a ↔ v = encode a

/-- The decoder gets back what is written. -/
def Reads (decode : Decoder α) (encode : α → Json) : Prop :=
  ∀ a, decode (encode a) = .ok a

theorem Exact.reads {decode : Decoder α} {encode : α → Json} (h : Exact decode encode) :
    Reads decode encode :=
  fun a => (h _ a).mpr rfl

/-! ## Scalars -/

theorem text_exact : Exact text .string := by
  intro v a
  cases v <;> simp [text, wrongType]

theorem boolean_exact : Exact boolean .bool := by
  intro v a
  cases v <;> simp [boolean, wrongType]

/-- A decoder of integers is exact if its conversion is. -/
theorem integer_exact {expected : String} {convert : Int → Option α} {encode : α → Json}
    (hconvert : ∀ (n : Integer) a, convert n.val = some a ↔ number (.int n) = encode a)
    (hint : ∀ a, ∃ n, encode a = number (.int n)) : Exact (integer expected convert) encode := by
  intro v a
  obtain ⟨m, hm⟩ := hint a
  cases v with
  | number k =>
    cases k with
    | int n =>
      rw [← hconvert n a, integer]
      cases convert n.val <;> simp
    | float x => simp [integer, wrongType, hm]
  | _ => simp [integer, wrongType, hm]

theorem below_eq_some {bound : Nat} {n : Int} {k : Nat} :
    below bound n = some k ↔ n = k ∧ k < bound := by
  simp only [below]
  split <;> simp <;> omega

theorem below_exact {expected : String} {bound : Nat} {ofNat : Nat → α} {toNat : α → Nat}
    {encode : α → Json} (hencode : ∀ (n : Integer) a, number (.int n) = encode a ↔ n.val = toNat a)
    (hint : ∀ a, ∃ n, encode a = number (.int n)) (hvalue : ∀ k < bound, toNat (ofNat k) = k)
    (hlt : ∀ a, toNat a < bound) (hback : ∀ a, ofNat (toNat a) = a) :
    Exact (integer expected fun n => (below bound n).map ofNat) encode := by
  refine integer_exact (fun n a => ?_) hint
  rw [hencode, Option.map_eq_some_iff]
  constructor
  · rintro ⟨k, hk, rfl⟩
    obtain ⟨hn, hk⟩ := below_eq_some.mp hk
    rw [hn, hvalue k hk]
  · intro hn
    exact ⟨toNat a, below_eq_some.mpr ⟨hn, hlt a⟩, hback a⟩

theorem uint8_exact : Exact uint8 .uint8 :=
  below_exact (fun _ _ => uint8_eq_iff) (fun _ => ⟨_, rfl⟩) (fun _ => UInt8.toNat_ofNat_of_lt')
    UInt8.toNat_lt fun _ => UInt8.ofNat_toNat

theorem uint16_exact : Exact uint16 .uint16 :=
  below_exact (fun _ _ => uint16_eq_iff) (fun _ => ⟨_, rfl⟩) (fun _ => UInt16.toNat_ofNat_of_lt')
    UInt16.toNat_lt fun _ => UInt16.ofNat_toNat

theorem uint32_exact : Exact uint32 .uint32 :=
  below_exact (fun _ _ => uint32_eq_iff) (fun _ => ⟨_, rfl⟩) (fun _ => UInt32.toNat_ofNat_of_lt')
    UInt32.toNat_lt fun _ => UInt32.ofNat_toNat

theorem uint64_exact : Exact uint64 .uint64 :=
  below_exact (fun _ _ => uint64_eq_iff) (fun _ => ⟨_, rfl⟩) (fun _ => UInt64.toNat_ofNat_of_lt')
    UInt64.toNat_lt fun _ => UInt64.ofNat_toNat

theorem size_exact : Exact size .uint64 :=
  below_exact (fun _ _ => uint64_eq_iff) (fun _ => ⟨_, rfl⟩) (fun _ => UInt64.toNat_ofNat_of_lt')
    UInt64.toNat_lt fun _ => UInt64.ofNat_toNat

theorem int64_exact : Exact int64 .int64 := by
  refine integer_exact (fun n a => ?_) fun a => ⟨_, rfl⟩
  have hn : Integer.ofInt? n.val = some n := dif_pos ⟨n.lower, n.upper⟩
  rw [hn, Option.bind_some, Integer.toInt64?_eq_some, int64_eq_iff]

/-! ## Collections -/

theorem Exact.list {decode : Decoder α} {encode : α → Json} (h : Exact decode encode) :
    Exact (list decode) fun as => .array (as.map encode) := by
  have hitems (xs : List Json) (as : List α) : items decode xs = .ok as ↔ xs = as.map encode := by
    induction xs generalizing as with
    | nil => cases as <;> simp [items]
    | cons x xs ih =>
      simp only [items, bind_ok, h x, ih]
      constructor
      · rintro ⟨a, rfl, as', rfl, hcons⟩
        obtain rfl := Except.ok.inj hcons
        rfl
      · intro hcons
        cases as with
        | nil => cases hcons
        | cons a as' =>
          obtain ⟨hx, hxs⟩ := List.cons.inj hcons
          exact ⟨a, hx, as', hxs, rfl⟩
  intro v as
  cases v with
  | array xs => simpa [Decode.list] using hitems xs as
  | _ => simp [Decode.list, wrongType]

theorem Reads.list {decode : Decoder α} {encode : α → Json} (h : Reads decode encode) :
    Reads (list decode) fun as => .array (as.map encode) := by
  intro as
  simp only [Decode.list]
  induction as with
  | nil => rfl
  | cons a as ih =>
    simp only [List.map_cons, items, h a, ih]
    rfl

theorem Exact.map {decode : Decoder α} {encode : α → Json} (h : Exact decode encode) :
    Exact (Decode.map decode) fun as => .object (as.mapValues encode) := by
  have hentries (xs : List (String × Json)) (as : Keyed α) :
      entries decode xs = .ok as ↔ xs = as.mapValues encode := by
    induction xs generalizing as with
    | nil => cases as <;> simp [entries, Keyed.mapValues]
    | cons x xs ih =>
      obtain ⟨k, x⟩ := x
      simp only [entries, bind_ok, h x, ih]
      constructor
      · rintro ⟨a, rfl, as', rfl, hcons⟩
        obtain rfl := Except.ok.inj hcons
        rfl
      · intro hcons
        cases as with
        | nil => cases hcons
        | cons a as' =>
          obtain ⟨k', a⟩ := a
          obtain ⟨hx, hxs⟩ := List.cons.inj hcons
          obtain ⟨rfl, hx⟩ := Prod.mk.inj hx
          exact ⟨a, hx, as', hxs, rfl⟩
  intro v as
  cases v with
  | object xs => simpa [Decode.map] using hentries xs as
  | _ => simp [Decode.map, wrongType]

theorem optional_eq {decode : Decoder α} {v : Json} (hv : v.isNull = false) :
    optional decode v = some <$> decode v := by
  cases v with
  | null => cases hv
  | _ => rfl

end Decode

/-! ## Records -/

namespace Record

variable {title : String} {members members' : Keyed Json} {name : String} {decode : Decoder α}

theorem build_of_decoder {r : Record α} {a : α} (h : decoder title r (.object members) = .ok a) :
    r.build (ofMembers members) = .ok a := by
  obtain ⟨-, -, hbuild⟩ := bind_ok.mp h
  exact hbuild

theorem map_ok {f : α → β} {r : Record α} {source : Source} {b : β} :
    (f <$> r).build source = .ok b ↔ ∃ a, r.build source = .ok a ∧ f a = b :=
  mapped_ok

theorem seq_ok {f : Record (α → β)} {r : Record α} {source : Source} {b : β} :
    (f <*> r).build source = .ok b ↔
      ∃ g a, f.build source = .ok g ∧ r.build source = .ok a ∧ g a = b := by
  change (do return (← f.build source) (← r.build source)) = .ok b ↔ _
  simp only [bind_ok]
  constructor
  · rintro ⟨g, hg, a, ha, hb⟩
    exact ⟨g, a, hg, ha, Except.ok.inj hb⟩
  · rintro ⟨g, a, hg, ha, rfl⟩
    exact ⟨g, hg, a, ha, rfl⟩

/-- What a record is built from passes its checks. -/
def Checked (r : Record α) : Prop :=
  ∀ (members : Keyed Json) (a : α), r.build (ofMembers members) = .ok a →
    ∀ key test v, r.fields.lookup key = some test → members.get? key = some v → test v = .ok ()

theorem Checked.map {r : Record α} (h : r.Checked) (f : α → β) : (f <$> r).Checked := by
  intro members b hbuild
  obtain ⟨a, ha, -⟩ := map_ok.mp hbuild
  exact h members a ha

theorem Checked.seq {f : Record (α → β)} {r : Record α} (hf : f.Checked) (hr : r.Checked) :
    (f <*> r).Checked := by
  intro members b hbuild key test v htest hv
  obtain ⟨g, a, hg, ha, -⟩ := seq_ok.mp hbuild
  have hlookup : (f.fields ++ r.fields).lookup key = some test := htest
  rw [List.lookup_append] at hlookup
  cases hfirst : f.fields.lookup key with
  | some test' =>
    rw [hfirst] at hlookup
    obtain rfl := Option.some.inj hlookup
    exact hf members g hg key _ v hfirst hv
  | none =>
    rw [hfirst] at hlookup
    exact hr members a ha key test v hlookup hv

theorem field_build {name : String} {decode : Decoder α} {absent : Source → Except Mismatch α} :
    (field name decode absent).build (ofMembers members) =
      match members.get? name with
      | some v => decode v
      | none => absent (ofMembers members) := rfl

theorem checked_field (name : String) (decode : Decoder α)
    (absent : Source → Except Mismatch α) : (field name decode absent).Checked := by
  intro members a hbuild key test v htest hv
  change [(name, fun v => do let _ ← decode v)].lookup key = some test at htest
  rw [List.lookup_cons] at htest
  split at htest
  · next hkey =>
    obtain rfl := Option.some.inj htest
    obtain rfl : key = name := by simpa using hkey
    rw [field_build, hv] at hbuild
    simp [show decode v = .ok a from hbuild, bind, Except.bind, pure, Except.pure]
  · cases htest

/-- A record is read from members in order that it can be built from. -/
theorem Checked.decoderWith_ok {r : Record α} {a : α} {shorter : String} (h : r.Checked)
    (hordered : Keyed.Ordered members) (hbuild : r.build (ofMembers members) = .ok a) :
    decoderWith shorter title r (.object members) = .ok a := by
  have hcheck : r.check members = .ok () := by
    have hall : ∀ key test v, r.fields.lookup key = some test → members.get? key = some v →
        test v = .ok () := h members a hbuild
    clear hbuild
    induction members with
    | nil => rfl
    | cons member rest ih =>
      obtain ⟨key, v⟩ := member
      obtain ⟨hfirst, hrest⟩ := List.pairwise_cons.mp hordered
      have hrest' : r.check rest = .ok () := by
        refine ih hrest fun key' test w htest hw => hall key' test w htest ?_
        have hne : key ≠ key' := by
          rintro rfl
          rw [Keyed.get?_of_not_mem fun hmem => String.lt_irrefl key (hfirst key hmem)] at hw
          cases hw
        rw [Keyed.get?_cons, if_neg hne, hw]
      rw [check]
      cases htest : r.fields.lookup key with
      | none => exact hrest'
      | some test =>
        have hv := hall key test v htest (by rw [Keyed.get?_cons, if_pos rfl])
        simp only [hv]
        exact hrest'
  exact bind_ok.mpr ⟨(), hcheck, hbuild⟩

theorem Checked.decoder_ok {r : Record α} {a : α} (h : r.Checked) (hordered : Keyed.Ordered members)
    (hbuild : r.build (ofMembers members) = .ok a) :
    decoder title r (.object members) = .ok a :=
  h.decoderWith_ok hordered hbuild

/-! ## Single fields -/

theorem required_build :
    (required name decode).build (ofMembers members) =
      match members.get? name with
      | some v => decode v
      | none => .error (.missingField name) := rfl

theorem required_ok {a : α} :
    (required name decode).build (ofMembers members) = .ok a ↔
      ∃ v, members.get? name = some v ∧ decode v = .ok a := by
  rw [required_build]
  cases members.get? name <;> simp

theorem required_exact {encode : α → Json} (h : Decode.Exact decode encode) {a : α} :
    (required name decode).build (ofMembers members) = .ok a ↔
      members.get? name = some (encode a) := by
  rw [required_ok]
  constructor
  · rintro ⟨v, hv, hva⟩
    rw [hv, (h v a).mp hva]
  · intro hv
    exact ⟨_, hv, h.reads a⟩

theorem defaulted_build {default : α} :
    (defaulted name decode default).build (ofMembers members) =
      match members.get? name with
      | some v => decode v
      | none => .ok default := rfl

theorem optional_build :
    (optional name decode).build (ofMembers members) =
      match members.get? name with
      | some v => Decode.optional decode v
      | none => .ok none := rfl

theorem optional_exact {encode : α → Json} (h : Decode.Exact decode encode)
    (hnull : ∀ a, (encode a).isNull = false) {o : Option α} :
    (optional name decode).build (ofMembers members) = .ok o ↔
      (members.get? name).filter (!·.isNull) = o.map encode := by
  rw [optional_build]
  cases members.get? name with
  | none => cases o <;> simp
  | some v =>
    cases hv : v.isNull with
    | true =>
      obtain rfl : v = null := by
        cases v <;> first | rfl | cases hv
      cases o with
      | none => simp [Decode.optional, isNull]
      | some a =>
        have hne : null ≠ encode a := by
          intro he
          cases (he ▸ hnull a : isNull null = false)
        simp [Decode.optional, hne]
    | false =>
      simp only [Decode.optional_eq hv, Option.filter_some, hv, Bool.not_false, if_true]
      cases o with
      | none => cases decode v <;> simp [Functor.map, Except.map]
      | some a =>
        rw [Option.map_some, Option.some.injEq, ← h v a]
        cases decode v <;> simp [Functor.map, Except.map]

/-! ## Fields that were written -/

theorem required_reads {encode : α → Json} (h : Decode.Reads decode encode) {a : α}
    (hv : members.get? name = some (encode a)) :
    (required name decode).build (ofMembers members) = .ok a :=
  required_ok.mpr ⟨_, hv, h a⟩

theorem defaulted_reads {encode : α → Json} (h : Decode.Reads decode encode) {a default : α}
    (hv : members.get? name = some (encode a)) :
    (defaulted name decode default).build (ofMembers members) = .ok a := by
  rw [defaulted_build, hv]
  exact h a

theorem optional_reads {encode : α → Json} (h : Decode.Reads decode encode)
    (hnull : ∀ a, (encode a).isNull = false) {o : Option α}
    (hv : members.get? name = some (Json.option encode o)) :
    (optional name decode).build (ofMembers members) = .ok o := by
  refine defaulted_reads (fun o => ?_) hv
  cases o with
  | none => rfl
  | some a =>
    change Decode.optional decode (encode a) = .ok (some a)
    rw [Decode.optional_eq (hnull a), h a]
    rfl

/-! ## Records with many fields -/

/-- The record has this value if it is built from the members, and passes its checks. -/
structure Gives (r : Record α) (members : Keyed Json) (a : α) : Prop where
  checked : r.Checked
  built : r.build (ofMembers members) = .ok a

namespace Gives

variable {a : α}

theorem map {r : Record α} (h : r.Gives members a) (f : α → β) : (f <$> r).Gives members (f a) :=
  ⟨h.checked.map f, map_ok.mpr ⟨a, h.built, rfl⟩⟩

theorem seq {f : Record (α → β)} {g : α → β} {r : Record α} (hf : f.Gives members g)
    (hr : r.Gives members a) : (f <*> r).Gives members (g a) :=
  ⟨hf.checked.seq hr.checked, seq_ok.mpr ⟨g, a, hf.built, hr.built, rfl⟩⟩

theorem found {absent : Source → Except Mismatch α} {v : Json} (hv : members.get? name = some v)
    (h : decode v = .ok a) : (field name decode absent).Gives members a := by
  refine ⟨checked_field _ _ _, ?_⟩
  rw [field_build, hv]
  exact h

theorem omitted {encode : α → Json} {default : α} {isDefault : Prop} [Decidable isDefault]
    (h : Decode.Reads decode encode) (hdefault : isDefault → a = default)
    (hv : members.get? name = if isDefault then none else some (encode a)) :
    (defaulted name decode default).Gives members a := by
  refine ⟨checked_field _ _ _, ?_⟩
  rw [defaulted_build, hv]
  by_cases hp : isDefault
  · simp [hp, hdefault hp]
  · simpa [hp] using h a

theorem optional {encode : α → Json} {o : Option α} (h : Decode.Reads decode encode)
    (hnull : ∀ a, (encode a).isNull = false) (hv : members.get? name = o.map encode) :
    (Record.optional name decode).Gives members o := by
  refine ⟨checked_field _ _ _, ?_⟩
  rw [optional_build, hv]
  cases o with
  | none => rfl
  | some a =>
    simp only [Option.map_some, Decode.optional_eq (hnull a), h a]
    rfl

theorem decoder {r : Record α} (h : r.Gives members a) (title : String)
    (hordered : Keyed.Ordered members) : r.decoder title (.object members) = .ok a :=
  h.checked.decoderWith_ok hordered h.built

theorem nestedDecoder {r : Record α} (h : r.Gives members a) (title : String)
    (hordered : Keyed.Ordered members) : r.nestedDecoder title (.object members) = .ok a := by
  unfold Record.nestedDecoder
  exact h.checked.decoderWith_ok hordered h.built

end Gives

end Record

end Json

end CloudProvider
