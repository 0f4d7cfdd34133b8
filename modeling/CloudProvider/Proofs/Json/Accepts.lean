import CloudProvider.Proofs.Json.Decode

/-!
# Values that decoders accept

* `Decode.Accepts`: the decoder gives a value.
* `Decode.accepts_below`, `Decode.accepts_list`: integers in a range, and lists.
* `Record.Accepted`: a record can be built from members, field by field.
* `FailsOnly`: a step that fails in certain ways only.
-/

namespace CloudProvider
set_option autoImplicit false

/-! ## Failures of a kind -/

/-- The step succeeds, or fails in a way that `P` allows. -/
def FailsOnly {ε α : Type} (P : ε → Prop) (x : Except ε α) : Prop :=
  ∀ e, x = .error e → P e

namespace FailsOnly

variable {ε α β : Type} {P : ε → Prop} {x : Except ε α}

theorem of_ok {a : α} (h : x = .ok a) : FailsOnly P x := by
  intro e he
  cases h.symm.trans he

theorem of_error {e : ε} (h : x = .error e) (he : P e) : FailsOnly P x := by
  intro e' he'
  obtain rfl := Except.error.inj (h.symm.trans he')
  exact he

theorem bind {f : α → Except ε β} (hx : FailsOnly P x) (hf : ∀ a, x = .ok a → FailsOnly P (f a)) :
    FailsOnly P (x >>= f) := by
  cases hresult : x with
  | error e => exact of_error rfl (hx e hresult)
  | ok a => exact hf a hresult

theorem map (f : α → β) (hx : FailsOnly P x) : FailsOnly P (f <$> x) := by
  cases hresult : x with
  | error e => exact of_error rfl (hx e hresult)
  | ok a => exact of_ok rfl

theorem mapM {f : α → Except ε β} {as : List α} (h : ∀ a ∈ as, FailsOnly P (f a)) :
    FailsOnly P (as.mapM f) := by
  induction as with
  | nil => exact of_ok rfl
  | cons a rest ih =>
    obtain ⟨ha, hrest⟩ := List.forall_mem_cons.mp h
    rw [List.mapM_cons]
    exact bind ha fun _ _ => bind (ih hrest) fun _ _ => of_ok rfl

end FailsOnly

namespace Json

variable {α β : Type}

/-! ## Decoders -/

namespace Decode

/-- The decoder gives a value. -/
def Accepts (decode : Decoder α) (v : Json) : Prop :=
  ∃ a, decode v = .ok a

theorem Exact.accepts {decode : Decoder α} {encode : α → Json} (h : Exact decode encode) (a : α) :
    Accepts decode (encode a) :=
  ⟨a, h.reads a⟩

theorem accepts_below {expected : String} {bound : Nat} {ofNat : Nat → α} {k : Int64}
    (hlower : 0 ≤ k.toInt) (hupper : k.toInt < bound) :
    Accepts (integer expected fun n => (below bound n).map ofNat) (.int64 k) := by
  have hbelow : below bound (Integer.ofInt64 k).val = some k.toInt.toNat :=
    below_eq_some.mpr (by simp only [Integer.ofInt64]; omega)
  refine ⟨ofNat k.toInt.toNat, ?_⟩
  rw [Json.int64, integer, hbelow, Option.map_some]

theorem accepts_list {decode : Decoder α} {xs : List Json} (h : ∀ x ∈ xs, Accepts decode x) :
    ∃ as, list decode (.array xs) = .ok as ∧ as.length = xs.length ∧
      ∀ a ∈ as, ∃ x ∈ xs, decode x = .ok a := by
  change ∃ as, items decode xs = .ok as ∧ _
  induction xs with
  | nil => exact ⟨[], rfl, rfl, by simp⟩
  | cons x rest ih =>
    obtain ⟨⟨a, ha⟩, hrest⟩ := List.forall_mem_cons.mp h
    obtain ⟨as, has, hlength, hall⟩ := ih hrest
    refine ⟨a :: as, ?_, by simp [hlength], List.forall_mem_cons.mpr ⟨?_, fun b hb => ?_⟩⟩
    · simp only [items, ha, has]
      rfl
    · exact ⟨x, List.mem_cons_self .., ha⟩
    · obtain ⟨y, hy, hyb⟩ := hall b hb
      exact ⟨y, List.mem_cons_of_mem _ hy, hyb⟩

end Decode

/-! ## Records -/

namespace Record

variable {members : Keyed Json} {name : String} {decode : Decoder α}

/-- The record can be built from the members, and what it is built from passes its checks. -/
structure Accepted (r : Record α) (members : Keyed Json) : Prop where
  checked : r.Checked
  built : ∃ a, r.build (ofMembers members) = .ok a

namespace Accepted

theorem map {r : Record α} (h : r.Accepted members) (f : α → β) : (f <$> r).Accepted members := by
  obtain ⟨a, ha⟩ := h.built
  exact ⟨h.checked.map f, f a, map_ok.mpr ⟨a, ha, rfl⟩⟩

theorem seq {f : Record (α → β)} {r : Record α} (hf : f.Accepted members)
    (hr : r.Accepted members) : (f <*> r).Accepted members := by
  obtain ⟨g, hg⟩ := hf.built
  obtain ⟨a, ha⟩ := hr.built
  exact ⟨hf.checked.seq hr.checked, g a, seq_ok.mpr ⟨g, a, hg, ha, rfl⟩⟩

theorem required {v : Json} (hv : members.get? name = some v) (h : Decode.Accepts decode v) :
    (Record.required name decode).Accepted members := by
  obtain ⟨a, ha⟩ := h
  exact ⟨checked_field _ _ _, a, required_ok.mpr ⟨v, hv, ha⟩⟩

theorem optional (h : (members.get? name).filter (!·.isNull) = none ∨
    ∃ v, members.get? name = some v ∧ Decode.Accepts decode v) :
    (Record.optional name decode).Accepted members := by
  refine ⟨checked_field _ _ _, ?_⟩
  rw [optional_build]
  cases hv : members.get? name with
  | none => exact ⟨none, rfl⟩
  | some v =>
    cases hnull : v.isNull with
    | true =>
      obtain rfl : v = null := by
        cases v <;> first | rfl | cases hnull
      exact ⟨none, rfl⟩
    | false =>
      rcases h with hunset | ⟨w, hw, a, ha⟩
      · simp [hv, hnull] at hunset
      · obtain rfl := Option.some.inj (hv.symm.trans hw)
        refine ⟨some a, ?_⟩
        dsimp only
        rw [Decode.optional_eq hnull, ha]
        rfl

theorem decoder {r : Record α} {title : String} (h : r.Accepted members)
    (hordered : Keyed.Ordered members) :
    Decode.Accepts (Record.decoder title r) (.object members) := by
  obtain ⟨a, ha⟩ := h.built
  exact ⟨a, h.checked.decoder_ok hordered ha⟩

end Accepted

end Record

end Json

end CloudProvider
