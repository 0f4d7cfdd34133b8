import CloudProvider.Proofs.Network.Reading
import CloudProvider.Proofs.Schema.Checks

/-!
# Host bits

The bits of an address behind the leading ones that a block counts are its host bits. A block that is
sent has none of them set. If it has, the complaint names the block that was probably meant.

* `Block.HostBitsClear`: no host bit is set.
* `Block.contains_iff`: the members of a block share its leading bits.
* `Block.testBit_base`: the address that a block without host bits begins with.
* `Block.eq_truncate_of_contains`: no other block without host bits has the same member and length.
* `Block.meant_block`: the check of a block, and the block that it suggests.
-/

namespace CloudProvider.Block
set_option autoImplicit false

variable {b m : Block} {a : Address}

/-! ## Bits -/

/-- How many bits of an address a block leaves open. -/
def hostBits (b : Block) : Nat :=
  b.address.family.bits - b.length

/-- No bit that the block leaves open is set. -/
def HostBitsClear (b : Block) : Prop :=
  ∀ i < b.hostBits, b.address.value.testBit i = false

instance (b : Block) : Decidable b.HostBitsClear :=
  inferInstanceAs (Decidable (∀ i < b.hostBits, _))

instance (b : Block) (a : Address) : Decidable (b.Contains a) :=
  inferInstanceAs (Decidable (_ ∧ _))

theorem size_eq (b : Block) : b.size = 2 ^ b.hostBits := rfl

/-- The members of a block share its leading bits. -/
theorem contains_iff : b.Contains a ↔ a.family = b.address.family ∧
    ∀ i, b.hostBits ≤ i → a.value.testBit i = b.address.value.testBit i := by
  have hquotients : a.value / b.size = b.address.value / b.size ↔
      ∀ i, b.hostBits ≤ i → a.value.testBit i = b.address.value.testBit i := by
    rw [size_eq]
    constructor
    · intro h i hi
      have hbit := congrArg (fun n => n.testBit (i - b.hostBits)) h
      simpa only [Nat.testBit_div_two_pow, Nat.sub_add_cancel hi] using hbit
    · intro h
      apply Nat.eq_of_testBit_eq
      intro i
      rw [Nat.testBit_div_two_pow, Nat.testBit_div_two_pow]
      exact h (i + b.hostBits) (Nat.le_add_left _ _)
  rw [Contains, hquotients]

theorem testBit_base (b : Block) (i : Nat) :
    b.base.testBit i = (decide (b.hostBits ≤ i) && b.address.value.testBit i) := by
  have hbase : b.base = b.address.value / 2 ^ b.hostBits * 2 ^ b.hostBits := by
    have hsum := Nat.div_add_mod' b.address.value (2 ^ b.hostBits)
    rw [base, size_eq]
    omega
  rw [hbase, Nat.testBit_mul_two_pow, Nat.testBit_div_two_pow]
  by_cases hi : b.hostBits ≤ i
  · rw [Nat.sub_add_cancel hi]
  · simp [hi]

theorem eq_of_same (hfamily : m.address.family = b.address.family)
    (hvalue : m.address.value = b.address.value) (hlength : m.length = b.length) : m = b := by
  obtain ⟨⟨_, _, _⟩, _, _⟩ := m
  obtain ⟨⟨_, _, _⟩, _, _⟩ := b
  cases hfamily
  cases hvalue
  cases hlength
  rfl

/-! ## Without host bits -/

theorem hostBitsClear_truncate (b : Block) : b.truncate.HostBitsClear := by
  intro i hi
  have hopen : ¬ b.hostBits ≤ i := Nat.not_le_of_lt hi
  have hbit := testBit_base b i
  rw [decide_eq_false hopen, Bool.false_and] at hbit
  exact hbit

theorem contains_truncate (b : Block) : b.truncate.Contains b.address := by
  refine contains_iff.mpr ⟨rfl, fun i hi => ?_⟩
  have hcounts : b.hostBits ≤ i := hi
  have hbit := testBit_base b i
  rw [decide_eq_true hcounts, Bool.true_and] at hbit
  exact hbit.symm

/-- No other block without host bits has this member and length. -/
theorem eq_truncate_of_contains (hclear : m.HostBitsClear) (hlength : m.length = b.length)
    (hcontains : m.Contains b.address) : m = b.truncate := by
  obtain ⟨hfamily, hbits⟩ := contains_iff.mp hcontains
  have hhost : m.hostBits = b.hostBits := by
    rw [hostBits, hostBits, hlength, hfamily]
  refine eq_of_same hfamily.symm ?_ hlength
  apply Nat.eq_of_testBit_eq
  intro i
  change m.address.value.testBit i = b.base.testBit i
  rw [testBit_base]
  by_cases hi : b.hostBits ≤ i
  · rw [decide_eq_true hi, Bool.true_and, hbits i (by omega)]
  · rw [decide_eq_false hi, Bool.false_and, hclear i (by omega)]

theorem isTruncated_iff (b : Block) : b.isTruncated = true ↔ b.HostBitsClear := by
  rw [isTruncated, decide_eq_true_iff]
  constructor
  · intro h
    rw [← h]
    exact hostBitsClear_truncate b
  · intro h
    exact (eq_truncate_of_contains h rfl (contains_iff.mpr ⟨rfl, fun _ _ => rfl⟩)).symm

/-! ## The check -/

theorem checkBlock_of_parse {s : String} (h : parse? s = some b) : Validation.checkBlock s =
    if b.isTruncated then none
    else some (Text.quote s ++ " has host bits set; did you mean " ++ b.truncate.text ++ "?") := by
  rw [Validation.checkBlock, h]

/-- A block is accepted exactly if no host bit is set. Otherwise the complaint names a block that is
accepted, of the same kind and length and with the address that was written as a member, and no
other block without host bits is like this. -/
theorem meant_block (s : String) (b : Block) (h : parse? s = some b) :
    (Validation.cidr.check (.string s) = none ↔ b.HostBitsClear) ∧
    (¬ b.HostBitsClear → ∃ n : Block,
      Validation.cidr.check (.string s) =
        some (Text.quote s ++ " has host bits set; did you mean " ++ n.text ++ "?") ∧
      parse? n.text = some n ∧ Validation.cidr.check (.string n.text) = none ∧
      n.length = b.length ∧ n.address.family = b.address.family ∧ n.Contains b.address ∧
      n.HostBitsClear ∧
      ∀ m : Block, m.HostBitsClear → m.length = b.length → m.Contains b.address → m = n) := by
  have haccepted : b.isTruncated = true ↔ b.HostBitsClear := isTruncated_iff b
  refine ⟨?_, fun hset => ⟨b.truncate, ?_, parse?_text _, ?_, rfl, rfl, contains_truncate b,
    hostBitsClear_truncate b, fun m => eq_truncate_of_contains⟩⟩
  · rw [check_cidr_eq, checkBlock_of_parse h, ← haccepted]
    split <;> simp [*]
  · rw [check_cidr_eq, checkBlock_of_parse h, if_neg (fun hclear => hset (haccepted.mp hclear))]
  · have hclear := (isTruncated_iff _).mpr (hostBitsClear_truncate b)
    rw [check_cidr_eq, checkBlock_of_parse (parse?_text b.truncate), if_pos hclear]

/-- A long address that keeps its points. -/
theorem meant_block_mapped :
    parse? "::ffff:10.1.2.3/104" = some ⟨⟨.v6, 0xFFFF0A010203, by decide⟩, 104, by decide⟩ ∧
    Validation.cidr.check (.string "::ffff:10.1.2.3/104") =
      some "\"::ffff:10.1.2.3/104\" has host bits set; did you mean ::ffff:10.0.0.0/104?" := by
  have hparse : parse? "::ffff:10.1.2.3/104" =
      some ⟨⟨.v6, 0xFFFF0A010203, by decide⟩, 104, by decide⟩ := by
    decide +kernel
  have hset : ¬ HostBitsClear ⟨⟨.v6, 0xFFFF0A010203, by decide⟩, 104, by decide⟩ :=
    fun h => Bool.noConfusion (h 0 (by decide))
  obtain ⟨n, hcheck, -, -, -, -, -, -, hunique⟩ := (meant_block _ _ hparse).2 hset
  have hn : ⟨⟨.v6, 0xFFFF0A000000, by decide⟩, 104, by decide⟩ = n :=
    hunique _ (by decide) rfl (by decide)
  refine ⟨hparse, ?_⟩
  rw [hcheck, ← hn]
  decide +kernel

end CloudProvider.Block
