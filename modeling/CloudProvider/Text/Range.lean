/-!
# Ranges of characters

- `Ranges`: inclusive ranges of code points, in increasing order.
- `Ranges.has`: a character lies in one of them.
-/

namespace CloudProvider.Text
set_option autoImplicit false

/-- Inclusive ranges of code points. -/
abbrev Ranges := List (Nat × Nat)

def Ranges.has (ranges : Ranges) (c : Char) : Bool :=
  ranges.any fun range => range.1 ≤ c.toNat && c.toNat ≤ range.2

theorem Ranges.has_iff (ranges : Ranges) (c : Char) :
    ranges.has c = true ↔ ∃ range ∈ ranges, range.1 ≤ c.toNat ∧ c.toNat ≤ range.2 := by
  simp only [Ranges.has, List.any_eq_true, Bool.and_eq_true, decide_eq_true_eq]

end CloudProvider.Text
