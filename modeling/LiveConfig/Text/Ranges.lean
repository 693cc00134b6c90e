set_option autoImplicit false

namespace LiveConfig.Text

/-- Closed ranges of code points, in ascending order. -/
abbrev Ranges := List (Nat × Nat)

/-- Whether some range holds the character. -/
def Ranges.contains (ranges : Ranges) (c : Char) : Bool :=
  ranges.any fun (first, last) => decide (first ≤ c.toNat) && decide (c.toNat ≤ last)

theorem Ranges.contains_iff (ranges : Ranges) (c : Char) :
    ranges.contains c = true ↔ ∃ range ∈ ranges, range.1 ≤ c.toNat ∧ c.toNat ≤ range.2 := by
  simp only [Ranges.contains, List.any_eq_true, Bool.and_eq_true, decide_eq_true_eq]

end LiveConfig.Text
