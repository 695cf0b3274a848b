/-
# Telematics.Text.Ranges -- characters by ranges of their numbers

A property of characters is given by the ranges of numbers that have it, in
increasing order; the ends belong to a range.

`inRanges_iff` says that a character has the property exactly if one of the
ranges holds its number, and `inRanges_append` that a table may be given in parts.
-/
namespace Telematics.Text

set_option autoImplicit false

/-- Whether the number of a character lies in one of some ranges. -/
def inRanges (ranges : List (Nat × Nat)) (c : Char) : Bool :=
  ranges.any fun r => r.1 ≤ c.toNat && c.toNat ≤ r.2

theorem inRanges_iff (ranges : List (Nat × Nat)) (c : Char) :
    inRanges ranges c = true ↔ ∃ r ∈ ranges, r.1 ≤ c.toNat ∧ c.toNat ≤ r.2 := by
  simp [inRanges]

theorem inRanges_append (xs ys : List (Nat × Nat)) (c : Char) :
    inRanges (xs ++ ys) c = (inRanges xs c || inRanges ys c) := by
  simp [inRanges]

end Telematics.Text
