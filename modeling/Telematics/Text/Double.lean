/-
# Telematics.Text.Double -- whole numbers with 53 significant bits

A binary floating-point number of 64 bits has room for 53 significant bits.  A
whole number with more of them is rounded to the nearest that has room, and to
the one with an even last bit where two are equally near.  From the 1024th power
of two on there is no number, only infinity.

`nearest_of_lt` says that nothing happens to a number that has room, and
`nearest_le` and `le_nearest` that rounding moves a number by no more than half
the unit of its last bit.
-/
namespace Telematics.Text.Double

set_option autoImplicit false

/-- The unit of the last bit that a number of this size has room for. -/
def unit (n : Nat) : Nat :=
  1 <<< (n.log2 - 52)

def nearest (n : Nat) : Nat :=
  let below := unit n * (n / unit n)
  let rest := n % unit n
  if 2 * rest < unit n then below
  else if unit n < 2 * rest then below + unit n
  else if n / unit n % 2 = 0 then below
  else below + unit n

/-- Where infinity begins. -/
def limit : Nat := 1 <<< 1024

/-- Whether a significand, rounded, becomes infinite when it is multiplied by a rounded power of
ten. -/
def overflows (significand exponent : Nat) : Bool :=
  limit ≤ nearest (nearest significand * nearest (Nat.pow 10 exponent))

theorem unit_of_lt {n : Nat} (h : n < 1 <<< 53) : unit n = 1 := by
  have : n.log2 < 53 := by
    by_cases h0 : n = 0
    · subst h0; decide
    · exact (Nat.log2_lt h0).mpr h
  rw [unit, Nat.sub_eq_zero_of_le (Nat.le_of_lt_succ this)]
  rfl

/-- A number that has room stays as it is. -/
theorem nearest_of_lt {n : Nat} (h : n < 1 <<< 53) : nearest n = n := by
  simp [nearest, unit_of_lt h, Nat.mod_one]

/-- Rounding up adds no more than half a unit. -/
theorem nearest_le (n : Nat) : 2 * nearest n ≤ 2 * n + unit n := by
  have split := Nat.div_add_mod n (unit n)
  dsimp only [nearest]
  generalize unit n * (n / unit n) = below at split ⊢
  repeat' split
  all_goals omega

/-- Rounding down takes away no more than half a unit. -/
theorem le_nearest (n : Nat) : 2 * n ≤ 2 * nearest n + unit n := by
  have split := Nat.div_add_mod n (unit n)
  have positive : 0 < unit n := by
    rw [unit, Nat.one_shiftLeft]
    exact Nat.two_pow_pos _
  have small := Nat.mod_lt n positive
  dsimp only [nearest]
  generalize unit n * (n / unit n) = below at split ⊢
  repeat' split
  all_goals omega

end Telematics.Text.Double
