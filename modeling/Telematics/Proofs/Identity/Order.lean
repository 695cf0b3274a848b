/-
# Telematics.Proofs.Identity.Order -- in which order participants stand

Roles stand before names, roles by their codes and names by their bytes
(`Before`).  Of two participants exactly one stands before the other, and what
stands before something stands before all that comes behind it, so the order is
strict and total; it is the one by which participants are compared
(`before_iff_compare`) and sorted (`before_iff_le`).
-/
import Mathlib.Order.Defs.Unbundled
import Telematics.Identity
import Telematics.Proofs.Text.Utf8

namespace Telematics.Identity

set_option autoImplicit false

/-- One participant stands before another. -/
inductive Before : Identity → Identity → Prop where
  | roles {r s : Role} (less : r.code < s.code) : Before (.fixed r) (.fixed s)
  | kinds (role : Role) (name : String) : Before (.fixed role) (.named name)
  | names {x y : String} (less : x.toUTF8.toList < y.toUTF8.toList) : Before (.named x) (.named y)

theorem roles_before_iff {r s : Role} : (fixed r).Before (fixed s) ↔ r.code < s.code := by
  constructor
  · intro before
    cases before with
    | roles less => exact less
  · exact .roles

theorem names_before_iff {x y : String} : (named x).Before (named y) ↔ x < y := by
  rw [Text.lt_iff_utf8_lt]
  constructor
  · intro before
    cases before with
    | names less => exact less
  · exact .names

/-- To stand before another is not to stand behind it. -/
theorem before_iff_not_le {a b : Identity} : a.Before b ↔ b.le a = false := by
  cases a with
  | fixed r =>
    cases b with
    | fixed s =>
      rw [roles_before_iff]
      simp [le]
    | named y => exact iff_of_true (.kinds r y) rfl
  | named x =>
    cases b with
    | fixed s =>
      refine iff_of_false (fun before => ?_) (by simp [le])
      cases before
    | named y =>
      rw [names_before_iff]
      simp [le]

theorem before_iff_le {a b : Identity} : a.Before b ↔ a.le b = true ∧ a ≠ b := by
  rw [before_iff_not_le]
  have total := le_total a b
  constructor
  · intro behind
    rw [behind, Bool.or_false] at total
    refine ⟨total, ?_⟩
    rintro rfl
    rw [behind] at total
    cases total
  · rintro ⟨le, different⟩
    rw [← Bool.not_eq_true]
    exact fun back => different (le_antisymm le back)

theorem before_iff_compare {a b : Identity} : a.Before b ↔ a.compare b = .lt := by
  rw [before_iff_le, compare]
  by_cases same : a = b
  · simp [same]
  · cases a.le b <;> simp [same]

/-- **The order of participants is strict and total**. -/
instance isStrictTotalOrder_before : IsStrictTotalOrder Identity Before where
  trichotomous a b forth back := by
    rw [before_iff_not_le, Bool.not_eq_false] at forth back
    exact le_antisymm back forth
  irrefl a before := (before_iff_le.1 before).2 rfl
  trans a b c first second := by
    rw [before_iff_not_le] at first second ⊢
    rw [← Bool.not_eq_true] at first second ⊢
    -- Who is not behind the middle one is behind what is before it.
    have between : b.le c = true := (before_iff_le.1 (before_iff_not_le.2 (by simpa using second))).1
    exact fun back => first (le_trans between back)

end Telematics.Identity
