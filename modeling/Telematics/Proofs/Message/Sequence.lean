/-
# Telematics.Proofs.Message.Sequence -- no number is given out twice

Behind `n` numbers a counter stands `n` numbers further on, where one follows the
greatest (`toNat_number`).  So of as many numbers as there are no two are the same,
whatever the counter stands at (`number_inj`).
-/
import Telematics.Message.Sequence

namespace Telematics.SequenceCounter

set_option autoImplicit false

/-- How many numbers there are: all that have 32 bits but zero. -/
def period : Nat := 0xFFFFFFFF

/-- The counter when some numbers have been taken. -/
def after (counter : SequenceCounter) (n : Nat) : SequenceCounter := (takeMany n counter).2

/-- The number that is given out behind `n` others. -/
def number (counter : SequenceCounter) (n : Nat) : UInt32 := (counter.after n).upcoming

theorem toNat_successor {n : UInt32} (positive : 0 < n) :
    (successor n).toNat = n.toNat % period + 1 := by
  have least : 0 < n.toNat := by simpa using UInt32.lt_iff_toNat_lt.1 positive
  have greatest := n.toNat_lt
  have sum : (n + 1).toNat = (n.toNat + 1) % 2 ^ 32 := by simp
  unfold successor period
  split
  · rename_i wrapped
    rw [wrapped] at sum
    have last : n.toNat = 2 ^ 32 - 1 := by
      have zero : (0 : UInt32).toNat = 0 := rfl
      omega
    rw [last]
    rfl
  · rename_i next
    have some : (n + 1).toNat ≠ 0 := fun zero => next (UInt32.toNat_inj.1 zero)
    omega

/-- Taking one number more is taking one behind the others. -/
theorem after_succ (counter : SequenceCounter) (n : Nat) :
    counter.after (n + 1) = (counter.after n).take.2 := by
  induction n generalizing counter with
  | zero => rfl
  | succ n ih => exact ih counter.take.2

theorem toNat_number (counter : SequenceCounter) (n : Nat) :
    (counter.number n).toNat = (counter.upcoming.toNat - 1 + n) % period + 1 := by
  have least : 0 < counter.upcoming.toNat := by
    simpa using UInt32.lt_iff_toNat_lt.1 counter.positive
  have greatest := counter.upcoming.toNat_lt
  induction n with
  | zero =>
    show counter.upcoming.toNat = _
    rw [Nat.add_zero, Nat.mod_eq_of_lt (by unfold period; omega)]
    omega
  | succ n ih =>
    have next : counter.number (n + 1) = successor (counter.number n) := by
      rw [number, after_succ]
      rfl
    have positive : 0 < counter.number n := (counter.after n).positive
    rw [next, toNat_successor positive, ih, Nat.mod_add_mod, Nat.add_assoc]

/-- **No number is given out twice**, until all have been given out. -/
theorem number_inj {counter : SequenceCounter} {i j : Nat} (first : i < period)
    (second : j < period) (same : counter.number i = counter.number j) : i = j := by
  have residues := congrArg UInt32.toNat same
  rw [toNat_number, toNat_number] at residues
  unfold period at *
  omega

end Telematics.SequenceCounter
