/-
# Telematics.Total -- a measure added up along a list

What some packets take up, the bytes of a text and the work behind some calls are
the same sum.  `total_append` says that lists which follow each other add up.
-/
namespace Telematics

set_option autoImplicit false

variable {α : Type}

/-- The measures of the members of a list, added up. -/
def total (measure : α → Nat) : List α → Nat
  | [] => 0
  | x :: xs => measure x + total measure xs

@[simp] theorem total_nil (measure : α → Nat) : total measure [] = 0 := rfl

@[simp] theorem total_cons (measure : α → Nat) (x : α) (xs : List α) :
    total measure (x :: xs) = measure x + total measure xs := rfl

@[simp] theorem total_append (measure : α → Nat) (xs ys : List α) :
    total measure (xs ++ ys) = total measure xs + total measure ys := by
  induction xs with
  | nil => simp
  | cons x xs ih => simp [ih, Nat.add_assoc]

@[simp] theorem total_zero (xs : List α) : total (fun _ => 0) xs = 0 := by
  induction xs with
  | nil => rfl
  | cons x xs ih => rw [total_cons, ih]

end Telematics
