/-
# Telematics.Identity -- who takes part in a shutdown

A participant is one of the well-known roles or a component that goes by a name
of its own.  Roles come before names, roles in the order of their codes and
names in the order of their code points; a role and a component with the same
name remain two participants, and the shown form of a named one says that it is
named.

`le_trans`, `le_total` and `le_antisymm` say that `Identity.le` is a linear order.
-/
import Telematics.Role

namespace Telematics

set_option autoImplicit false

/-- A participant in the shutdown. -/
inductive Identity where
  /-- A well-known component. -/
  | fixed (role : Role)
  | named (name : String)
  deriving Repr, DecidableEq

namespace Identity

def name : Identity → String
  | .fixed role => role.name
  | .named name => name

def text : Identity → String
  | .fixed role => role.name
  | .named name => "named:" ++ name

/-- Whether a participant goes by a name of its own. -/
def isNamed : Identity → Bool
  | .fixed _ => false
  | .named _ => true

def role? : Identity → Option Role
  | .fixed role => some role
  | .named _ => none

/-- Roles before names, roles by code, names by code points. -/
def le : Identity → Identity → Bool
  | .fixed r, .fixed s => r.code ≤ s.code
  | .fixed _, .named _ => true
  | .named _, .fixed _ => false
  | .named x, .named y => x ≤ y

/-- How two participants stand to each other in their order. -/
def compare (a b : Identity) : Ordering :=
  if a = b then .eq else if a.le b then .lt else .gt

theorem le_refl (a : Identity) : a.le a = true := by
  cases a <;> simp [le]

theorem le_total (a b : Identity) : (a.le b || b.le a) = true := by
  cases a <;> cases b <;> simp [le, Nat.le_total, String.le_total]

theorem le_trans {a b c : Identity} (hab : a.le b = true) (hbc : b.le c = true) :
    a.le c = true := by
  cases a <;> cases b <;> cases c <;> simp_all [le]
  · exact Nat.le_trans hab hbc
  · exact String.le_trans hab hbc

theorem le_antisymm {a b : Identity} (hab : a.le b = true) (hba : b.le a = true) : a = b := by
  cases a <;> cases b <;> simp_all [le]
  · exact Role.code_injective (Nat.le_antisymm hab hba)
  · exact String.le_antisymm hab hba

end Identity

end Telematics
