/-
# Telematics.Proofs.Shutdown.Arrangement -- in which order the entries stand

A registry could keep its entries in any order: `arrange` puts them in the order of
a key, and every order is that of some key (`exists_arrange`).

Two registries that have the same entries, in whatever orders, show everybody in the
same status, and each operation leads from two such registries to two such again.
Marking stops at the same stage in both and calls the same participants, those of
the stage in the same order and the others in that of the entries (`mark_of_perm`).
-/
import Mathlib.Data.List.Basic
import Telematics.Proofs.Shutdown.Called

namespace Telematics.Shutdown

set_option autoImplicit false

variable {ρ : Type}

namespace Registry

/-- The registry with its entries in the order of a key. -/
def arrange (r : Registry ρ) (key : Identity → Nat) : Registry ρ where
  entries := r.entries.mergeSort fun e e' => key e.id ≤ key e'.id
  nodup := ((List.mergeSort_perm _ _).map Entry.id).nodup_iff.2 r.nodup

theorem arrange_perm (r : Registry ρ) (key : Identity → Nat) :
    (r.arrange key).entries.Perm r.entries :=
  List.mergeSort_perm _ _

theorem arrange_pairwise (r : Registry ρ) (key : Identity → Nat) :
    (r.arrange key).entries.Pairwise fun e e' => key e.id ≤ key e'.id := by
  have sorted : (r.arrange key).entries.Pairwise fun e e' => decide (key e.id ≤ key e'.id) = true := by
    apply List.pairwise_mergeSort
    · intro e between e' first second
      exact decide_eq_true (Nat.le_trans (of_decide_eq_true first) (of_decide_eq_true second))
    · intro e e'
      simpa using Nat.le_total (key e.id) (key e'.id)
  exact sorted.imp of_decide_eq_true

/-- The place of a participant's entry among the entries. -/
def place (r : Registry ρ) : Identity → Nat :=
  (r.entries.map Entry.id).idxOf

theorem place_pairwise (r : Registry ρ) :
    r.entries.Pairwise fun e e' => r.place e.id ≤ r.place e'.id := by
  have places : (r.entries.map Entry.id).Pairwise fun id id' => r.place id ≤ r.place id' := by
    rw [List.pairwise_iff_getElem]
    intro i j hi hj less
    simp only [place, r.nodup.idxOf_getElem]
    exact Nat.le_of_lt less
  rw [List.pairwise_map] at places
  exact places

variable {r r' : Registry ρ}

/-- The entries may be put in any order: that of their places in it. -/
theorem exists_arrange (perm : r.entries.Perm r'.entries) : ∃ key, r.arrange key = r' := by
  refine ⟨r'.place, ?_⟩
  have same := (r.arrange_perm r'.place).trans perm
  apply eq_of_entries
  apply same.eq_of_pairwise _ (r.arrange_pairwise r'.place) r'.place_pairwise
  intro e e' here there forth back
  have member := same.mem_iff.1 here
  have id : e.id = e'.id :=
    (List.idxOf_inj (List.mem_map_of_mem member)).1 (Nat.le_antisymm forth back)
  exact eq_of_mem_of_id member there id

/-! ## What does not depend on the order -/

theorem find?_of_perm (perm : r.entries.Perm r'.entries) (id : Identity) :
    r.find? id = r'.find? id := by
  apply Option.ext
  intro e
  rw [find?_eq_some_iff, find?_eq_some_iff, perm.mem_iff]

theorem status?_of_perm (perm : r.entries.Perm r'.entries) : r.status? = r'.status? := by
  funext id
  rw [status?, status?, find?_of_perm perm]

theorem Ended.of_perm {id : Identity} (ended : r.Ended id) (perm : r.entries.Perm r'.entries) :
    r'.Ended id := by
  rw [Ended, ← status?_of_perm perm]
  exact ended

theorem isDrained_of_perm (perm : r.entries.Perm r'.entries) (roles : List Role) :
    r.isDrained roles = r'.isDrained roles := by
  rw [isDrained, isDrained, status?_of_perm perm]

theorem isComplete_of_perm (perm : r.entries.Perm r'.entries) (plan : Plan) :
    r.isComplete plan = r'.isComplete plan := by
  rw [isComplete, isComplete, isDrained_of_perm perm, namedDone, namedDone, perm.all_eq]

/-! ## The operations -/

theorem mapStatus_of_perm (perm : r.entries.Perm r'.entries) (f : Entry ρ → Status) :
    (r.mapStatus f).entries.Perm (r'.mapStatus f).entries :=
  perm.map _

theorem register_of_perm (perm : r.entries.Perm r'.entries) (id : Identity) (receiver : Option ρ) :
    (r.register id receiver).1.entries.Perm (r'.register id receiver).1.entries := by
  cases receiver with
  | none => exact perm
  | some receiver =>
    simp only [register, put, (perm.map Entry.id).mem_iff]
    split
    · exact perm.map _
    · exact perm.append_right _

theorem finish_of_perm (perm : r.entries.Perm r'.entries) (id : Identity) (final : Status) :
    (r.finish id final).1.entries.Perm (r'.finish id final).1.entries := by
  unfold finish
  rw [find?_of_perm perm]
  split
  · exact mapStatus_of_perm perm _
  · exact perm

/-! ## Marking -/

theorem namedCalls_of_perm (perm : r.entries.Perm r'.entries) :
    r.namedCalls.Perm r'.namedCalls :=
  (perm.filter _).map callOf

theorem stageCalls_of_perm (perm : r.entries.Perm r'.entries) (stage : List Role) :
    r.stageCalls stage = r'.stageCalls stage := by
  simp only [stageCalls, find?_of_perm perm]

theorem markStages_of_perm (perm : r.entries.Perm r'.entries) (index : Nat)
    (stages : List (List Role)) :
    (r.markStages index stages).registry.entries.Perm
        (r'.markStages index stages).registry.entries ∧
      (r.markStages index stages).calls = (r'.markStages index stages).calls ∧
      (r.markStages index stages).blocked = (r'.markStages index stages).blocked := by
  induction stages generalizing index with
  | nil => exact ⟨perm, rfl, rfl⟩
  | cons stage rest ih =>
    rw [markStages, markStages, isDrained_of_perm perm]
    split
    · exact ih (index + 1)
    · exact ⟨mapStatus_of_perm perm _, stageCalls_of_perm perm stage, rfl⟩

theorem mark_of_perm (perm : r.entries.Perm r'.entries) (plan : Plan) :
    (r.mark plan).registry.entries.Perm (r'.mark plan).registry.entries ∧
      (r.mark plan).calls.Perm (r'.mark plan).calls ∧
      (r.mark plan).blocked = (r'.mark plan).blocked := by
  obtain ⟨registry, calls, blocked⟩ :=
    markStages_of_perm (mapStatus_of_perm perm _) 0 plan.stages
  refine ⟨registry, (namedCalls_of_perm perm).append (.of_eq calls), blocked⟩

end Registry

end Telematics.Shutdown
