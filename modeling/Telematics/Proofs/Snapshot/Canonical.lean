/-
# Telematics.Proofs.Snapshot.Canonical -- a snapshot shows who is there, in order

A snapshot is the entries of the registry, sorted.  Since no two of them are of
one participant, no two rows are, and each stands strictly before those behind
it (`pairwise_shown`).  A list that is so ordered is decided by what is in it,
and here that is the status of each participant (`mem_shown`), so two registries
have one snapshot if and only if every participant has the same status in both
(`shown_eq_iff`): the order of registration leaves no trace, and neither does the
order in which the entries happen to stand.

In a run in which anybody acts at any time, the entries are put in another order
at any time and snapshots are taken at any time (`Watched`), those who are shown
are just those who have been registered (`snapshot_is_canonical`).
-/
import Mathlib.Data.List.Permutation
import Telematics.Proofs.Identity.Order
import Telematics.Proofs.Shutdown.Account
import Telematics.Proofs.Snapshot.Row

namespace Telematics.Shutdown

set_option autoImplicit false

variable {ρ ρ' ε : Type}

/-! ## What is shown of a registry -/

namespace Registry

/-- What a snapshot of the registry shows. -/
def shown (r : Registry ρ) : List Row := Snapshot.shown r.snapshot

theorem snapshot_perm (r : Registry ρ) :
    r.snapshot.Perm (r.entries.map fun e => (e.id, e.status)) :=
  List.mergeSort_perm _ _

theorem ids_shown (r : Registry ρ) : (r.shown.map Row.id).Perm (r.entries.map Entry.id) := by
  have own := r.snapshot_perm.map Prod.fst
  rw [List.map_map] at own
  rw [shown, Snapshot.shown, List.map_map]
  exact own

theorem nodup_shown (r : Registry ρ) : (r.shown.map Row.id).Nodup :=
  r.ids_shown.nodup_iff.2 r.nodup

/-- A row shows who it is, by the name of that participant, and the status. -/
theorem mem_shown {r : Registry ρ} {row : Row} :
    row ∈ r.shown ↔ row.name = row.id.name ∧ r.status? row.id = some row.status := by
  rw [shown, Snapshot.shown, List.mem_map, status?_eq_some_iff]
  simp only [r.snapshot_perm.mem_iff, List.mem_map]
  constructor
  · rintro ⟨-, ⟨e, member, rfl⟩, rfl⟩
    exact ⟨rfl, e, member, rfl, rfl⟩
  · rintro ⟨name, e, member, own, far⟩
    refine ⟨(e.id, e.status), ⟨e, member, rfl⟩, ?_⟩
    obtain ⟨id, called, status⟩ := row
    change called = id.name at name
    subst name own far
    rfl

/-- Each participant stands strictly before those behind it. -/
theorem pairwise_shown (r : Registry ρ) :
    r.shown.Pairwise fun row later => row.id.Before later.id := by
  have sorted : r.snapshot.Pairwise fun entry later => entry.1.le later.1 = true := by
    apply List.pairwise_mergeSort
    · intro entry between later
      exact Identity.le_trans
    · intro entry later
      exact entry.1.le_total later.1
  have apart := List.pairwise_map.1 r.nodup_shown
  rw [shown, Snapshot.shown, List.pairwise_map] at apart ⊢
  exact sorted.imp₂ (fun _ _ le different => Identity.before_iff_le.2 ⟨le, different⟩) apart

/-- **A snapshot tells the statuses and no more.** -/
theorem shown_eq_iff {r : Registry ρ} {r' : Registry ρ'} :
    r.shown = r'.shown ↔ ∀ id, r.status? id = r'.status? id := by
  constructor
  · intro same id
    apply Option.ext
    intro status
    have here := @mem_shown ρ r ⟨id, id.name, status⟩
    have there := @mem_shown ρ' r' ⟨id, id.name, status⟩
    rw [same] at here
    simpa using here.symm.trans there
  · intro same
    have members : r.shown.Perm r'.shown := by
      rw [List.perm_ext_iff_of_nodup r.nodup_shown.of_map r'.nodup_shown.of_map]
      intro row
      rw [mem_shown, mem_shown, same]
    apply members.eq_of_pairwise _ r.pairwise_shown r'.pairwise_shown
    intro row row' _ _ forth back
    exact absurd (IsTrans.trans _ _ _ forth back) (irrefl row.id)

end Registry

/-! ## Runs in which snapshots are taken -/

/-- What can come of a run in which snapshots are taken: somebody comes or takes a step, the entries
are put in another order, or somebody looks at the registry and changes nothing. -/
inductive Watched (plan : Plan) : Assembly ε → List (List Row) → Prop where
  | start : Watched plan (.start plan) []
  | take {a : Assembly ε} {seen : List (List Row)} (choice : Choice ε)
      (before : Watched plan a seen) : Watched plan (a.take choice) seen
  | look {a : Assembly ε} {seen : List (List Row)} (before : Watched plan a seen) :
      Watched plan a (seen ++ [a.course.registry.shown])

variable {plan : Plan} {a : Assembly ε} {seen : List (List Row)}

theorem Watched.run (watched : Watched plan a seen) (choices : List (Choice ε)) :
    Watched plan (a.run choices) seen := by
  induction choices generalizing a with
  | nil => exact watched
  | cons choice choices ih => exact ih (watched.take choice)

/-- Without the looks the run leads to the same. -/
theorem Watched.unseen (watched : Watched plan a seen) : Watched plan a [] := by
  induction watched with
  | start => exact .start
  | take choice before ih => exact .take choice ih
  | look before ih => exact ih

/-- Whatever order the entries are put in, the run goes on. -/
theorem Watched.shuffle (watched : Watched plan a seen) {registry : Registry (Script ε)}
    (perm : a.course.registry.entries.Perm registry.entries) :
    Watched plan { a with course := { a.course with registry } } seen := by
  obtain ⟨key, rfl⟩ := Registry.exists_arrange perm
  exact watched.take (.arrange key)

theorem Watched.exists_run (watched : Watched plan a seen) :
    ∃ choices, a = (Assembly.start plan).run choices := by
  induction watched with
  | start => exact ⟨[], rfl⟩
  | take choice before ih =>
    obtain ⟨choices, rfl⟩ := ih
    refine ⟨choices ++ [choice], ?_⟩
    rw [Assembly.run, Assembly.run, List.foldl_append]
    rfl
  | look before ih => exact ih

/-- Those are there who have been registered. -/
theorem Watched.known (watched : Watched plan a seen) (id : Identity) :
    (a.course.registry.status? id).isSome = true ↔ Registered a.history id := by
  obtain ⟨choices, rfl⟩ := watched.exists_run
  rw [Registry.status?_of_perm (registry_run plan choices)]
  exact isSome_status?_iff (fitting_history plan choices)

/-- **A snapshot is a canonical view of the registry.**  In every run it has exactly one row for
each participant that has been registered, with the name and the status of that participant, each
strictly before the ones behind it.  To take it changes nothing, and two runs end with the same
snapshot if and only if they leave every participant with the same status or without one. -/
theorem snapshot_is_canonical (watched : Watched plan a seen) :
    let r := a.course.registry
    (∀ id, (Registered a.history id → (r.shown.map Row.id).count id = 1) ∧
      (¬ Registered a.history id → (r.shown.map Row.id).count id = 0)) ∧
    (∀ row ∈ r.shown, row.name = row.id.name ∧ r.status? row.id = some row.status) ∧
    r.shown.Pairwise (fun row later => row.id.Before later.id) ∧
    IsStrictTotalOrder Identity Identity.Before ∧
    (∀ id other : Identity, id.Before other ↔ id.compare other = .lt) ∧
    Watched plan a [] ∧
    ∀ {ε' : Type} {plan' : Plan} {a' : Assembly ε'} {seen' : List (List Row)},
      Watched plan' a' seen' →
      (r.shown = a'.course.registry.shown ↔
        ∀ id, r.status? id = a'.course.registry.status? id) := by
  intro r
  have there : ∀ id, id ∈ r.shown.map Row.id ↔ Registered a.history id := by
    intro id
    rw [r.ids_shown.mem_iff, Registry.mem_ids_iff]
    exact watched.known id
  refine ⟨fun id => ⟨fun registered => ?_, fun never => ?_⟩, fun row => Registry.mem_shown.1,
    r.pairwise_shown, inferInstance, fun _ _ => Identity.before_iff_compare, watched.unseen,
    fun _ => Registry.shown_eq_iff⟩
  · exact List.count_eq_one_of_mem r.nodup_shown ((there id).2 registered)
  · exact List.count_eq_zero.2 fun here => never ((there id).1 here)

/-- Some who register in turn. -/
def rollCall (ids : List Identity) : List (Choice Unit) :=
  .enter (ids.foldr (fun id next => .register id .done next) .done) ::
    List.replicate ids.length (.turn 0)

/-- Whether they register from the first to the last or from the last to the first, the snapshot is
the same, although the entries stand in another order. -/
theorem snapshot_is_canonical_rollCall :
    let ids : List Identity := [.named "zeta", .fixed .dbTransport, .named "alpha"]
    let forth := (Assembly.start .standard).run (rollCall ids)
    let back := (Assembly.start .standard).run (rollCall ids.reverse)
    forth.course.registry.entries.map Entry.id = ids ∧
      back.course.registry.entries.map Entry.id = ids.reverse ∧
      forth.course.registry.shown = back.course.registry.shown ∧
      forth.course.registry.shown.map Row.name = ["DBTransport", "alpha", "zeta"] := by
  intro ids forth back
  have watched : ∀ ids, Watched .standard ((Assembly.start .standard).run (rollCall ids)) [] :=
    fun ids => Watched.start.run (rollCall ids)
  obtain ⟨-, -, -, -, -, -, same⟩ := snapshot_is_canonical (watched ids)
  have perm : forth.course.registry.entries.Perm back.course.registry.entries :=
    (List.reverse_perm forth.course.registry.entries).symm
  refine ⟨rfl, rfl, (same (watched ids.reverse)).2 fun id => ?_, by cbv⟩
  rw [Registry.status?_of_perm perm]

end Telematics.Shutdown
