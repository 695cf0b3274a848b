/-
# Telematics.Proofs.Shutdown.Marking -- what marking does, and to whom

Marking stops at the first stage that is not drained: either every stage is
drained and nobody of a stage is called, or the stages before some stage are
drained and the calls go to the subscribed members of that one
(`markStages_cases`).  So whoever is called finds the stages before their own
drained (`ended_of_mem_calls`).

Marking ends nobody's part and brings nobody back: who has ended, or has never
registered, stays so (`Ended.mark`).
-/
import Telematics.Shutdown.Marking

namespace Telematics.Shutdown

set_option autoImplicit false

variable {ρ : Type}

namespace Registry

/-- Nobody who has registered under an identity is still to end. -/
def Ended (r : Registry ρ) (id : Identity) : Prop :=
  ∀ status, r.status? id = some status → status.isTerminal = true

theorem isDrained_iff {r : Registry ρ} {roles : List Role} :
    r.isDrained roles = true ↔ ∀ role ∈ roles, r.Ended (.fixed role) := by
  unfold isDrained Ended
  rw [List.all_eq_true]
  constructor
  · intro drained role member status found
    have ended := drained role member
    rwa [found] at ended
  · intro ended role member
    cases found : r.status? (.fixed role) with
    | none => rfl
    | some status => exact ended role member status found

/-! ## Who has ended stays so -/

theorem Ended.mapStatus {r : Registry ρ} {id : Identity} (ended : r.Ended id)
    {f : Entry ρ → Status} (keeps : ∀ e, e.status.isTerminal = true → (f e).isTerminal = true) :
    (r.mapStatus f).Ended id := by
  intro status found
  rw [status?, find?_mapStatus, Option.map_map, Option.map_eq_some_iff] at found
  obtain ⟨e, found, rfl⟩ := found
  exact keeps e (ended e.status (by rw [status?, found]; rfl))

theorem Ended.markNamed {r : Registry ρ} {id : Identity} (ended : r.Ended id) :
    r.markNamed.Ended id := by
  apply ended.mapStatus
  intro e terminal
  split
  · rwa [Status.isTerminal_notify]
  · exact terminal

theorem Ended.markStage {r : Registry ρ} {id : Identity} (ended : r.Ended id) (stage : List Role) :
    (r.markStage stage).Ended id := by
  apply ended.mapStatus
  intro e terminal
  split
  · split
    · rwa [Status.isTerminal_notify]
    · exact terminal
  · exact terminal

theorem Ended.finish {r : Registry ρ} {id : Identity} (ended : r.Ended id) (other : Identity)
    (final : Status) : (r.finish other final).1.Ended id := by
  unfold Registry.finish
  split
  · apply ended.mapStatus
    intro e terminal
    split
    · rwa [Status.terminal_advance final terminal]
    · exact terminal
  · exact ended

theorem Ended.register {r : Registry ρ} {id other : Identity} (ended : r.Ended id)
    (different : id ≠ other) (receiver : Option ρ) : (r.register other receiver).1.Ended id := by
  intro status found
  rw [status?_register_of_ne r receiver different] at found
  exact ended status found

/-! ## Where marking stops -/

/-- Marking the stages stops at the first one that is not drained. -/
theorem markStages_cases (r : Registry ρ) (index : Nat) (stages : List (List Role)) :
    (r.markStages index stages = ⟨r, [], none⟩ ∧ ∀ stage ∈ stages, r.isDrained stage = true) ∨
      ∃ before stage after, stages = before ++ stage :: after ∧
        (∀ earlier ∈ before, r.isDrained earlier = true) ∧ r.isDrained stage = false ∧
        r.markStages index stages =
          ⟨r.markStage stage, r.stageCalls stage, some (index + before.length)⟩ := by
  induction stages generalizing index with
  | nil => exact .inl ⟨rfl, by simp⟩
  | cons stage rest ih =>
    cases drained : r.isDrained stage with
    | false =>
      refine .inr ⟨[], stage, rest, rfl, by simp, drained, ?_⟩
      rw [markStages, drained]
      rfl
    | true =>
      have skip : r.markStages index (stage :: rest) = r.markStages (index + 1) rest := by
        rw [markStages, drained]
        rfl
      rcases ih (index + 1) with
        ⟨marking, all⟩ | ⟨before, stopped, after, split, all, held, marking⟩
      · refine .inl ⟨skip.trans marking, ?_⟩
        intro other member
        rcases List.mem_cons.1 member with rfl | member
        · exact drained
        · exact all other member
      · refine .inr ⟨stage :: before, stopped, after, by rw [split]; rfl, ?_, held, ?_⟩
        · intro other member
          rcases List.mem_cons.1 member with rfl | member
          · exact drained
          · exact all other member
        · rw [skip, marking, List.length_cons, Nat.add_assoc, Nat.add_comm 1]

/-- Marking ends nobody's part and brings nobody back. -/
theorem Ended.mark {r : Registry ρ} {id : Identity} (ended : r.Ended id) (plan : Plan) :
    (r.mark plan).registry.Ended id := by
  have named := ended.markNamed
  rcases r.markNamed.markStages_cases 0 plan.stages with
    ⟨marking, -⟩ | ⟨before, stage, after, -, -, -, marking⟩
  · show (r.markNamed.markStages 0 plan.stages).registry.Ended id
    rw [marking]
    exact named
  · show (r.markNamed.markStages 0 plan.stages).registry.Ended id
    rw [marking]
    exact named.markStage stage

/-! ## Who is called -/

theorem mem_of_mem_stageCalls {r : Registry ρ} {stage : List Role} {call : Call ρ} {role : Role}
    (called : call ∈ r.stageCalls stage) (member : call.id = .fixed role) : role ∈ stage := by
  obtain ⟨e, he, rfl⟩ := List.mem_map.1 called
  obtain ⟨other, inside, found⟩ := List.mem_filterMap.1 (List.mem_filter.1 he).1
  have named : e.id = .fixed other := by simpa [find?] using List.find?_some found
  have same : Identity.fixed other = .fixed role := named.symm.trans member
  cases same
  exact inside

theorem isNamed_of_mem_namedCalls {r : Registry ρ} {call : Call ρ} (called : call ∈ r.namedCalls) :
    call.id.isNamed = true := by
  obtain ⟨e, he, rfl⟩ := List.mem_map.1 called
  have both := (List.mem_filter.1 he).2
  rw [Bool.and_eq_true] at both
  exact both.1

end Registry

namespace Plan

/-- A role belongs to a stage before that of another. -/
def Before (plan : Plan) (earlier role : Role) : Prop :=
  ∃ (i j : Nat) (front own : List Role), i < j ∧ plan.stages[i]? = some front ∧ earlier ∈ front ∧
    plan.stages[j]? = some own ∧ role ∈ own

theorem stage_unique {plan : Plan} {role : Role} {i j : Nat} {front own : List Role}
    (left : plan.stages[i]? = some front) (inFront : role ∈ front)
    (right : plan.stages[j]? = some own) (inOwn : role ∈ own) : i = j := by
  have apart := (List.pairwise_flatten.1 plan.nodup).2
  rw [List.pairwise_iff_getElem] at apart
  obtain ⟨hi, rfl⟩ := List.getElem?_eq_some_iff.1 left
  obtain ⟨hj, rfl⟩ := List.getElem?_eq_some_iff.1 right
  rcases Nat.lt_trichotomy i j with less | same | greater
  · exact absurd rfl (apart i j hi hj less role inFront role inOwn)
  · exact same
  · exact absurd rfl (apart j i hj hi greater role inOwn role inFront)

end Plan

/-- Whoever is called finds the stages before their own drained. -/
theorem Registry.ended_of_mem_calls {r : Registry ρ} {plan : Plan} {call : Call ρ}
    {role earlier : Role} (called : call ∈ (r.mark plan).calls) (member : call.id = .fixed role)
    (before : plan.Before earlier role) : (r.mark plan).registry.Ended (.fixed earlier) := by
  obtain ⟨i, j, own, other, order, sooner, inside, later, within⟩ := before
  have calls : call ∈ r.namedCalls ++ (r.markNamed.markStages 0 plan.stages).calls := called
  show (r.markNamed.markStages 0 plan.stages).registry.Ended (.fixed earlier)
  rcases List.mem_append.1 calls with named | staged
  · have := isNamed_of_mem_namedCalls named
    rw [member] at this
    cases this
  rcases r.markNamed.markStages_cases 0 plan.stages with
    ⟨marking, -⟩ | ⟨front, stopped, rest, split, drained, -, marking⟩
  · rw [marking] at staged
    cases staged
  rw [marking] at staged ⊢
  have here : plan.stages[front.length]? = some stopped := by
    rw [split, List.getElem?_append_right (Nat.le_refl _), Nat.sub_self]
    rfl
  have same : j = front.length :=
    Plan.stage_unique later within here (mem_of_mem_stageCalls staged member)
  rw [split, List.getElem?_append_left (same ▸ order)] at sooner
  have terminal := isDrained_iff.1 (drained own (List.mem_of_getElem? sooner)) earlier inside
  exact terminal.markStage stopped

end Telematics.Shutdown
