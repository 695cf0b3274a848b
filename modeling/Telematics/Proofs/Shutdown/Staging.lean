/-
# Telematics.Proofs.Shutdown.Staging -- which stages make a plan

A list of stages is gone over role by role.  What has been gone over has no role
twice, so the first role that was there before is the one that is reported, and it
was there in one stage only (`overlap?_eq_some_iff`).  If there is none, the list
is a plan as it stands, in which each role has one place at most and the stages
stand in the order of their numbers (`orderly`).

Both together say what is made of any list (`plan_or_first_overlap`).
-/
import Telematics.Proofs.Shutdown.Marking

namespace Telematics.Shutdown

set_option autoImplicit false

namespace Plan

/-! ## Roles and the numbers of their stages -/

theorem placed_append (start : Nat) (front back : List (List Role)) :
    placed start (front ++ back) = placed start front ++ placed (start + front.length) back := by
  induction front generalizing start with
  | nil => rfl
  | cons stage front ih =>
    simp only [List.cons_append, placed, ih, List.append_assoc, List.length_cons,
      Nat.add_right_comm start, Nat.add_assoc]

theorem mem_placed {start : Nat} {stages : List (List Role)} {role : Role} {index : Nat} :
    (role, index) ∈ placed start stages ↔
      ∃ k stage, index = start + k ∧ stages[k]? = some stage ∧ role ∈ stage := by
  induction stages generalizing start with
  | nil => simp [placed]
  | cons own stages ih =>
    simp only [placed, List.mem_append, List.mem_map, Prod.mk.injEq, ih]
    constructor
    · rintro (⟨_, inside, rfl, rfl⟩ | ⟨k, stage, rfl, there, inside⟩)
      · exact ⟨0, own, rfl, rfl, inside⟩
      · exact ⟨k + 1, stage, by omega, there, inside⟩
    · rintro ⟨_ | k, stage, rfl, there, inside⟩
      · cases there
        exact .inl ⟨role, inside, rfl, rfl⟩
      · exact .inr ⟨k, stage, by omega, there, inside⟩

/-- The stages stand in the order of their numbers. -/
theorem pairwise_placed (start : Nat) (stages : List (List Role)) :
    (placed start stages).Pairwise fun a b => a.2 ≤ b.2 := by
  induction stages generalizing start with
  | nil => exact .nil
  | cons stage stages ih =>
    refine List.pairwise_append.2 ⟨?_, ih (start + 1), ?_⟩
    · exact List.pairwise_map.2 (List.pairwise_of_forall fun _ _ => Nat.le_refl _)
    · rintro a inside ⟨role, index⟩ later
      obtain ⟨_, -, rfl⟩ := List.mem_map.1 inside
      obtain ⟨k, _, rfl, -⟩ := mem_placed.1 later
      exact Nat.le_trans (Nat.le_add_right _ 1) (Nat.le_add_right _ k)

/-- A role in a list of stages has a stage, others before it in this stage, and other stages. -/
theorem exists_split_of_placed {start : Nat} {stages : List (List Role)} {role : Role} {index : Nat}
    {before after : List (Role × Nat)}
    (split : placed start stages = before ++ (role, index) :: after) :
    ∃ front begun rest back, stages = front ++ (begun ++ role :: rest) :: back ∧
      index = start + front.length ∧ before = placed start (front ++ [begun]) := by
  induction stages generalizing start before with
  | nil => simp [placed] at split
  | cons stage stages ih =>
    rcases List.append_eq_append_iff.1 split with ⟨more, rfl, own⟩ | ⟨more, own, others⟩
    · -- The role stands in a later stage.
      obtain ⟨front, begun, rest, back, rfl, rfl, rfl⟩ := ih own
      refine ⟨stage :: front, begun, rest, back, rfl, ?_, rfl⟩
      rw [List.length_cons]
      omega
    · cases more with
      | nil =>
        obtain ⟨front, begun, rest, back, rfl, rfl, none⟩ :=
          ih (others.symm.trans (List.nil_append _).symm)
        refine ⟨stage :: front, begun, rest, back, rfl, by rw [List.length_cons]; omega, ?_⟩
        rw [List.append_nil] at own
        rw [← own, List.cons_append, placed, ← none, List.append_nil]
      | cons place more =>
        obtain ⟨rfl, -⟩ := List.cons.inj others
        obtain ⟨begun, others, rfl, rfl, same⟩ := List.map_eq_append_iff.1 own
        obtain ⟨_, rest, rfl, place, -⟩ := List.map_eq_cons_iff.1 same
        cases place
        exact ⟨[], begun, rest, stages, rfl, rfl, by simp [placed]⟩

/-! ## The first repetition -/

theorem lookup_eq_some_iff_mem {role : Role} {index : Nat} {seen : List (Role × Nat)}
    (once : (seen.map Prod.fst).Nodup) :
    seen.lookup role = some index ↔ (role, index) ∈ seen := by
  induction seen with
  | nil => simp
  | cons place seen ih =>
    obtain ⟨other, there⟩ := place
    rw [List.map_cons, List.nodup_cons] at once
    by_cases same : role = other
    · subst same
      have apart : (role, index) ∉ seen := fun inside =>
        once.1 (List.mem_map.2 ⟨_, inside, rfl⟩)
      simp [List.lookup_cons_self, apart, eq_comm]
    · have different : (role == other) = false := by simpa using same
      rw [List.lookup_cons, different]
      simp [ih once.2, same]

/-- The first repetition is that of a role behind places of different roles, one of which is that
of the role itself. -/
theorem repetition?_eq_some_iff {seen rest : List (Role × Nat)} {o : Overlap}
    (once : (seen.map Prod.fst).Nodup) :
    repetition? seen rest = some o ↔ ∃ before after, rest = before ++ (o.role, o.second) :: after ∧
      ((seen ++ before).map Prod.fst).Nodup ∧ (o.role, o.first) ∈ seen ++ before := by
  induction rest generalizing seen with
  | nil => simp [repetition?]
  | cons place rest ih =>
    obtain ⟨role, index⟩ := place
    rw [repetition?]
    cases found : seen.lookup role with
    | some first =>
      have there := (lookup_eq_some_iff_mem once).1 found
      constructor
      · rintro ⟨⟩
        exact ⟨[], rest, rfl, by simpa using once, by simpa using there⟩
      · rintro ⟨_ | ⟨place, before⟩, after, split, apart, earlier⟩
        · obtain ⟨⟨rfl, rfl⟩, -⟩ := List.cons.inj split
          rw [List.append_nil, ← lookup_eq_some_iff_mem once, found] at earlier
          cases earlier
          rfl
        · obtain ⟨rfl, -⟩ := List.cons.inj split
          rw [List.map_append, List.nodup_append] at apart
          exact absurd rfl (apart.2.2 role (List.mem_map_of_mem there) role (by simp))
    | none =>
      have new := lookup_eq_none_iff_not_mem.1 found
      have grown : ((seen ++ [(role, index)]).map Prod.fst).Nodup := by
        rw [List.map_append, List.nodup_append]
        refine ⟨once, by simp, ?_⟩
        intro a inside b last same
        rw [List.map_singleton, List.mem_singleton] at last
        rw [same, last] at inside
        exact new inside
      simp only [ih grown, List.append_assoc, List.singleton_append]
      constructor
      · rintro ⟨before, after, rfl, apart, earlier⟩
        exact ⟨(role, index) :: before, after, rfl, apart, earlier⟩
      · rintro ⟨_ | ⟨place, before⟩, after, split, apart, earlier⟩
        · obtain ⟨⟨rfl, rfl⟩, -⟩ := List.cons.inj split
          rw [List.append_nil] at earlier
          exact absurd (List.mem_map_of_mem (f := Prod.fst) earlier) new
        · obtain ⟨rfl, rfl⟩ := List.cons.inj split
          exact ⟨before, after, rfl, apart, earlier⟩

end Plan

/-- A role stands in some stages for the second time, and it is the first role that does: `front`
are the stages before its own, and `begun` is what stands before it in its own stage.  No role
stands there twice, and this one stands in the stage with the number `first` and in no other. -/
structure Overlap.At (o : Overlap) (stages front : List (List Role)) (begun : List Role) :
    Prop where
  split : ∃ rest back, stages = front ++ (begun ++ o.role :: rest) :: back
  once : (front ++ [begun]).flatten.Nodup
  second : o.second = front.length
  first : ∀ i, (∃ stage, (front ++ [begun])[i]? = some stage ∧ o.role ∈ stage) ↔ i = o.first

theorem Overlap.At.first_le_second {o : Overlap} {stages front : List (List Role)}
    {begun : List Role} (here : o.At stages front begun) : o.first ≤ o.second := by
  obtain ⟨stage, there, -⟩ := (here.first o.first).2 rfl
  have within := (List.getElem?_eq_some_iff.1 there).1
  rw [List.length_append, List.length_singleton] at within
  have := here.second
  omega

namespace Plan

/-- What is reported is the first role that stands in the stages for the second time. -/
theorem overlap?_eq_some_iff {stages : List (List Role)} {o : Overlap} :
    overlap? stages = some o ↔ ∃ front begun, o.At stages front begun := by
  rw [overlap?, repetition?_eq_some_iff (by simp)]
  simp only [List.nil_append]
  constructor
  · rintro ⟨before, after, split, apart, earlier⟩
    obtain ⟨front, begun, rest, back, rfl, second, rfl⟩ := exists_split_of_placed split
    rw [placed_fst] at apart
    obtain ⟨k, stage, first, there, inside⟩ := mem_placed.1 earlier
    rw [Nat.zero_add] at first second
    refine ⟨front, begun, ⟨rest, back, rfl⟩, apart, second, ?_⟩
    -- What stands before the role would be a plan by itself.
    let upTo : Plan := ⟨front ++ [begun], apart⟩
    replace there : upTo.stages[k]? = some stage := there
    intro i
    constructor
    · rintro ⟨other, here, among⟩
      replace here : upTo.stages[i]? = some other := here
      exact (stage_unique here among there inside).trans first.symm
    · rintro rfl
      exact ⟨stage, first ▸ there, inside⟩
  · rintro ⟨front, begun, ⟨rest, back, rfl⟩, once, second, first⟩
    obtain ⟨stage, there, inside⟩ := (first o.first).2 rfl
    refine ⟨placed 0 (front ++ [begun]),
      rest.map (·, front.length) ++ placed (front.length + 1) back, ?_, ?_, ?_⟩
    · simp [placed_append, placed, second]
    · rwa [placed_fst]
    · exact mem_placed.2 ⟨o.first, stage, (Nat.zero_add _).symm, there, inside⟩

theorem ofStages_eq_error_iff {stages : List (List Role)} {o : Overlap} :
    ofStages stages = .error o ↔ overlap? stages = some o := by
  unfold ofStages
  split
  · rename_i found
    simp [found]
  · rename_i none
    simp [none]

/-! ## The order of a plan -/

/-- Each role has one place in a plan at most, and the roles are listed stage by stage. -/
structure Orderly (plan : Plan) : Prop where
  stage : ∀ role i, plan.stageOf? role = some i ↔
    ∃ stage, plan.stages[i]? = some stage ∧ role ∈ stage
  nowhere : ∀ role, plan.stageOf? role = none ↔ ∀ stage ∈ plan.stages, role ∉ stage
  listed : ∀ role, plan.contains role = true ↔ role ∈ plan.roles
  placed : ∀ role, plan.contains role = (plan.stageOf? role).isSome
  once : plan.roles.Nodup
  sorted : plan.roles.Pairwise fun a b =>
    ∃ i j, plan.stageOf? a = some i ∧ plan.stageOf? b = some j ∧ i ≤ j

theorem stageOf?_eq_some_iff {plan : Plan} {role : Role} {i : Nat} :
    plan.stageOf? role = some i ↔ ∃ stage, plan.stages[i]? = some stage ∧ role ∈ stage := by
  rw [stageOf?, List.findIdx?_eq_some_iff_getElem]
  constructor
  · rintro ⟨within, inside, -⟩
    exact ⟨plan.stages[i], List.getElem?_eq_getElem within, by simpa using inside⟩
  · rintro ⟨stage, there, inside⟩
    obtain ⟨within, rfl⟩ := List.getElem?_eq_some_iff.1 there
    refine ⟨within, by simpa using inside, ?_⟩
    intro j earlier also
    have same := stage_unique (List.getElem?_eq_getElem (Nat.lt_trans earlier within))
      (by simpa using also) there inside
    omega

theorem stageOf?_eq_none_iff {plan : Plan} {role : Role} :
    plan.stageOf? role = none ↔ ∀ stage ∈ plan.stages, role ∉ stage := by
  simp [stageOf?, List.findIdx?_eq_none_iff]

theorem orderly (plan : Plan) : plan.Orderly where
  stage _ _ := stageOf?_eq_some_iff
  nowhere _ := stageOf?_eq_none_iff
  listed _ := contains_iff
  placed _ := rfl
  once := plan.nodup
  sorted := by
    have listed : (placed 0 plan.stages).map Prod.fst = plan.roles := placed_fst 0 plan.stages
    have stage : ∀ place ∈ placed 0 plan.stages, plan.stageOf? place.1 = some place.2 := by
      rintro ⟨role, i⟩ inside
      obtain ⟨k, stage, rfl, there, among⟩ := mem_placed.1 inside
      rw [Nat.zero_add]
      exact stageOf?_eq_some_iff.2 ⟨stage, there, among⟩
    rw [← listed, List.pairwise_map]
    refine List.Pairwise.imp_of_mem ?_ (pairwise_placed 0 plan.stages)
    intro a b first second order
    exact ⟨a.2, b.2, stage a first, stage b second, order⟩

/-- **Which stages make a plan**: those in which no role stands twice, and they are kept as they
are, empty ones included.  Of a plan it is known for each role in which stage it is, if it is in
any.  Of other stages the first role is reported that stands there for the second time, with the
stage in which it stands then and the only one in which it has stood before. -/
theorem plan_or_first_overlap (stages : List (List Role)) :
    ((∃ plan, ofStages stages = .ok plan) ↔ stages.flatten.Nodup) ∧
    (∀ plan, ofStages stages = .ok plan → plan.stages = stages ∧ plan.Orderly) ∧
    (∀ o, ofStages stages = .error o ↔ ∃ front begun, o.At stages front begun) ∧
    ∀ o, ofStages stages = .error o → o.first ≤ o.second := by
  have reported : ∀ o, ofStages stages = .error o ↔ ∃ front begun, o.At stages front begun :=
    fun o => ofStages_eq_error_iff.trans overlap?_eq_some_iff
  refine ⟨⟨?_, ?_⟩, ?_, reported, ?_⟩
  · rintro ⟨plan, made⟩
    exact (ofStages_eq_ok_iff.1 made).1
  · intro once
    exact ⟨⟨stages, once⟩, ofStages_eq_ok_iff.2 ⟨once, rfl⟩⟩
  · intro plan made
    exact ⟨(ofStages_eq_ok_iff.1 made).2, plan.orderly⟩
  · intro o refused
    obtain ⟨front, begun, here⟩ := (reported o).1 refused
    exact here.first_le_second

/-- The repetition within the second stage comes before that of the third one. -/
example : ofStages [[.midHandler], [], [.dbTransport, .mqttClient, .dbTransport], [.midHandler]] =
    .error ⟨.dbTransport, 2, 2⟩ := rfl

end Plan

end Telematics.Shutdown
