/-
# Telematics.Shutdown.Plan -- the stages of a shutdown

A plan lists the roles that are shut down in order, in stages: a stage begins
when nobody of the stages before it is left.  No role occurs twice in a plan,
neither in two stages nor within one; an empty stage is allowed.

`ofStages` takes exactly the lists without a repeated role
(`ofStages_eq_ok_iff`), and otherwise names the first repetition in the order of
the plan.
-/
import Telematics.Role

namespace Telematics.Shutdown

set_option autoImplicit false

/-- A role that occurs twice in a list of stages. -/
structure Overlap where
  role : Role
  first : Nat
  /-- The stage where it occurs again. -/
  second : Nat
  deriving Repr, DecidableEq

/-- The stages of a shutdown, in order. -/
structure Plan where
  stages : List (List Role)
  nodup : stages.flatten.Nodup
  deriving DecidableEq

namespace Plan

/-- Each role of a list of stages with the index of its stage, the first stage having the index
`start`. -/
def placed (start : Nat) : List (List Role) → List (Role × Nat)
  | [] => []
  | stage :: rest => stage.map (·, start) ++ placed (start + 1) rest

/-- The first repetition in a list of placed roles, behind those of `seen`. -/
def repetition? (seen : List (Role × Nat)) : List (Role × Nat) → Option Overlap
  | [] => none
  | (role, index) :: rest =>
    match seen.lookup role with
    | some first => some ⟨role, first, index⟩
    | none => repetition? (seen ++ [(role, index)]) rest

/-- The first repetition in a list of stages. -/
def overlap? (stages : List (List Role)) : Option Overlap :=
  repetition? [] (placed 0 stages)

theorem placed_fst (start : Nat) (stages : List (List Role)) :
    (placed start stages).map Prod.fst = stages.flatten := by
  induction stages generalizing start with
  | nil => rfl
  | cons stage rest ih => simp [placed, ih, Function.comp_def]

theorem lookup_eq_none_iff_not_mem {role : Role} {seen : List (Role × Nat)} :
    seen.lookup role = none ↔ role ∉ seen.map Prod.fst := by
  induction seen with
  | nil => simp
  | cons p seen ih =>
    obtain ⟨other, index⟩ := p
    by_cases h : role = other
    · subst h
      simp [List.lookup_cons_self]
    · have hb : (role == other) = false := by simpa using h
      rw [List.lookup_cons, hb]
      simp [ih, h]

/-- There is a repetition unless the roles, those seen before included, are distinct. -/
theorem repetition?_eq_none_iff {seen rest : List (Role × Nat)}
    (hseen : (seen.map Prod.fst).Nodup) :
    repetition? seen rest = none ↔ ((seen ++ rest).map Prod.fst).Nodup := by
  induction rest generalizing seen with
  | nil => simpa [repetition?] using hseen
  | cons p rest ih =>
    obtain ⟨role, index⟩ := p
    simp only [repetition?]
    split
    · rename_i first h
      have hmem : role ∈ seen.map Prod.fst := by
        by_cases hc : role ∈ seen.map Prod.fst
        · exact hc
        · rw [lookup_eq_none_iff_not_mem.2 hc] at h; cases h
      simp only [reduceCtorEq, List.map_append, List.map_cons, false_iff]
      intro hn
      exact (List.nodup_append.1 hn).2.2 role hmem role (by simp) rfl
    · rename_i h
      have hnot := lookup_eq_none_iff_not_mem.1 h
      have hseen' : ((seen ++ [(role, index)]).map Prod.fst).Nodup := by
        simp only [List.map_append, List.map_cons, List.map_nil]
        refine List.nodup_append.2 ⟨hseen, by simp, ?_⟩
        intro a ha b hb hab
        simp only [List.mem_singleton] at hb
        exact hnot (by rw [← hb, ← hab]; exact ha)
      rw [ih hseen']
      simp [List.append_assoc]

theorem overlap?_eq_none_iff {stages : List (List Role)} :
    overlap? stages = none ↔ stages.flatten.Nodup := by
  unfold overlap?
  rw [repetition?_eq_none_iff (by simp)]
  simp [placed_fst]

/-- The plan with these stages, or the first repetition in them. -/
def ofStages (stages : List (List Role)) : Except Overlap Plan :=
  match h : overlap? stages with
  | some overlap => .error overlap
  | none => .ok ⟨stages, overlap?_eq_none_iff.1 h⟩

/-- The plan of the client: what receives from outside goes first and the life cycle last. -/
def standard : Plan where
  stages :=
    [[.externalReceiveBridge, .notificationListener, .midHandler],
     [.messageController, .uploadController],
     [.mqttUploader, .messageQueue],
     [.mqttClient, .cacheTransport, .dbTransport],
     [.lifecycleController]]
  nodup := by decide

def roles (plan : Plan) : List Role :=
  plan.stages.flatten

/-- The index of the stage that a role belongs to. -/
def stageOf? (plan : Plan) (role : Role) : Option Nat :=
  plan.stages.findIdx? (role ∈ ·)

/-- Whether a role takes part in the plan. -/
def contains (plan : Plan) (role : Role) : Bool :=
  (plan.stageOf? role).isSome

theorem contains_iff {plan : Plan} {role : Role} : plan.contains role = true ↔ role ∈ plan.roles := by
  simp [contains, stageOf?, roles, List.findIdx?_isSome]

/-- Exactly the lists without a repeated role are plans, and they are kept as they are. -/
theorem ofStages_eq_ok_iff {stages : List (List Role)} {plan : Plan} :
    ofStages stages = .ok plan ↔ stages.flatten.Nodup ∧ plan.stages = stages := by
  unfold ofStages
  split
  · rename_i o h
    simp only [reduceCtorEq, false_iff, not_and]
    intro hn
    rw [overlap?_eq_none_iff.2 hn] at h
    cases h
  · rename_i h
    have hn := overlap?_eq_none_iff.1 h
    constructor
    · rintro ⟨rfl⟩; exact ⟨hn, rfl⟩
    · rintro ⟨_, rfl⟩; rfl

end Plan

end Telematics.Shutdown
