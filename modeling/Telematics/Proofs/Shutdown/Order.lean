/-
# Telematics.Proofs.Shutdown.Order -- in which order the entries stand

The entries of a registry stand in some order, and those with a name of their
own are told in that order.  Nothing else depends on it while receivers mind
their own business: to put the entries in another order (`Course.Shuffled`)
changes neither the stage at which marking stops nor who is gone over, so a round
leaves the same entries in the same statuses and finds the same of the plan's
roles to be told, in the same order.

One round from two orders leads to two orders again (`Shuffled.held`), so any
number of rounds does, also if the entries are shuffled anew before each of them
(`order_makes_no_difference`).
-/
import Telematics.Proofs.Shutdown.Own

namespace Telematics.Shutdown

set_option autoImplicit false

variable {ρ ε : Type}

/-! ## What does not depend on the order -/

namespace Registry

variable {r r' : Registry ρ}

theorem reaches_of_perm (perm : r.entries.Perm r'.entries) (plan : Plan) :
    r.reaches plan = r'.reaches plan := by
  funext id
  rw [reaches, reaches, (mark_of_perm perm plan).2.2]

end Registry

/-! ## One round -/

/-- Two rounds have come to the same, but for the order of those with a name of their own. -/
structure Report.Alike (report report' : Report) : Prop where
  blocked : report.blocked = report'.blocked
  complete : report.complete = report'.complete
  notified : ∃ named named' staged, report.notified = named ++ staged ∧
    report'.notified = named' ++ staged ∧ named.Perm named' ∧
    (∀ id ∈ named, id.isNamed = true) ∧ ∀ id ∈ staged, id.isNamed = false

namespace Course

/-- The same plan and the same entries, in whatever order these stand. -/
structure Shuffled (course course' : Course ε) : Prop where
  planned : course.plan = course'.plan
  entries : course.registry.entries.Perm course'.registry.entries

theorem Shuffled.refl (course : Course ε) : course.Shuffled course := ⟨rfl, .refl _⟩

theorem Shuffled.symm {course course' : Course ε} (shuffled : course.Shuffled course') :
    course'.Shuffled course :=
  ⟨shuffled.planned.symm, shuffled.entries.symm⟩

theorem Shuffled.trans {course between course' : Course ε} (first : course.Shuffled between)
    (second : between.Shuffled course') : course.Shuffled course' :=
  ⟨first.planned.trans second.planned, first.entries.trans second.entries⟩

/-- Each receiver changes no other entry than its own. -/
def AllMinding (course : Course ε) : Prop :=
  ∀ e ∈ course.registry.entries, e.receiver.Minds e.id

variable {course course' : Course ε}

theorem AllMinding.minding (minds : course.AllMinding) : course.Minding :=
  fun e member _ _ => minds e member

theorem AllMinding.shuffled (minds : course.AllMinding) (shuffled : course.Shuffled course') :
    course'.AllMinding :=
  fun e member => minds e (shuffled.entries.mem_iff.2 member)

/-- A round replaces nobody's receiver. -/
theorem AllMinding.held (minds : course.AllMinding) : course.held.AllMinding := by
  intro e member
  rw [registry_held minds.minding] at member
  obtain ⟨e', before, rfl⟩ := List.mem_map.1 member
  exact minds e' before

theorem Shuffled.held (shuffled : course.Shuffled course') (minds : course.AllMinding) :
    course.held.Shuffled course'.held where
  planned := (follow_plan _ _).trans (shuffled.planned.trans (follow_plan _ _).symm)
  entries := by
    rw [registry_held minds.minding, registry_held (minds.shuffled shuffled).minding,
      Registry.reaches_of_perm shuffled.entries, shuffled.planned]
    exact shuffled.entries.map _

theorem Shuffled.report (shuffled : course.Shuffled course') (minds : course.AllMinding) :
    course.report.Alike course'.report where
  blocked := by
    show (course.registry.mark course.plan).blocked = _
    rw [(Registry.mark_of_perm shuffled.entries course.plan).2.2, shuffled.planned]
    rfl
  complete := by
    show course.held.registry.isComplete course.plan = _
    rw [Registry.isComplete_of_perm (shuffled.held minds).entries, shuffled.planned]
    rfl
  notified := by
    let stage := course.plan.stageAt (course.registry.mark course.plan).blocked
    have same : course'.plan.stageAt (course'.registry.mark course'.plan).blocked = stage := by
      rw [← shuffled.planned, ← (Registry.mark_of_perm shuffled.entries course.plan).2.2]
    refine ⟨course.registry.namedCalls.map Call.id, course'.registry.namedCalls.map Call.id,
      (course.registry.stageCalls stage).map Call.id, ?_, ?_,
      (Registry.namedCalls_of_perm shuffled.entries).map Call.id, ?_, ?_⟩
    · show (course.registry.mark course.plan).calls.map Call.id = _
      rw [Registry.calls_mark, List.map_append]
    · show (course'.registry.mark course'.plan).calls.map Call.id = _
      rw [Registry.calls_mark, List.map_append, same,
        Registry.stageCalls_of_perm shuffled.entries]
    · intro id inside
      exact (Registry.mem_namedCalls_ids.1 inside).1
    · intro id inside
      rw [Registry.stageCalls_ids] at inside
      obtain ⟨role, -, rfl⟩ := List.mem_map.1 inside
      rfl

/-! ## Any number of rounds -/

/-- Some rounds are held one after the other and report this, while nobody else interferes.  Before
each of them the entries may be put in another order. -/
inductive Rounds : Course ε → List Report → Course ε → Prop where
  | none (course : Course ε) : Rounds course [] course
  | more {course shuffled last : Course ε} {report : Report} {reports : List Report}
      (order : course.Shuffled shuffled)
      (reported : (shuffled.follow (.round .done)).2.outcomes = [.report report])
      (rest : Rounds (shuffled.follow (.round .done)).1 reports last) :
      Rounds course (report :: reports) last

theorem exists_rounds (n : Nat) (course : Course ε) :
    ∃ reports last, Rounds course reports last ∧ reports.length = n := by
  induction n generalizing course with
  | zero => exact ⟨[], course, .none course, rfl⟩
  | succ n ih =>
    obtain ⟨reports, last, rounds, length⟩ := ih course.held
    exact ⟨course.report :: reports, last,
      .more (.refl course) course.outcomes_of_round rounds, congrArg (· + 1) length⟩

/-- As many rounds from two orders lead to two orders. -/
theorem Rounds.shuffled {reports reports' : List Report} {last last' : Course ε}
    (rounds : Rounds course reports last) (rounds' : Rounds course' reports' last')
    (length : reports.length = reports'.length) (order : course.Shuffled course')
    (minds : course.AllMinding) :
    last.Shuffled last' ∧ List.Forall₂ Report.Alike reports reports' := by
  induction rounds generalizing course' reports' with
  | none course =>
    cases rounds' with
    | none => exact ⟨order, .nil⟩
    | more => cases length
  | @more course shuffled last report reports own reported rest ih =>
    cases rounds' with
    | none => cases length
    | @more _ shuffled' _ report' reports' own' reported' rest' =>
      -- Whatever each of the two has been shuffled to, it is the one by way of the other.
      have between : shuffled.Shuffled shuffled' := own.symm.trans (order.trans own')
      have minds := minds.shuffled own
      obtain ⟨same, alike⟩ :=
        ih rest' (Nat.succ.inj length) (between.held minds) minds.held
      rw [eq_report reported, eq_report reported']
      exact ⟨same, .cons (between.report minds) alike⟩

/-- **The order of the entries makes no difference** while each receiver changes no other entry
than its own.  However the entries are ordered at first, and in whatever order they are put before
each round, any number of rounds leaves the same entries in the same statuses, and each of the
rounds stops at the same stage, finds the shutdown complete or not, and tells the same participants:
those with a name of their own in some order, and then those of the stage in the same one. -/
theorem order_makes_no_difference {course course' : Course ε} (shuffled : course.Shuffled course')
    (minds : course.AllMinding) :
    (∀ n, ∃ reports last, Rounds course reports last ∧ reports.length = n) ∧
    ∀ reports reports' last last', Rounds course reports last → Rounds course' reports' last' →
      reports.length = reports'.length →
        last.registry.entries.Perm last'.registry.entries ∧
        (∀ id, last.registry.find? id = last'.registry.find? id) ∧
        List.Forall₂ Report.Alike reports reports' := by
  refine ⟨fun n => course.exists_rounds n, ?_⟩
  intro reports reports' last last' rounds rounds' length
  obtain ⟨same, alike⟩ := rounds.shuffled rounds' length shuffled minds
  exact ⟨same.entries, Registry.find?_of_perm same.entries, alike⟩

/-- Two with a name of their own, of whom one ends their part when told and the other does nothing,
and a member of the first stage who takes no part any more. -/
def vigil : Course Unit where
  plan := .standard
  registry :=
    { entries :=
        [⟨.named "cache", .markReady (.named "cache") .done, .subscribed⟩,
          ⟨.named "index", .done, .subscribed⟩,
          ⟨.fixed .midHandler, .withdraw (.fixed .midHandler) .done, .subscribed⟩]
      nodup := by decide }
  calls := []

/-- The same from the last to the first. -/
def vigilReversed : Course Unit where
  plan := .standard
  registry := ⟨vigil.registry.entries.reverse, by decide⟩
  calls := []

/-- The two orders are told in different orders, but after two rounds of each everybody is in the
same status. -/
theorem order_makes_no_difference_vigil :
    vigil.report.notified = [.named "cache", .named "index", .fixed .midHandler] ∧
      vigilReversed.report.notified = [.named "index", .named "cache", .fixed .midHandler] ∧
      vigil.held.held.registry.find? = vigilReversed.held.held.registry.find? := by
  have shuffled : vigil.Shuffled vigilReversed := ⟨rfl, (List.reverse_perm _).symm⟩
  have minds : vigil.AllMinding := by
    show ∀ e ∈ [_, _, _], _
    simp only [List.forall_mem_cons]
    exact ⟨⟨rfl, trivial⟩, trivial, ⟨rfl, trivial⟩, List.forall_mem_nil _⟩
  have twice : ∀ course : Course Unit,
      Rounds course [course.report, course.held.report] course.held.held := fun course =>
    .more (.refl course) course.outcomes_of_round
      (.more (.refl _) course.held.outcomes_of_round (.none _))
  obtain ⟨-, same⟩ := order_makes_no_difference shuffled minds
  obtain ⟨-, found, -⟩ := same _ _ _ _ (twice vigil) (twice vigilReversed) rfl
  exact ⟨by decide, by decide, funext found⟩

end Course

end Telematics.Shutdown
