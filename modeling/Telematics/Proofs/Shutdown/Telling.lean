/-
# Telematics.Proofs.Shutdown.Telling -- whom a round has told

A round is known by the moment of its marking.  The history says whom it has
told, in order (`tellings`), and that is at any time a beginning of the calls of
its marking; when it is over it is all of them (`tallied_run`).

What carries this is that each round which is being held is `Underway`: whom it
has told and whom it has still to tell are together the calls of its marking.  No
two rounds have marked at one moment, so what one of them does changes nothing
for the others (`Member.held_step`).
-/
import Mathlib.Data.List.Forall2
import Telematics.Proofs.Shutdown.Past

namespace Telematics.Shutdown

set_option autoImplicit false

variable {ε : Type}

/-! ## The tellings of a round -/

/-- Whom a happening tells for the round that marked at the moment `since`. -/
def Happening.telling? (since : Nat) : Happening ε → Option (Call (Script ε))
  | .told moment call => if moment = since then some call else none
  | _ => none

/-- Whom the round that marked at the moment `since` has told, in order. -/
def tellings (history : List (Happening ε)) (since : Nat) : List (Call (Script ε)) :=
  history.filterMap (Happening.telling? since)

theorem Happening.telling?_eq_some_iff {happening : Happening ε} {since : Nat}
    {call : Call (Script ε)} : happening.telling? since = some call ↔ happening = .told since call := by
  cases happening with
  | told moment other =>
    simp only [telling?, Option.ite_none_right_eq_some, Option.some.injEq, Happening.told.injEq]
  | _ => simp [telling?]

theorem tellings_concat (history : List (Happening ε)) (happening : Happening ε) (since : Nat) :
    tellings (history ++ [happening]) since =
      tellings history since ++ (happening.telling? since).toList := by
  rw [tellings, List.filterMap_append]
  cases told : happening.telling? since <;> simp [told, tellings]

theorem tellings_concat_of_ne {history : List (Happening ε)} {happening : Happening ε} {since : Nat}
    (other : ∀ call, happening ≠ .told since call) :
    tellings (history ++ [happening]) since = tellings history since := by
  rw [tellings_concat]
  cases told : happening.telling? since with
  | none => exact List.append_nil _
  | some call => exact absurd (Happening.telling?_eq_some_iff.1 told) (other call)

theorem tellings_concat_told (history : List (Happening ε)) (since : Nat)
    (call : Call (Script ε)) :
    tellings (history ++ [.told since call]) since = tellings history since ++ [call] := by
  rw [tellings_concat, Happening.telling?_eq_some_iff.2 rfl]
  rfl

theorem mem_tellings {history : List (Happening ε)} {since : Nat} {call : Call (Script ε)} :
    call ∈ tellings history since ↔ .told since call ∈ history := by
  simp only [tellings, List.mem_filterMap, Happening.telling?_eq_some_iff, exists_eq_right]

/-! ## What a step does to the rounds that a member holds -/

theorem forall₂_of_mem {P Q : Round ε → Nat → Prop} {held : List (Round ε)} {since : List Nat}
    (each : List.Forall₂ P held since)
    (keeps : ∀ round moment, moment ∈ since → P round moment → Q round moment) :
    List.Forall₂ Q held since := by
  induction each with
  | nil => exact .nil
  | cons first _ ih =>
    apply List.Forall₂.cons (keeps _ _ List.mem_cons_self first)
    exact ih fun round moment member => keeps round moment (List.mem_cons_of_mem _ member)

/-- A member that tells somebody or ends a round does so for the innermost round that it holds. -/
theorem Member.next_cases (course : Course ε) {m : Member ε} {P : Round ε → Nat → Prop}
    (held : List.Forall₂ P (rounds m.thread.stack) m.since) :
    ((∀ since call, m.next course ≠ .told since call) ∧
        ∀ since report, m.next course ≠ .reported since report) ∨
      ∃ round others since earlier, rounds m.thread.stack = round :: others ∧
        m.since = since :: earlier ∧ P round since ∧ List.Forall₂ P others earlier ∧
        ((∃ call pending, round.pending = call :: pending ∧ m.next course = .told since call) ∨
          round.pending = [] ∧ m.next course = .reported since
            ⟨round.notified, round.blocked, course.registry.isComplete course.plan⟩) := by
  cases top : m.thread.stack with
  | nil =>
    left
    simp [Member.next, top]
  | cons activity stack =>
    cases activity with
    | acting who script =>
      left
      cases script <;> simp [Member.next, top, Course.nextOf]
    | notifying round =>
      right
      rw [top] at held
      cases moments : m.since with
      | nil =>
        rw [moments] at held
        cases held
      | cons since earlier =>
        rw [moments] at held
        obtain _ | ⟨first, rest⟩ := held
        refine ⟨round, rounds stack, since, earlier, rfl, rfl, first, rest, ?_⟩
        cases pending : round.pending with
        | nil =>
          right
          simp [Member.next, top, pending, moments]
        | cons call calls =>
          left
          exact ⟨call, calls, rfl, by simp [Member.next, top, pending, moments]⟩

/-- What holds of each round that a member holds, after a step as well as before it, if it holds of
one that begins and is kept by telling somebody and by the steps of other rounds. -/
theorem Member.held_step {course : Course ε} {m : Member ε} {now : Nat} {P Q : Round ε → Nat → Prop}
    (held : List.Forall₂ P (rounds m.thread.stack) m.since) (apart : m.since.Nodup)
    (marked : ∀ calls blocked, m.next course = .marked calls blocked →
      Q ⟨calls.map Call.id, calls, blocked⟩ now)
    (told : ∀ round since call pending, m.next course = .told since call → P round since →
      round.pending = call :: pending → Q { round with pending } since)
    (others : ∀ round since, P round since → (∀ call, m.next course ≠ .told since call) →
      Q round since) :
    List.Forall₂ Q (rounds (Course.step (course, m.thread)).2.stack)
      ((m.next course).sinceAfter now m.since) := by
  rw [rounds_step]
  rcases Member.next_cases course held with
    ⟨quiet, unfinished⟩ | ⟨round, inner, since, earlier, top, moments, first, rest, next⟩
  · have kept : List.Forall₂ Q (rounds m.thread.stack) m.since :=
      held.imp fun round since here => others round since here (quiet since)
    cases next : m.next course with
    | marked calls blocked => exact .cons (marked calls blocked next) kept
    | told since call => exact absurd next (quiet since call)
    | reported since report => exact absurd next (unfinished since report)
    | registered id receiver => exact kept
    | finished id final => exact kept
    | nothing => exact kept
  · rw [moments] at apart
    rw [top, moments]
    rcases next with ⟨call, pending, waits, next⟩ | ⟨-, next⟩
    · have kept : List.Forall₂ Q inner earlier := by
        apply forall₂_of_mem rest
        intro round other member here
        apply others round other here
        rw [next]
        rintro _ ⟨⟩
        exact (List.nodup_cons.1 apart).1 member
      have here := told round since call pending next first waits
      rw [next]
      apply List.Forall₂.cons _ kept
      rwa [show pending = round.pending.tail by rw [waits]; rfl] at here
    · have kept : List.Forall₂ Q inner earlier :=
        rest.imp fun round other here => others round other here (by simp [next])
      rw [next]
      exact kept

/-! ## What every run keeps -/

/-- A round marked at a moment, and whom it has told and whom it is still to tell are the calls of
that marking. -/
structure Underway (history : List (Happening ε)) (round : Round ε) (since : Nat) : Prop where
  marked : history[since]? =
    some (.marked (tellings history since ++ round.pending) round.blocked)
  notified : round.notified = (tellings history since ++ round.pending).map Call.id

theorem Underway.keep {history : List (Happening ε)} {happening : Happening ε} {round : Round ε}
    {since : Nat} (here : Underway history round since)
    (other : ∀ call, happening ≠ .told since call) :
    Underway (history ++ [happening]) round since where
  marked := by
    rw [tellings_concat_of_ne other]
    exact getElem?_concat here.marked happening
  notified := by
    rw [tellings_concat_of_ne other]
    exact here.notified

theorem Underway.tell {history : List (Happening ε)} {round : Round ε} {since : Nat}
    {call : Call (Script ε)} {pending : List (Call (Script ε))}
    (here : Underway history round since) (waits : round.pending = call :: pending) :
    Underway (history ++ [.told since call]) { round with pending } since := by
  have same : tellings (history ++ [.told since call]) since ++ pending =
      tellings history since ++ round.pending := by
    rw [tellings_concat_told, waits, List.append_assoc]
    rfl
  exact ⟨by rw [same]; exact getElem?_concat here.marked _, by rw [same]; exact here.notified⟩

namespace Assembly

/-- The tellings of each round are a beginning of its calls, and all of them when it is over. -/
structure Tallied (a : Assembly ε) : Prop where
  once : ∀ m ∈ a.members, m.since.Nodup
  apart : ∀ (i j : Nat) (m m' : Member ε), a.members[i]? = some m → a.members[j]? = some m' →
    ∀ since ∈ m.since, since ∈ m'.since → i = j
  held : ∀ m ∈ a.members, List.Forall₂ (Underway a.history) (rounds m.thread.stack) m.since
  told : ∀ since, tellings a.history since = [] ∨
    ∃ calls blocked, a.history[since]? = some (.marked calls blocked) ∧
      tellings a.history since <+: calls
  reported : ∀ (time since : Nat) (report : Report),
    a.history[time]? = some (.reported since report) →
    a.history[since]? = some (.marked (tellings (a.history.take time) since) report.blocked) ∧
      report.notified = (tellings (a.history.take time) since).map Call.id

variable {a : Assembly ε} {number : Nat} {m : Member ε}

theorem members_turn {i : Nat} {other : Member ε}
    (there : (a.turn number m).members[i]? = some other) :
    (i = number ∧ other = ⟨(Course.step (a.course, m.thread)).2,
        (m.next a.course).sinceAfter a.history.length m.since⟩) ∨
      (i ≠ number ∧ a.members[i]? = some other) := by
  have placed : (a.members.set number ⟨(Course.step (a.course, m.thread)).2,
      (m.next a.course).sinceAfter a.history.length m.since⟩)[i]? = some other := there
  rw [List.getElem?_set] at placed
  split at placed
  · rename_i same
    split at placed
    · exact .inl ⟨same.symm, (Option.some.inj placed).symm⟩
    · cases placed
  · rename_i different
    exact .inr ⟨fun same => different same.symm, placed⟩

theorem Tallied.past (tallied : a.Tallied) {other : Member ε} (member : other ∈ a.members)
    {since : Nat} (own : since ∈ other.since) : since < a.history.length := by
  have held := tallied.held other member
  generalize rounds other.thread.stack = rounds at held
  generalize other.since = moments at held own
  induction held with
  | nil => cases own
  | cons first _ ih =>
    rcases List.mem_cons.1 own with rfl | own
    · exact (List.getElem?_eq_some_iff.1 first.marked).1
    · exact ih own

theorem Tallied.tellings_length (tallied : a.Tallied) :
    tellings a.history a.history.length = [] := by
  rcases tallied.told a.history.length with none | ⟨calls, blocked, there, -⟩
  · exact none
  · rw [List.getElem?_eq_none (Nat.le_refl _)] at there
    cases there

theorem Tallied.held_turn (tallied : a.Tallied) (found : a.members[number]? = some m) :
    ∀ other ∈ (a.turn number m).members,
      List.Forall₂ (Underway (a.turn number m).history) (rounds other.thread.stack) other.since := by
  intro other member
  obtain ⟨i, there⟩ := List.getElem?_of_mem member
  have mine := tallied.held m (List.mem_of_getElem? found)
  rcases members_turn there with ⟨rfl, rfl⟩ | ⟨different, there⟩
  · apply Member.held_step mine (tallied.once m (List.mem_of_getElem? found))
    · intro calls blocked next
      have unseen : tellings (a.turn i m).history a.history.length = [] := by
        rw [turn_history, tellings_concat_of_ne (by simp [next])]
        exact tallied.tellings_length
      refine ⟨?_, by rw [unseen]; rfl⟩
      rw [unseen, turn_history, next, List.getElem?_append_right (Nat.le_refl _), Nat.sub_self]
      rfl
    · intro round since call pending next here waits
      rw [turn_history, next]
      exact here.tell waits
    · intro round since here quiet
      exact here.keep quiet
  · apply forall₂_of_mem (tallied.held other (List.mem_of_getElem? there))
    intro round since own here
    apply here.keep
    intro call next
    rcases Member.next_cases a.course mine with
      ⟨quiet, -⟩ | ⟨_, _, moment, _, _, moments, _, _, ⟨_, _, _, now⟩ | ⟨_, now⟩⟩
    · exact quiet since call next
    · cases now.symm.trans next
      have shared : since ∈ m.since := by
        rw [moments]
        exact List.mem_cons_self
      exact different (tallied.apart i number other m there found since own shared)
    · cases now.symm.trans next

theorem mem_sinceAfter {happening : Happening ε} {now moment : Nat} {since : List Nat}
    (own : moment ∈ happening.sinceAfter now since) : moment = now ∨ moment ∈ since := by
  cases happening with
  | marked calls blocked => exact List.mem_cons.1 own
  | reported since' report => exact .inr (List.mem_of_mem_tail own)
  | _ => exact .inr own

theorem Tallied.once_turn (tallied : a.Tallied) (found : a.members[number]? = some m) :
    ∀ other ∈ (a.turn number m).members, other.since.Nodup := by
  intro other member
  have mine := tallied.once m (List.mem_of_getElem? found)
  rcases List.mem_or_eq_of_mem_set member with there | rfl
  · exact tallied.once other there
  · cases m.next a.course with
    | marked calls blocked =>
      refine List.nodup_cons.2 ⟨?_, mine⟩
      intro own
      exact Nat.lt_irrefl _ (tallied.past (List.mem_of_getElem? found) own)
    | reported since report => exact mine.sublist (List.tail_sublist _)
    | _ => exact mine

theorem Tallied.apart_turn (tallied : a.Tallied) (found : a.members[number]? = some m) (i j : Nat)
    (left right : Member ε) (atLeft : (a.turn number m).members[i]? = some left)
    (atRight : (a.turn number m).members[j]? = some right) :
    ∀ since ∈ left.since, since ∈ right.since → i = j := by
  -- A moment of the one that took the step is new, or it was its own before.
  have fresh : ∀ {k : Nat} {other : Member ε} {since : Nat}, a.members[k]? = some other →
      since ∈ (m.next a.course).sinceAfter a.history.length m.since → since ∈ other.since →
      number = k := by
    intro k other since there own shared
    rcases mem_sinceAfter own with rfl | own
    · exact absurd (tallied.past (List.mem_of_getElem? there) shared) (Nat.lt_irrefl _)
    · exact tallied.apart number k m other found there since own shared
  intro since inLeft inRight
  rcases members_turn atLeft with ⟨rfl, rfl⟩ | ⟨-, before⟩
  · rcases members_turn atRight with ⟨rfl, rfl⟩ | ⟨-, atRight⟩
    · rfl
    · exact fresh atRight inLeft inRight
  · rcases members_turn atRight with ⟨rfl, rfl⟩ | ⟨-, atRight⟩
    · exact (fresh before inRight inLeft).symm
    · exact tallied.apart i j left right before atRight since inLeft inRight

theorem Tallied.told_turn (tallied : a.Tallied) (found : a.members[number]? = some m) (since : Nat) :
    tellings (a.turn number m).history since = [] ∨
      ∃ calls blocked, (a.turn number m).history[since]? = some (.marked calls blocked) ∧
        tellings (a.turn number m).history since <+: calls := by
  by_cases now : ∃ call, m.next a.course = .told since call
  · right
    obtain ⟨call, now⟩ := now
    have mine := tallied.held m (List.mem_of_getElem? found)
    rcases Member.next_cases a.course mine with
      ⟨quiet, -⟩ | ⟨round, _, moment, _, _, -, here, -, ⟨first, pending, waits, next⟩ | ⟨-, next⟩⟩
    · exact absurd now (quiet since call)
    · cases next.symm.trans now
      refine ⟨_, _, history_turn here.marked, ?_⟩
      rw [turn_history, next, tellings_concat_told, waits]
      exact ⟨pending, by rw [List.append_assoc]; rfl⟩
    · cases next.symm.trans now
  · have quiet : ∀ call, m.next a.course ≠ .told since call := fun call same => now ⟨call, same⟩
    rw [turn_history, tellings_concat_of_ne quiet]
    rcases tallied.told since with none | ⟨calls, blocked, there, begun⟩
    · exact .inl none
    · exact .inr ⟨calls, blocked, getElem?_concat there _, begun⟩

theorem Tallied.reported_turn (tallied : a.Tallied) (found : a.members[number]? = some m)
    (time since : Nat) (report : Report)
    (there : (a.turn number m).history[time]? = some (.reported since report)) :
    (a.turn number m).history[since]? =
        some (.marked (tellings ((a.turn number m).history.take time) since) report.blocked) ∧
      report.notified = (tellings ((a.turn number m).history.take time) since).map Call.id := by
  rw [turn_history] at there ⊢
  rcases getElem?_concat_cases there with ⟨past, there⟩ | ⟨rfl, now⟩
  · obtain ⟨marked, same⟩ := tallied.reported time since report there
    rw [List.take_append_of_le_length (Nat.le_of_lt past)]
    exact ⟨getElem?_concat marked _, same⟩
  · have mine := tallied.held m (List.mem_of_getElem? found)
    rw [List.take_left]
    rcases Member.next_cases a.course mine with
      ⟨-, quiet⟩ | ⟨round, _, moment, _, _, -, here, -, ⟨first, pending, waits, next⟩ | ⟨none, next⟩⟩
    · exact absurd now (quiet since report)
    · cases next.symm.trans now
    · cases next.symm.trans now
      have marked := here.marked
      have notified := here.notified
      rw [none, List.append_nil] at marked notified
      exact ⟨getElem?_concat marked _, notified⟩

theorem members_enter {script : Script ε} {i : Nat} {other : Member ε}
    (there : (a.enter script).members[i]? = some other) :
    a.members[i]? = some other ∨ other = ⟨.ofScript script, []⟩ := by
  rw [enter, List.getElem?_append] at there
  split at there
  · exact .inl there
  · right
    exact List.mem_singleton.1 (List.mem_of_getElem? there)

theorem Tallied.enter (tallied : a.Tallied) (script : Script ε) : (a.enter script).Tallied where
  once := by
    intro other member
    rcases List.mem_append.1 member with there | new
    · exact tallied.once other there
    · rw [List.mem_singleton.1 new]
      exact List.nodup_nil
  apart := by
    intro i j left right atLeft atRight since inLeft inRight
    rcases members_enter atLeft with before | rfl
    · rcases members_enter atRight with also | rfl
      · exact tallied.apart i j left right before also since inLeft inRight
      · cases inRight
    · cases inLeft
  held := by
    intro other member
    rcases List.mem_append.1 member with there | new
    · exact tallied.held other there
    · rw [List.mem_singleton.1 new]
      exact .nil
  told := tallied.told
  reported := tallied.reported

/-- Every run keeps account of whom each round has told. -/
theorem tallied_run (plan : Plan) (choices : List (Choice ε)) :
    ((start plan).run choices).Tallied := by
  apply run_induction (P := Tallied)
  · intro a script tallied
    exact tallied.enter script
  · intro a key tallied
    exact ⟨tallied.once, tallied.apart, tallied.held, tallied.told, tallied.reported⟩
  · intro a number m found tallied
    exact ⟨tallied.once_turn found, tallied.apart_turn found, tallied.held_turn found,
      tallied.told_turn found, tallied.reported_turn found⟩
  · refine ⟨?_, ?_, ?_, fun _ => .inl rfl, ?_⟩
    · intro m member
      cases member
    · intro i j m m' there
      cases there
    · intro m member
      cases member
    · intro time since report there
      cases there

end Assembly

end Telematics.Shutdown
