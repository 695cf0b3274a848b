/-
# Telematics.Proofs.Shutdown.Called -- whom marking calls, and whom it marks

Marking goes over the participants with a name of their own and over one stage at
most.  Among those it goes over (`Marks`), it calls each one that is subscribed,
once and by the receiver that is registered, and nobody else, and it turns their
status into notified and no other (`exists_marks`).

So whoever is called is just who has been subscribed before and is notified
afterwards (`mem_calls_iff`).
-/
import Telematics.Proofs.Shutdown.Marking

namespace Telematics

set_option autoImplicit false

/-- Whether a participant is one of some roles. -/
def Identity.isAmong (stage : List Role) : Identity → Bool
  | .fixed role => role ∈ stage
  | .named _ => false

theorem Status.notify_eq_notified_iff {status : Status} :
    status.notify = .notified ↔ status.isTerminal = false := by
  cases status <;> decide

theorem Status.notify_of_ne {status : Status} (other : status ≠ .subscribed) :
    status.notify = status := if_neg other

namespace Shutdown

variable {ρ : Type}

namespace Registry

/-! ## Entries -/

theorem eq_of_entries {r r' : Registry ρ} (same : r.entries = r'.entries) : r = r' := by
  cases r
  cases r'
  cases same
  rfl

theorem eq_of_mem_of_id {r : Registry ρ} {e e' : Entry ρ} (here : e ∈ r.entries)
    (there : e' ∈ r.entries) (same : e.id = e'.id) : e = e' := by
  have apart := List.pairwise_iff_getElem.1 (List.pairwise_map.1 r.nodup)
  obtain ⟨i, hi, rfl⟩ := List.getElem_of_mem here
  obtain ⟨j, hj, rfl⟩ := List.getElem_of_mem there
  rcases Nat.lt_trichotomy i j with less | rfl | greater
  · exact absurd same (apart i j hi hj less)
  · rfl
  · exact absurd same.symm (apart j i hj hi greater)

theorem find?_eq_some_iff {r : Registry ρ} {id : Identity} {e : Entry ρ} :
    r.find? id = some e ↔ e ∈ r.entries ∧ e.id = id := by
  constructor
  · intro found
    exact ⟨List.mem_of_find?_eq_some found, by simpa [find?] using List.find?_some found⟩
  · rintro ⟨member, rfl⟩
    cases found : r.find? e.id with
    | none =>
      have missing := List.find?_eq_none.1 found e member
      simp at missing
    | some e' =>
      have there := List.mem_of_find?_eq_some found
      have same : e'.id = e.id := by simpa [find?] using List.find?_some found
      rw [eq_of_mem_of_id there member same]

theorem status?_eq_some_iff {r : Registry ρ} {id : Identity} {status : Status} :
    r.status? id = some status ↔ ∃ e ∈ r.entries, e.id = id ∧ e.status = status := by
  rw [status?, Option.map_eq_some_iff]
  simp only [find?_eq_some_iff, and_assoc]

theorem status?_mapStatus (r : Registry ρ) (change : Identity → Status → Status)
    {f : Entry ρ → Status} (same : ∀ e, f e = change e.id e.status) (id : Identity) :
    (r.mapStatus f).status? id = (r.status? id).map (change id) := by
  rw [status?, find?_mapStatus, status?]
  cases found : r.find? id with
  | none => rfl
  | some e =>
    obtain ⟨-, rfl⟩ := find?_eq_some_iff.1 found
    simp [same]

theorem mapStatus_self (r : Registry ρ) : r.mapStatus Entry.status = r :=
  eq_of_entries (List.map_id _)

theorem mapStatus_mapStatus (r : Registry ρ) (f g : Entry ρ → Status) :
    (r.mapStatus f).mapStatus g = r.mapStatus fun e => g { e with status := f e } :=
  eq_of_entries List.map_map

/-! ## Going over some participants -/

/-- What going over some participants leads to: those of them that are subscribed are called, and
they are notified. -/
structure Marks (r : Registry ρ) (whom : Identity → Bool) (marked : Registry ρ)
    (calls : List (Call ρ)) : Prop where
  status : ∀ id, marked.status? id =
    (r.status? id).map fun status => if whom id then status.notify else status
  called : ∀ call, call ∈ calls ↔ whom call.id = true ∧
    ∃ e ∈ r.entries, e.status = .subscribed ∧ call = callOf e
  once : (calls.map Call.id).Nodup

theorem marks_named (r : Registry ρ) : r.Marks Identity.isNamed r.markNamed r.namedCalls where
  status id := r.status?_mapStatus
    (fun id status => if id.isNamed then status.notify else status) (fun _ => rfl) id
  called := by
    intro call
    simp only [namedCalls, List.mem_map, List.mem_filter, Bool.and_eq_true, decide_eq_true_eq]
    constructor
    · rintro ⟨e, ⟨member, named, waits⟩, rfl⟩
      exact ⟨named, e, member, waits, rfl⟩
    · rintro ⟨named, e, member, waits, rfl⟩
      exact ⟨e, ⟨member, named, waits⟩, rfl⟩
  once := by
    have sublist : (r.namedCalls.map Call.id).Sublist (r.entries.map Entry.id) := by
      rw [namedCalls, List.map_map]
      exact List.filter_sublist.map Entry.id
    exact r.nodup.sublist sublist

theorem mem_stageCalls {r : Registry ρ} {stage : List Role} {call : Call ρ} :
    call ∈ r.stageCalls stage ↔ call.id.isAmong stage = true ∧
      ∃ e ∈ r.entries, e.status = .subscribed ∧ call = callOf e := by
  simp only [stageCalls, List.mem_map, List.mem_filter, List.mem_filterMap, decide_eq_true_eq,
    find?_eq_some_iff]
  constructor
  · rintro ⟨e, ⟨⟨role, inside, member, own⟩, waits⟩, rfl⟩
    refine ⟨?_, e, member, waits, rfl⟩
    simp [callOf, own, Identity.isAmong, inside]
  · rintro ⟨among, e, member, waits, rfl⟩
    cases own : e.id with
    | named name => simp [callOf, own, Identity.isAmong] at among
    | fixed role =>
      have inside : role ∈ stage := by simpa [callOf, own, Identity.isAmong] using among
      exact ⟨e, ⟨⟨role, inside, member, own⟩, waits⟩, rfl⟩

theorem nodup_stageCalls (r : Registry ρ) {stage : List Role} (once : stage.Nodup) :
    ((r.stageCalls stage).map Call.id).Nodup := by
  have sublist : ((r.stageCalls stage).map Call.id).Sublist (stage.map Identity.fixed) := by
    unfold stageCalls
    induction stage with
    | nil => exact List.Sublist.refl []
    | cons role stage ih =>
      have rest := ih (List.nodup_cons.1 once).2
      cases found : r.find? (.fixed role) with
      | none =>
        rw [List.filterMap_cons, found]
        exact rest.cons _
      | some e =>
        have own := (find?_eq_some_iff.1 found).2
        rw [List.filterMap_cons, found, List.filter_cons]
        split
        · rw [List.map_cons, List.map_cons, List.map_cons, callOf, own]
          exact rest.cons_cons _
        · exact rest.cons _
  have apart : (stage.map Identity.fixed).Nodup :=
    List.pairwise_map.2 (once.imp fun different same => different (Identity.fixed.inj same))
  exact apart.sublist sublist

theorem marks_stage (r : Registry ρ) {stage : List Role} (once : stage.Nodup) :
    r.Marks (Identity.isAmong stage) (r.markStage stage) (r.stageCalls stage) where
  status id := by
    apply r.status?_mapStatus
      fun id status => if id.isAmong stage then status.notify else status
    intro e
    cases own : e.id with
    | named name => rfl
    | fixed role => simp [Identity.isAmong]
  called _ := mem_stageCalls
  once := r.nodup_stageCalls once

/-- To go over some participants and then over others is to go over all of them, if nobody is among
both. -/
theorem Marks.trans {r between marked : Registry ρ} {whom others : Identity → Bool}
    {calls more : List (Call ρ)} (first : r.Marks whom between calls)
    (then_ : between.Marks others marked more)
    (receivers : ∀ e, e ∈ between.entries ↔ ∃ e' ∈ r.entries,
      e = { e' with status := if whom e'.id then e'.status.notify else e'.status })
    (apart : ∀ id, whom id = true → others id = false) :
    r.Marks (fun id => whom id || others id) marked (calls ++ more) where
  status id := by
    rw [then_.status, first.status, Option.map_map]
    congr 1
    funext status
    cases mine : whom id with
    | false => simp
    | true => simp [apart id mine]
  called call := by
    rw [List.mem_append, first.called, then_.called, Bool.or_eq_true]
    constructor
    · rintro (⟨mine, e, member, waits, rfl⟩ | ⟨theirs, e, member, waits, rfl⟩)
      · exact ⟨.inl mine, e, member, waits, rfl⟩
      · obtain ⟨e', before, rfl⟩ := (receivers e).1 member
        have other : whom e'.id = false := by
          cases mine : whom e'.id with
          | false => rfl
          | true => exact absurd ((apart e'.id mine).symm.trans theirs) (by decide)
        exact ⟨.inr theirs, e', before, by simpa [other] using waits, rfl⟩
    · rintro ⟨mine | theirs, e, member, waits, rfl⟩
      · exact .inl ⟨mine, e, member, waits, rfl⟩
      · cases mine : whom e.id with
        | true => exact .inl ⟨mine, e, member, waits, rfl⟩
        | false =>
          have there := (receivers _).2 ⟨e, member, rfl⟩
          exact .inr ⟨theirs, _, there, by simpa [mine] using waits, rfl⟩
  once := by
    rw [List.map_append, List.nodup_append]
    refine ⟨first.once, then_.once, ?_⟩
    rintro id mine _ theirs rfl
    obtain ⟨call, called, rfl⟩ := List.mem_map.1 mine
    obtain ⟨other, also, same⟩ := List.mem_map.1 theirs
    have none := apart call.id ((first.called call).1 called).1
    have some := ((then_.called other).1 also).1
    rw [same, none] at some
    cases some

theorem markStage_nil (r : Registry ρ) : r.markStage [] = r := by
  have same : r.markStage [] = r.mapStatus Entry.status := by
    unfold markStage
    congr 1
    funext e
    cases e.id <;> simp
  exact same.trans r.mapStatus_self

theorem isDrained_markNamed (r : Registry ρ) (stage : List Role) :
    r.markNamed.isDrained stage = r.isDrained stage := by
  unfold isDrained
  congr 1
  funext role
  have same := r.marks_named.status (.fixed role)
  rw [same]
  cases r.status? (.fixed role) <;> rfl

/-- Marking goes over those with a name of their own and over the first stage that is not drained,
or over nobody else if there is none. -/
theorem exists_marks (r : Registry ρ) (plan : Plan) :
    ∃ stage, r.Marks (fun id => id.isNamed || id.isAmong stage) (r.mark plan).registry
        (r.mark plan).calls ∧
      ((∀ stage ∈ plan.stages, r.isDrained stage = true) ∨
        stage ∈ plan.stages ∧ r.isDrained stage = false) := by
  have each : ∀ stage : List Role, stage.Nodup →
      r.Marks (fun id => id.isNamed || id.isAmong stage) (r.markNamed.markStage stage)
        (r.namedCalls ++ r.markNamed.stageCalls stage) := by
    intro stage once
    apply r.marks_named.trans (r.markNamed.marks_stage once)
    · intro e
      simp only [markNamed, mapStatus, List.mem_map, eq_comm]
    · rintro (role | name) named
      · cases named
      · rfl
  rcases r.markNamed.markStages_cases 0 plan.stages with
    ⟨marking, drained⟩ | ⟨before, stage, after, split, -, held, marking⟩
  · simp only [isDrained_markNamed] at drained
    refine ⟨[], ?_, .inl drained⟩
    have whole := each [] List.nodup_nil
    rw [markStage_nil] at whole
    show r.Marks _ (r.markNamed.markStages 0 plan.stages).registry
      (r.namedCalls ++ (r.markNamed.markStages 0 plan.stages).calls)
    rw [marking]
    exact whole
  · have member : stage ∈ plan.stages := by simp [split]
    refine ⟨stage, ?_, .inr ⟨member, by rwa [isDrained_markNamed] at held⟩⟩
    have once : stage.Nodup := (List.pairwise_flatten.1 plan.nodup).1 stage member
    show r.Marks _ (r.markNamed.markStages 0 plan.stages).registry
      (r.namedCalls ++ (r.markNamed.markStages 0 plan.stages).calls)
    rw [marking]
    exact each stage once

/-! ## What marking comes to -/

/-- Nobody is called twice. -/
theorem nodup_calls (r : Registry ρ) (plan : Plan) :
    ((r.mark plan).calls.map Call.id).Nodup := by
  obtain ⟨_, marks, -⟩ := r.exists_marks plan
  exact marks.once

/-- A call goes to an entry that was subscribed, by its receiver. -/
theorem find?_of_mem_calls {r : Registry ρ} {plan : Plan} {call : Call ρ}
    (called : call ∈ (r.mark plan).calls) :
    r.find? call.id = some ⟨call.id, call.receiver, .subscribed⟩ := by
  obtain ⟨_, marks, -⟩ := r.exists_marks plan
  obtain ⟨-, ⟨id, receiver, status⟩, member, rfl, rfl⟩ := (marks.called call).1 called
  exact find?_eq_some_iff.2 ⟨member, rfl⟩

/-- **Just those are called** whom marking turns from subscribed into notified. -/
theorem mem_calls_iff {r : Registry ρ} {plan : Plan} {id : Identity} :
    id ∈ (r.mark plan).calls.map Call.id ↔
      r.status? id = some .subscribed ∧ (r.mark plan).registry.status? id = some .notified := by
  obtain ⟨stage, marks, -⟩ := r.exists_marks plan
  constructor
  · intro inside
    obtain ⟨call, called, rfl⟩ := List.mem_map.1 inside
    obtain ⟨among, -⟩ := (marks.called call).1 called
    have waits : r.status? call.id = some .subscribed := by
      rw [status?, find?_of_mem_calls called]
      rfl
    refine ⟨waits, ?_⟩
    rw [marks.status, waits, Option.map_some, if_pos among]
    rfl
  · rintro ⟨waits, told⟩
    rw [marks.status, waits, Option.map_some] at told
    split at told
    · rename_i among
      obtain ⟨e, member, rfl, own⟩ := status?_eq_some_iff.1 waits
      have called := (marks.called (callOf e)).2 ⟨among, e, member, own, rfl⟩
      exact List.mem_map.2 ⟨_, called, rfl⟩
    · cases told

/-- Whoever is not subscribed is left alone by marking. -/
theorem status?_mark_of_ne {r : Registry ρ} {id : Identity}
    (other : r.status? id ≠ some .subscribed) (plan : Plan) :
    (r.mark plan).registry.status? id = r.status? id := by
  obtain ⟨stage, marks, -⟩ := r.exists_marks plan
  rw [marks.status]
  cases found : r.status? id with
  | none => rfl
  | some status =>
    have different : status ≠ .subscribed := by
      rintro rfl
      exact other found
    rw [Option.map_some, Status.notify_of_ne different, ite_self]

end Registry

end Shutdown

end Telematics
