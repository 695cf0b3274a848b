/-
# Telematics.Shutdown.Work -- how much is left to be done

A registered script that has not been told yet is work to be done.  Marking turns
such work into calls and makes none (`work_mark_le`), ending a participant's part
makes none (`work_finish_le`), and registering makes no more than the script that
is registered (`work_register_le`).
-/
import Telematics.Shutdown.Marking
import Telematics.Shutdown.Script
import Telematics.Total

namespace Telematics.Shutdown

set_option autoImplicit false

variable {ε : Type}

/-- The steps that telling a receiver and following its script takes. -/
def Call.work (c : Call (Script ε)) : Nat := c.receiver.size + 1

def callsWork (calls : List (Call (Script ε))) : Nat := total Call.work calls

/-- The steps that an entry may still cause. -/
def Entry.work (e : Entry (Script ε)) : Nat :=
  if e.status = .subscribed then e.receiver.size + 1 else 0

def entriesWork (es : List (Entry (Script ε))) : Nat := total Entry.work es

/-- The steps that a registry may still cause. -/
def Registry.work (r : Registry (Script ε)) : Nat := entriesWork r.entries

@[simp] theorem callsWork_nil : callsWork ([] : List (Call (Script ε))) = 0 := rfl

@[simp] theorem callsWork_cons (c : Call (Script ε)) (cs : List (Call (Script ε))) :
    callsWork (c :: cs) = c.work + callsWork cs := rfl

theorem callsWork_append (xs ys : List (Call (Script ε))) :
    callsWork (xs ++ ys) = callsWork xs + callsWork ys := by
  simp [callsWork]

@[simp] theorem entriesWork_nil : entriesWork ([] : List (Entry (Script ε))) = 0 := rfl

@[simp] theorem entriesWork_cons (e : Entry (Script ε)) (es : List (Entry (Script ε))) :
    entriesWork (e :: es) = e.work + entriesWork es := rfl

theorem entriesWork_append (xs ys : List (Entry (Script ε))) :
    entriesWork (xs ++ ys) = entriesWork xs + entriesWork ys := by
  simp [entriesWork]

namespace Registry

/-- Statuses that do not turn into subscribed make no work. -/
theorem work_mapStatus_le (r : Registry (Script ε)) (f : Entry (Script ε) → Status)
    (h : ∀ e, f e = .subscribed → e.status = .subscribed) : (r.mapStatus f).work ≤ r.work := by
  unfold work mapStatus
  simp only
  generalize r.entries = es
  induction es with
  | nil => simp
  | cons e es ih =>
    have he : Entry.work { e with status := f e } ≤ e.work := by
      unfold Entry.work
      by_cases hs : f e = .subscribed
      · simp [hs, h e hs]
      · simp [hs]
    simpa using Nat.add_le_add he ih

theorem work_finish_le (r : Registry (Script ε)) (id : Identity) {final : Status}
    (h : final ≠ .subscribed) : (r.finish id final).1.work ≤ r.work := by
  unfold finish
  split
  · apply work_mapStatus_le
    intro e he
    split at he
    · unfold Status.advance at he
      split at he
      · exact he
      · exact absurd he h
    · exact he
  · exact Nat.le_refl _

theorem work_put_le (r : Registry (Script ε)) (new : Entry (Script ε)) :
    (r.put new).work ≤ r.work + new.work := by
  unfold work put
  by_cases hm : new.id ∈ r.entries.map Entry.id
  · simp only [hm, if_true]
    have hnd := r.nodup
    revert hnd
    generalize r.entries = es
    intro hnd
    induction es with
    | nil => simp
    | cons e es ih =>
      simp only [List.map_cons, List.nodup_cons] at hnd
      by_cases he : e.id = new.id
      · have hrest : es.map (fun e => if e.id = new.id then new else e) = es := by
          rw [List.map_congr_left (g := id)]
          · simp
          · intro x hx
            have : x.id ≠ new.id := by
              intro hx'
              exact hnd.1 (List.mem_map.2 ⟨x, hx, by rw [hx', he]⟩)
            simp [this]
        simp only [List.map_cons, he, if_true, hrest, entriesWork_cons]
        omega
      · have := ih hnd.2
        simp only [List.map_cons, he, if_false, entriesWork_cons]
        omega
  · simp only [hm, if_false]
    rw [entriesWork_append]
    simp

theorem work_register_le (r : Registry (Script ε)) (id : Identity) (receiver : Script ε) :
    (r.register id (some receiver)).1.work ≤ r.work + (receiver.size + 1) := by
  have h := r.work_put_le ⟨id, receiver, .subscribed⟩
  simpa [register, Entry.work] using h

theorem notify_ne_subscribed (s : Status) : s.notify ≠ .subscribed := by
  cases s <;> decide

theorem work_markNamed (r : Registry (Script ε)) :
    r.markNamed.work + callsWork r.namedCalls = r.work := by
  unfold work markNamed mapStatus namedCalls
  simp only
  generalize r.entries = es
  induction es with
  | nil => simp
  | cons e es ih =>
    cases hn : e.id.isNamed with
    | false => simp [hn, Entry.work] at ih ⊢; omega
    | true =>
      by_cases hs : e.status = .subscribed
      · simp [hn, hs, Entry.work, Status.notify, Call.work, callOf] at ih ⊢; omega
      · simp [hn, hs, Entry.work, Status.notify] at ih ⊢; omega

/-- The steps of the calls to the members of a stage that are found among some entries. -/
def foundWork (es : List (Entry (Script ε))) (stage : List Role) : Nat :=
  total (fun role => ((es.find? (·.id = .fixed role)).map Entry.work).getD 0) stage

theorem callsWork_stageCalls (r : Registry (Script ε)) (stage : List Role) :
    callsWork (r.stageCalls stage) = foundWork r.entries stage := by
  unfold stageCalls foundWork find?
  induction stage with
  | nil => rfl
  | cons role stage ih =>
    cases hf : r.entries.find? (·.id = .fixed role) with
    | none => simpa [List.filterMap_cons, hf] using ih
    | some e =>
      by_cases hs : e.status = .subscribed
      · simp only [List.filterMap_cons, hf, hs, decide_true, List.filter_cons_of_pos,
          List.map_cons, callsWork_cons, total_cons, Option.map_some, Option.getD_some]
        rw [ih]
        simp [Call.work, callOf, Entry.work, hs]
      · simp only [List.filterMap_cons, hf, total_cons, Option.map_some,
          Option.getD_some]
        rw [List.filter_cons_of_neg (by simp [hs]), ih]
        simp [Entry.work, hs]

/-- Whether a stage has the role of an entry as its member. -/
def isMember (stage : List Role) (e : Entry (Script ε)) : Bool :=
  match e.id with
  | .fixed role => role ∈ stage
  | .named _ => false

theorem found_cons_le (e : Entry (Script ε)) (es : List (Entry (Script ε))) (stage : List Role)
    (hnd : stage.Nodup) :
    foundWork (e :: es) stage ≤ (if isMember stage e then e.work else 0) + foundWork es stage := by
  induction stage with
  | nil => simp [foundWork]
  | cons role stage ih =>
    rw [List.nodup_cons] at hnd
    have hrest := ih hnd.2
    unfold foundWork at hrest ⊢
    simp only [total_cons]
    by_cases he : e.id = .fixed role
    · have hm : isMember (role :: stage) e = true := by simp [isMember, he]
      have hm' : isMember stage e = false := by simp [isMember, he, hnd.1]
      rw [hm'] at hrest
      simp only [hm, if_true, List.find?_cons, he, decide_true, Option.map_some, Option.getD_some]
        at hrest ⊢
      simp only [Bool.false_eq_true, if_false] at hrest
      omega
    · have hm : isMember (role :: stage) e = isMember stage e := by
        unfold isMember
        split
        · rename_i other heq
          have : other ≠ role := by
            intro h
            exact he (by rw [heq, h])
          simp [this]
        · rfl
      rw [hm]
      simp only [List.find?_cons, he, decide_false] at hrest ⊢
      omega

theorem found_le (es : List (Entry (Script ε))) (stage : List Role) (hnd : stage.Nodup) :
    foundWork es stage ≤ entriesWork (es.filter (isMember stage)) := by
  induction es with
  | nil =>
    have : foundWork ([] : List (Entry (Script ε))) stage = 0 := by simp [foundWork]
    simp [this]
  | cons e es ih =>
    have h := found_cons_le e es stage hnd
    cases hm : isMember stage e with
    | true => simp [hm] at h ⊢; omega
    | false => simp [hm] at h ⊢; omega

theorem work_markStage_le (r : Registry (Script ε)) (stage : List Role) (hnd : stage.Nodup) :
    (r.markStage stage).work + callsWork (r.stageCalls stage) ≤ r.work := by
  have hfound := found_le r.entries stage hnd
  rw [callsWork_stageCalls]
  have hmark : (r.markStage stage).work + entriesWork (r.entries.filter (isMember stage)) ≤
      r.work := by
    unfold work markStage mapStatus
    simp only
    generalize r.entries = es
    induction es with
    | nil => simp
    | cons e es ih =>
      simp only [List.map_cons, entriesWork_cons, List.filter_cons]
      have hne := notify_ne_subscribed e.status
      cases hid : e.id with
      | named name =>
        simp only [isMember, hid] at ih ⊢
        simp only [Entry.work, Bool.false_eq_true, if_false] at ih ⊢
        omega
      | fixed role =>
        by_cases hm : role ∈ stage
        · simp only [isMember, hid, hm, if_true, decide_true, entriesWork_cons] at ih ⊢
          simp only [Entry.work, hne, if_false] at ih ⊢
          omega
        · simp only [isMember, hid, hm, if_false, decide_false] at ih ⊢
          simp only [Entry.work, Bool.false_eq_true, if_false] at ih ⊢
          omega
  omega

theorem work_markStages_le (r : Registry (Script ε)) (index : Nat) (stages : List (List Role))
    (hnd : stages.flatten.Nodup) :
    (r.markStages index stages).registry.work + callsWork (r.markStages index stages).calls ≤
      r.work := by
  induction stages generalizing index with
  | nil => simp [markStages]
  | cons stage rest ih =>
    rw [List.flatten_cons, List.nodup_append] at hnd
    unfold markStages
    split
    · exact ih _ hnd.2.1
    · exact r.work_markStage_le stage hnd.1

/-- Marking turns work into calls and makes none. -/
theorem work_mark_le (r : Registry (Script ε)) (plan : Plan) :
    (r.mark plan).registry.work + callsWork (r.mark plan).calls ≤ r.work := by
  have hn := r.work_markNamed
  have hs := r.markNamed.work_markStages_le 0 plan.stages plan.nodup
  simp only [mark, callsWork_append]
  omega

end Registry

end Telematics.Shutdown
