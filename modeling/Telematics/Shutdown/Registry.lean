/-
# Telematics.Shutdown.Registry -- who takes part, and how far they are

The registry has one entry for each participant that has ever registered: the
receiver that is told of the shutdown, and the status.  An entry is never
removed.  Registering again replaces the receiver and begins anew, and ending, by
completion or by withdrawal, is final until then.

Entries stand in the order of first registration.  In this order a round tells
those with a name of their own, and its report lists them; `snapshot` is sorted and
does not depend on it.  An operation on one participant leaves every other as it is
(`status?_register_of_ne`, `status?_finish_of_ne`).
-/
import Telematics.Shutdown.Error
import Telematics.Status

namespace Telematics.Shutdown

set_option autoImplicit false

/-- What the registry knows about a participant. -/
structure Entry (ρ : Type) where
  id : Identity
  /-- What is told of the shutdown. -/
  receiver : ρ
  status : Status

/-- The participants, each once. -/
structure Registry (ρ : Type) where
  entries : List (Entry ρ)
  nodup : (entries.map Entry.id).Nodup

/-- Something that the caller of an operation should know. -/
inductive Notice where
  | refused (error : RegistryError)
  /-- A receiver took the place of another, whose status is given. -/
  | replaced (id : Identity) (status : Status)
  /-- The role is in no stage, so its receiver will not be told. -/
  | unplanned (role : Role)
  deriving Repr, DecidableEq

def Notice.message : Notice → String
  | .refused error => "[Registry] " ++ error.message
  | .replaced id status =>
    "[Registry] " ++ id.text ++ " already registered (" ++ status.text ++ "), replacing"
  | .unplanned role =>
    "[Coordinator] " ++ role.name ++ " is not part of the stage plan and will never be notified"

namespace Registry

variable {ρ : Type}

def empty : Registry ρ := ⟨[], List.nodup_nil⟩

def size (r : Registry ρ) : Nat := r.entries.length

def find? (r : Registry ρ) (id : Identity) : Option (Entry ρ) :=
  r.entries.find? (·.id = id)

def status? (r : Registry ρ) (id : Identity) : Option Status :=
  (r.find? id).map Entry.status

/-- The registry with other statuses, the new one depending on the entry. -/
def mapStatus (r : Registry ρ) (f : Entry ρ → Status) : Registry ρ where
  entries := r.entries.map fun e => { e with status := f e }
  nodup := by simpa [Function.comp_def] using r.nodup

/-- The registry with an entry in the place of the one with its identity, or behind all others. -/
def put (r : Registry ρ) (new : Entry ρ) : Registry ρ where
  entries :=
    if new.id ∈ r.entries.map Entry.id then
      r.entries.map fun e => if e.id = new.id then new else e
    else r.entries ++ [new]
  nodup := by
    split
    · have h : (r.entries.map fun e => if e.id = new.id then new else e).map Entry.id =
          r.entries.map Entry.id := by
        rw [List.map_map]
        apply List.map_congr_left
        intro e _
        by_cases he : e.id = new.id <;> simp [he]
      rw [h]
      exact r.nodup
    · rename_i h
      rw [List.map_append, List.map_singleton, List.nodup_append]
      refine ⟨r.nodup, by simp, ?_⟩
      intro a ha b hb hab
      rw [List.mem_singleton] at hb
      exact h (hb ▸ hab ▸ ha)

/-- Registers a receiver, and says whether that was done. -/
def register (r : Registry ρ) (id : Identity) : Option ρ → Registry ρ × Bool × List Notice
  | none => (r, false, [.refused (.missingReceiver id)])
  | some receiver =>
    (r.put ⟨id, receiver, .subscribed⟩, true,
      ((r.status? id).map (Notice.replaced id)).toList)

/-- Ends a participant's part in the way that `final` says, and says whether it has one. -/
def finish (r : Registry ρ) (id : Identity) (final : Status) : Registry ρ × Bool × List Notice :=
  if (r.find? id).isSome then
    (r.mapStatus fun e => if e.id = id then e.status.advance final else e.status, true, [])
  else (r, false, [.refused (.notRegistered id)])

/-- A participant has finished. -/
def markReady (r : Registry ρ) (id : Identity) : Registry ρ × Bool × List Notice :=
  r.finish id .shutdownCompleted

/-- A participant takes no part any more. -/
def withdraw (r : Registry ρ) (id : Identity) : Registry ρ × Bool × List Notice :=
  r.finish id .unsubscribed

/-- The participants with their statuses, in the order of the participants. -/
def snapshot (r : Registry ρ) : List (Identity × Status) :=
  (r.entries.map fun e => (e.id, e.status)).mergeSort fun a b => a.1.le b.1

/-! ## What the operations do to the statuses -/

theorem find?_mapStatus (r : Registry ρ) (f : Entry ρ → Status) (id : Identity) :
    (r.mapStatus f).find? id = (r.find? id).map fun e => { e with status := f e } := by
  simp only [find?, mapStatus, List.find?_map]
  rfl

theorem find?_put_self (r : Registry ρ) (new : Entry ρ) :
    (r.put new).find? new.id = some new := by
  unfold find? put
  by_cases h : new.id ∈ r.entries.map Entry.id
  · simp only [h, if_true]
    obtain ⟨e, he, hid⟩ := List.mem_map.1 h
    rw [List.find?_map]
    have hfun : ((fun x : Entry ρ => decide (x.id = new.id)) ∘
        fun e => if e.id = new.id then new else e) = fun e => decide (e.id = new.id) := by
      funext e
      by_cases he : e.id = new.id <;> simp [he]
    rw [hfun]
    cases hf : r.entries.find? fun e => decide (e.id = new.id) with
    | none => exact absurd hid (by simpa using List.find?_eq_none.1 hf e he)
    | some e' =>
      have := List.find?_some hf
      simp_all
  · simp only [h, if_false]
    rw [List.find?_append]
    have hn : r.entries.find? (fun e => decide (e.id = new.id)) = none := by
      rw [List.find?_eq_none]
      intro e he hid
      exact h (List.mem_map.2 ⟨e, he, by simpa using hid⟩)
    simp [hn]

theorem find?_put_of_ne (r : Registry ρ) {new : Entry ρ} {id : Identity} (h : id ≠ new.id) :
    (r.put new).find? id = r.find? id := by
  unfold find? put
  by_cases hm : new.id ∈ r.entries.map Entry.id
  · simp only [hm, if_true]
    generalize r.entries = es
    induction es with
    | nil => rfl
    | cons e es ih =>
      by_cases he : e.id = new.id
      · simp [he, Ne.symm h, ih]
      · simp [List.find?_cons, he, ih]
  · simp only [hm, if_false]
    rw [List.find?_append]
    simp [Ne.symm h]

/-- Who registers is subscribed. -/
theorem status?_register_self (r : Registry ρ) (id : Identity) (receiver : ρ) :
    (r.register id (some receiver)).1.status? id = some .subscribed := by
  simp only [register, status?]
  rw [find?_put_self r ⟨id, receiver, .subscribed⟩]
  rfl

/-- Registering one participant leaves every other as it is. -/
theorem status?_register_of_ne (r : Registry ρ) {id other : Identity} (receiver : Option ρ)
    (h : other ≠ id) : (r.register id receiver).1.status? other = r.status? other := by
  cases receiver with
  | none => rfl
  | some receiver =>
    simp only [register, status?]
    rw [find?_put_of_ne]
    exact h

/-- Ending leads from a status to the end, unless an end had been reached. -/
theorem status?_finish_self (r : Registry ρ) (id : Identity) (final : Status) :
    (r.finish id final).1.status? id = (r.status? id).map (·.advance final) := by
  unfold finish
  split
  · rw [status?, find?_mapStatus, status?]
    cases h : r.find? id with
    | none => rfl
    | some e =>
      have hid : e.id = id := by simpa [find?] using List.find?_some h
      simp [hid]
  · rename_i h
    simp_all [status?]

/-- Ending one participant's part leaves every other as it is. -/
theorem status?_finish_of_ne (r : Registry ρ) {id other : Identity} (final : Status)
    (h : other ≠ id) : (r.finish id final).1.status? other = r.status? other := by
  unfold finish
  split
  · rw [status?, find?_mapStatus, status?]
    cases he : r.find? other with
    | none => rfl
    | some e =>
      have hid : e.id = other := by simpa [find?] using List.find?_some he
      simp [hid, h]
  · rfl

end Registry

end Telematics.Shutdown
