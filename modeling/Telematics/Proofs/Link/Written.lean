/-
# Telematics.Proofs.Link.Written -- what an attempt to write leaves behind

A transfer either moves all it was to move or fails somewhere before, and what
each attempt keeps, depending on how many bytes have been moved, holds where it
stops (`Transfer.run_stops`).

So the bytes that a side writes stand behind those written before, all of them
if the writing succeeds and some first ones, never all, if it fails
(`Fabric.written`).  This holds of every pipe, whatever stands behind it and
however its bytes are packed, and nothing else is touched (`Fabric.appends_write`).
-/
import Telematics.Proofs.Link.Pipe

namespace Telematics.Link

set_option autoImplicit false

/-- The number of bytes that an attempt has moved. -/
def Attempt.count : Attempt → Nat
  | .moved count => count
  | _ => 0

namespace Transfer

variable {σ : Type} {t : Transfer σ} {At : Nat → σ → Prop}

/-- An attempt moves no more than is left, and afterwards what is to hold after so many bytes
does. -/
def Keeps (t : Transfer σ) (At : Nat → σ → Prop) : Prop :=
  ∀ done s, done < t.expected → At done s →
    done + (t.attempt (t.expected - done) s).1.count ≤ t.expected ∧
      At (done + (t.attempt (t.expected - done) s).1.count) (t.attempt (t.expected - done) s).2

/-- A transfer moves everything, or fails before that. -/
inductive Stops (expected : Nat) (At : Nat → σ → Prop) : Except LinkError Nat × σ → Prop where
  | whole {s : σ} (holds : At expected s) : Stops expected At (.ok expected, s)
  | part {e : LinkError} {moved : Nat} {s : σ} (short : moved < expected) (holds : At moved s) :
      Stops expected At (.error e, s)

theorem continueFrom_stops (keeps : t.Keeps At) {done : Nat} {s : σ} (within : done ≤ t.expected)
    (here : At done s) : Stops t.expected At (t.continueFrom done s) := by
  fun_induction t.continueFrom done s with
  | case1 done s short s' attempt =>
    have next := (keeps done s short here).2
    rw [attempt] at next
    exact .part short next
  | case2 done s short s' n attempt ih =>
    have next := keeps done s short here
    rw [attempt] at next
    exact ih next.1 next.2
  | case3 done s short s' attempt =>
    have next := (keeps done s short here).2
    rw [attempt] at next
    exact .part short next
  | case4 done s short e s' attempt =>
    have next := (keeps done s short here).2
    rw [attempt] at next
    exact .part short next
  | case5 done s all =>
    have same : done = t.expected := by omega
    subst same
    exact .whole here

theorem run_stops (keeps : t.Keeps At) (ready : Bool) {s : σ} (here : At 0 s) :
    Stops t.expected At (t.run ready s) := by
  unfold run
  split
  · rename_i none
    rw [none]
    exact .whole here
  · split
    · exact continueFrom_stops keeps (Nat.zero_le _) here
    · exact .part (by omega) here

end Transfer

namespace Pipe

/-- One attempt to write puts some first bytes behind the queue, or none. -/
theorem writeSome_spec (n : Nat) (p : Pipe) (rest : List UInt8) :
    ∃ count, count ≤ n ∧ (writeSome n (p, rest)).1.count = count ∧
      (writeSome n (p, rest)).2.1.queue = p.queue ++ rest.take count ∧
      (writeSome n (p, rest)).2.2 = rest.drop count := by
  have none : p.queue = p.queue ++ rest.take 0 := by rw [List.take_zero, List.append_nil]
  unfold writeSome
  dsimp only
  split
  · exact ⟨0, Nat.zero_le _, rfl, none, rfl⟩
  · split
    · exact ⟨0, Nat.zero_le _, rfl, none, rfl⟩
    · exact ⟨_, Packet.size_packetsOf_le _ _, rfl, rfl, rfl⟩

/-- So many of some bytes stand behind what was queued in a pipe, and the others are left. -/
def Behind (p : Pipe) (bytes : List UInt8) (count : Nat) (s : Pipe × List UInt8) : Prop :=
  s.1.queue = p.queue ++ bytes.take count ∧ s.2 = bytes.drop count

theorem keeps_behind (p : Pipe) (bytes : List UInt8) (timeout : Span) :
    (Transfer.mk .write timeout bytes.length writeSome).Keeps (p.Behind bytes) := by
  rintro done ⟨q, rest⟩ short ⟨queue, left⟩
  obtain ⟨count, few, moved, behind, others⟩ := writeSome_spec (bytes.length - done) q rest
  dsimp only at short queue left ⊢
  rw [moved]
  refine ⟨by omega, ?_, ?_⟩
  · rw [behind, queue, left, List.take_add, List.append_assoc]
  · rw [others, left, List.drop_drop]

/-- Writing into a pipe puts all the bytes behind the queue, or fails and puts some first ones
there. -/
inductive Written (p : Pipe) (bytes : List UInt8) : Except LinkError Nat × Pipe → Prop where
  | whole {after : Pipe} (queue : after.queue = p.queue ++ bytes) :
      Written p bytes (.ok bytes.length, after)
  | part {e : LinkError} {count : Nat} {after : Pipe} (short : count < bytes.length)
      (queue : after.queue = p.queue ++ bytes.take count) : Written p bytes (.error e, after)

theorem written (p : Pipe) (bytes : List UInt8) (hungUp : Bool) (timeout : Span) :
    p.Written bytes (p.write bytes hungUp timeout) := by
  let t : Transfer (Pipe × List UInt8) := ⟨.write, timeout, bytes.length, writeSome⟩
  have begun : p.Behind bytes 0 (p, bytes) := by
    constructor
    · rw [List.take_zero, List.append_nil]
    · rfl
  have stops := t.run_stops (p.keeps_behind bytes timeout) (hungUp || p.isWritable) begun
  show p.Written bytes ((t.run (hungUp || p.isWritable) (p, bytes)).1,
    (t.run (hungUp || p.isWritable) (p, bytes)).2.1)
  generalize t.run (hungUp || p.isWritable) (p, bytes) = ran at stops
  cases stops with
  | whole holds =>
    have all := holds.1
    rw [List.take_of_length_le (Nat.le_refl bytes.length)] at all
    exact .whole all
  | part short holds => exact .part short holds.1

/-- Writing neither ends a pipe nor keeps it from its end. -/
theorem ending_write (p : Pipe) (bytes : List UInt8) (hungUp : Bool) (timeout : Span) :
    (p.write bytes hungUp timeout).2.ending = p.ending := by
  let t : Transfer (Pipe × List UInt8) := ⟨.write, timeout, bytes.length, writeSome⟩
  have attempt : ∀ n s, (writeSome n s).2.1.ending = s.1.ending := by
    intro n s
    unfold writeSome
    dsimp only
    split
    · rfl
    · split <;> rfl
  have keeps : t.Keeps fun count s => p.Behind bytes count s ∧ s.1.ending = p.ending := by
    rintro done s short ⟨behind, same⟩
    obtain ⟨few, next⟩ := p.keeps_behind bytes timeout done s short behind
    exact ⟨few, next, (attempt _ s).trans same⟩
  have begun : p.Behind bytes 0 (p, bytes) := by
    constructor
    · rw [List.take_zero, List.append_nil]
    · rfl
  have stops := t.run_stops keeps (hungUp || p.isWritable) ⟨begun, rfl⟩
  show (t.run (hungUp || p.isWritable) (p, bytes)).2.1.ending = p.ending
  generalize t.run (hungUp || p.isWritable) (p, bytes) = ran at stops
  cases stops with
  | whole holds => exact holds.2
  | part short holds => exact holds.2

end Pipe

/-! ## The sides of a connection -/

namespace Fabric

/-- What a side has written: all of some bytes, or the first ones if the writing has failed. -/
inductive Written (f : Fabric) (h : Handle) (bytes : List UInt8) :
    Except LinkError Nat × Fabric → Prop where
  | whole {pipe : Pipe} (queue : pipe.queue = (f.outgoing h).queue ++ bytes) :
      Written f h bytes (.ok bytes.length, f.withOutgoing h pipe)
  | part {e : LinkError} {count : Nat} {pipe : Pipe} (short : count < bytes.length)
      (queue : pipe.queue = (f.outgoing h).queue ++ bytes.take count) :
      Written f h bytes (.error e, f.withOutgoing h pipe)

/-- **What is written stands behind what was written before**, as a whole if the writing succeeds,
and a proper beginning of it if the writing fails. -/
theorem written (f : Fabric) (h : Handle) (timeout : Span) (bytes : List UInt8) :
    f.Written h bytes (f.write h timeout bytes) := by
  have pipe := (f.outgoing h).written bytes (f.linkOf h).isHungUp timeout
  have same : f.write h timeout bytes =
      (((f.outgoing h).write bytes (f.linkOf h).isHungUp timeout).1,
        f.withOutgoing h ((f.outgoing h).write bytes (f.linkOf h).isHungUp timeout).2) := rfl
  rw [same]
  generalize (f.outgoing h).write bytes (f.linkOf h).isHungUp timeout = ran at pipe
  cases pipe with
  | whole queue => exact .whole queue
  | part short queue => exact .part short queue

theorem linkOf_update_of_ne {f : Fabric} {h other : Handle} (l : Connection)
    (elsewhere : other.link ≠ h.link) : (f.update h l).linkOf other = f.linkOf other := by
  rw [linkOf, update, List.getElem?_set_ne (Ne.symm elsewhere), linkOf]

/-- Only what this side writes is another pipe. -/
theorem outgoing_withOutgoing_of_ne {f : Fabric} {h other : Handle} (p : Pipe)
    (inside : h.link < f.length) (elsewhere : other.link ≠ h.link ∨ other.side ≠ h.side) :
    (f.withOutgoing h p).outgoing other = f.outgoing other := by
  by_cases link : other.link = h.link
  · have across : other.side = h.side.other := by
      have side := elsewhere.resolve_left (not_not_intro link)
      revert side
      cases other.side <;> cases h.side <;> simp [Side.other]
    have same : ∀ g : Fabric, g.linkOf other = g.linkOf h := by
      intro g
      rw [linkOf, linkOf, link]
    rw [outgoing, outgoing, same, same, across]
    exact incoming_withOutgoing p inside
  · rw [outgoing, withOutgoing, linkOf_update_of_ne _ link, outgoing]

/-- Some bytes stand behind what a side has written, and nothing else has happened: no byte has
been read, no connection has been made or has come to an end, and nobody else has written. -/
structure Appended (f after : Fabric) (h : Handle) (bytes : List UInt8) : Prop where
  queue : (after.outgoing h).queue = (f.outgoing h).queue ++ bytes
  ending : (after.outgoing h).ending = (f.outgoing h).ending
  elsewhere : ∀ other : Handle, other.link ≠ h.link ∨ other.side ≠ h.side →
    after.outgoing other = f.outgoing other
  length : after.length = f.length

/-- Writing to a connection appends all the bytes, or some first ones if it fails. -/
inductive Appends (f : Fabric) (h : Handle) (bytes : List UInt8) :
    Except LinkError Nat × Fabric → Prop where
  | whole {after : Fabric} (appended : f.Appended after h bytes) :
      Appends f h bytes (.ok bytes.length, after)
  | part {e : LinkError} {count : Nat} {after : Fabric} (short : count < bytes.length)
      (appended : f.Appended after h (bytes.take count)) : Appends f h bytes (.error e, after)

theorem appends_write {f : Fabric} {h : Handle} (inside : h.link < f.length) (timeout : Span)
    (bytes : List UInt8) : f.Appends h bytes (f.write h timeout bytes) := by
  have stands := f.written h timeout bytes
  have ending : ((f.write h timeout bytes).2.outgoing h).ending = (f.outgoing h).ending := by
    have written : (f.write h timeout bytes).2 = f.withOutgoing h
        ((f.outgoing h).write bytes (f.linkOf h).isHungUp timeout).2 := rfl
    rw [written, outgoing_withOutgoing _ inside, Pipe.ending_write]
  have appended : ∀ {pipe : Pipe} {more : List UInt8},
      pipe.queue = (f.outgoing h).queue ++ more →
      ((f.withOutgoing h pipe).outgoing h).ending = (f.outgoing h).ending →
      f.Appended (f.withOutgoing h pipe) h more := by
    intro pipe more queue ending
    refine ⟨?_, ending, fun other => outgoing_withOutgoing_of_ne pipe inside,
      length_withOutgoing f h pipe⟩
    rw [outgoing_withOutgoing pipe inside, queue]
  generalize f.write h timeout bytes = both at stands ending
  cases stands with
  | whole queue => exact .whole (appended queue ending)
  | part short queue => exact .part short (appended queue ending)

end Fabric

end Telematics.Link
