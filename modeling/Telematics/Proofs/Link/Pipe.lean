/-
# Telematics.Proofs.Link.Pipe -- what reading from a pipe comes to

Reading takes bytes from the front of a pipe and nothing else (`advance`).  As
many bytes as are queued are read at once, whatever stands behind them
(`read_of_le`); one byte more, and a pipe that has come to its end says how many
there were (`read_of_ended`).

The same holds of the pipe that a side of a connection reads (`Fabric.read_eq`).
-/
import Telematics.Link.Fabric

namespace Telematics.Link

set_option autoImplicit false

namespace Transfer

variable {σ : Type} {t : Transfer σ}

theorem continueFrom_of_moved {done count : Nat} {s s' : σ} (short : done < t.expected)
    (positive : 0 < count) (moved : t.attempt (t.expected - done) s = (.moved count, s')) :
    t.continueFrom done s = t.continueFrom (done + count) s' := by
  obtain ⟨n, rfl⟩ : ∃ n, count = n + 1 := ⟨count - 1, by omega⟩
  rw [continueFrom, if_pos short, moved]

theorem continueFrom_of_end {done : Nat} {s s' : σ} (short : done < t.expected)
    (moved : t.attempt (t.expected - done) s = (.moved 0, s')) :
    t.continueFrom done s = (.error (.shortTransfer t.direction done t.expected), s') := by
  rw [continueFrom, if_pos short, moved]

theorem continueFrom_of_done {done : Nat} {s : σ} (all : t.expected ≤ done) :
    t.continueFrom done s = (.ok done, s) := by
  rw [continueFrom, if_neg (by omega)]

end Transfer

namespace Pipe

/-- The pipe behind its first `n` bytes. -/
def advance (p : Pipe) (n : Nat) : Pipe :=
  if n = 0 then p
  else { p with queue := p.queue.drop n, packets := Packet.drop n p.packets }

@[simp] theorem advance_zero (p : Pipe) : p.advance 0 = p := rfl

@[simp] theorem queue_advance (p : Pipe) (n : Nat) : (p.advance n).queue = p.queue.drop n := by
  unfold advance
  split
  · rename_i h; simp [h]
  · rfl

@[simp] theorem ending_advance (p : Pipe) (n : Nat) : (p.advance n).ending = p.ending := by
  unfold advance
  split <;> rfl

theorem isReadable_of_queue {p : Pipe} (queued : p.queue ≠ []) : p.isReadable = true := by
  simp [isReadable, queued]

theorem readSome_of_queue {p : Pipe} (n : Nat) (buffer : List UInt8) (queued : p.queue ≠ [])
    (wanted : 0 < n) :
    readSome n (p, buffer) =
      (.moved (min n p.queue.length), (p.advance n, buffer ++ p.queue.take n)) := by
  have full : p.queue.isEmpty = false := by simpa using queued
  simp [readSome, full, advance, Nat.ne_of_gt wanted]

theorem readSome_of_ended {p : Pipe} (n : Nat) (buffer : List UInt8) (empty : p.queue = [])
    (ended : p.ending = .ended) : readSome n (p, buffer) = (.moved 0, (p, buffer)) := by
  simp [readSome, empty, ended]

/-- As many bytes as are queued are read, whatever stands behind them. -/
theorem read_of_le {p : Pipe} {n : Nat} (timeout : Span) (enough : n ≤ p.queue.length) :
    p.read n timeout = (.ok (p.queue.take n), p.advance n) := by
  rcases Nat.eq_zero_or_pos n with rfl | wanted
  · simp [read, Transfer.run, Except.map]
  have queued : p.queue ≠ [] := List.ne_nil_of_length_pos (by omega)
  let t : Transfer (Pipe × List UInt8) := ⟨.read, timeout, n, readSome⟩
  have moved : t.attempt (t.expected - 0) (p, []) = (.moved n, (p.advance n, p.queue.take n)) := by
    have := readSome_of_queue n [] queued wanted
    rwa [Nat.min_eq_left enough] at this
  have all : t.run p.isReadable (p, []) = (.ok n, (p.advance n, p.queue.take n)) := by
    rw [Transfer.run, if_neg (Nat.ne_of_gt wanted), isReadable_of_queue queued, if_pos rfl,
      Transfer.continueFrom_of_moved wanted wanted moved,
      Transfer.continueFrom_of_done (by simp [t]), Nat.zero_add]
  show (((t.run p.isReadable (p, [])).1.map fun _ => (t.run p.isReadable (p, [])).2.2),
    (t.run p.isReadable (p, [])).2.1) = _
  rw [all]
  rfl

/-- A pipe that has come to its end says how many bytes there were if more are wanted. -/
theorem read_of_ended {p : Pipe} {n : Nat} (timeout : Span) (ended : p.ending = .ended)
    (few : p.queue.length < n) :
    ∃ p', p.read n timeout = (.error (.shortTransfer .read p.queue.length n), p') := by
  let t : Transfer (Pipe × List UInt8) := ⟨.read, timeout, n, readSome⟩
  have ready : p.isReadable = true := by simp [isReadable, ended]
  have wanted : 0 < n := by omega
  have cut : ∃ s, t.run p.isReadable (p, []) =
      (.error (.shortTransfer .read p.queue.length n), s) := by
    rw [Transfer.run, if_neg (Nat.ne_of_gt wanted), ready, if_pos rfl]
    by_cases empty : p.queue = []
    · have met := readSome_of_ended (n - 0) [] empty ended
      exact ⟨_, by rw [Transfer.continueFrom_of_end wanted met, empty]; rfl⟩
    · have positive : 0 < p.queue.length := List.length_pos_iff.2 empty
      have moved := readSome_of_queue (n - 0) [] empty (by omega)
      rw [Nat.sub_zero, Nat.min_eq_right (by omega : p.queue.length ≤ n)] at moved
      have gone : (p.advance n).queue = [] := by simpa using Nat.le_of_lt few
      have met := readSome_of_ended (n - (0 + p.queue.length)) ([] ++ p.queue.take n) gone
        ((ending_advance p n).trans ended)
      have short : 0 + p.queue.length < t.expected := by simpa [t] using few
      refine ⟨(p.advance n, [] ++ p.queue.take n), ?_⟩
      rw [Transfer.continueFrom_of_moved wanted positive moved,
        Transfer.continueFrom_of_end short met, Nat.zero_add]
  obtain ⟨s, cut⟩ := cut
  refine ⟨s.1, ?_⟩
  show (((t.run p.isReadable (p, [])).1.map fun _ => (t.run p.isReadable (p, [])).2.2),
    (t.run p.isReadable (p, [])).2.1) = _
  rw [cut]
  rfl

end Pipe

theorem Connection.incoming_withOutgoing (l : Connection) (side : Side) (p : Pipe) :
    (l.withOutgoing side p).incoming side = l.incoming side := by
  cases side <;> rfl

theorem Connection.outgoing_withIncoming (l : Connection) (side : Side) (p : Pipe) :
    (l.withIncoming side p).outgoing side = l.outgoing side := by
  cases side <;> rfl

namespace Fabric

theorem lt_length_of_queued {f : Fabric} {h : Handle} (queued : f.queued h ≠ []) :
    h.link < f.length := by
  rcases Nat.lt_or_ge h.link f.length with inside | outside
  · exact inside
  · have missing : f[h.link]? = none := List.getElem?_eq_none outside
    have empty : f.queued h = [] := by
      rw [Fabric.queued, Fabric.incoming, linkOf, missing]
      cases h.side <;> rfl
    exact absurd empty queued

/-- There is no connection but those that there are. -/
theorem lt_length_of_connected {f : Fabric} {h : Handle} (connected : f.isConnected h = true) :
    h.link < f.length := by
  rcases Nat.lt_or_ge h.link f.length with inside | outside
  · exact inside
  · have missing : f[h.link]? = none := List.getElem?_eq_none outside
    rw [isConnected, linkOf, missing] at connected
    cases connected

theorem length_update (f : Fabric) (h : Handle) (l : Connection) :
    (f.update h l).length = f.length :=
  List.length_set

theorem length_withIncoming (f : Fabric) (h : Handle) (p : Pipe) :
    (f.withIncoming h p).length = f.length :=
  length_update f h _

theorem length_withOutgoing (f : Fabric) (h : Handle) (p : Pipe) :
    (f.withOutgoing h p).length = f.length :=
  length_update f h _

theorem linkOf_update {f : Fabric} {h : Handle} (l : Connection) (inside : h.link < f.length) :
    (f.update h l).linkOf h = l := by
  simp [linkOf, update, inside]

theorem incoming_withIncoming {f : Fabric} {h : Handle} (p : Pipe) (inside : h.link < f.length) :
    (f.withIncoming h p).incoming h = p := by
  rw [incoming, withIncoming, linkOf_update _ inside, Connection.incoming_withIncoming]

theorem outgoing_withOutgoing {f : Fabric} {h : Handle} (p : Pipe) (inside : h.link < f.length) :
    (f.withOutgoing h p).outgoing h = p := by
  rw [outgoing, withOutgoing, linkOf_update _ inside, Connection.outgoing_withOutgoing]

/-- What a side writes is not what it reads. -/
theorem incoming_withOutgoing {f : Fabric} {h : Handle} (p : Pipe) (inside : h.link < f.length) :
    (f.withOutgoing h p).incoming h = f.incoming h := by
  rw [incoming, withOutgoing, linkOf_update _ inside, Connection.incoming_withOutgoing]
  rfl

theorem outgoing_withIncoming {f : Fabric} {h : Handle} (p : Pipe) (inside : h.link < f.length) :
    (f.withIncoming h p).outgoing h = f.outgoing h := by
  rw [outgoing, withIncoming, linkOf_update _ inside, Connection.outgoing_withIncoming]
  rfl

/-- What a side reads, put in its own place. -/
theorem withIncoming_self {f : Fabric} {h : Handle} (inside : h.link < f.length) :
    f.withIncoming h (f.incoming h) = f := by
  have same : ∀ l : Connection, l.withIncoming h.side (l.incoming h.side) = l := by
    intro l
    cases h.side <;> rfl
  have there : f.linkOf h = f[h.link] := by simp [linkOf, inside]
  rw [withIncoming, incoming, same, update, there, List.set_getElem_self]

theorem withIncoming_withIncoming {f : Fabric} {h : Handle} (p q : Pipe)
    (inside : h.link < f.length) : (f.withIncoming h p).withIncoming h q = f.withIncoming h q := by
  have same : ∀ l : Connection,
      (l.withIncoming h.side p).withIncoming h.side q = l.withIncoming h.side q := by
    intro l
    cases h.side <;> rfl
  rw [withIncoming, withIncoming, linkOf_update _ inside, same]
  simp [withIncoming, update]

theorem withOutgoing_withOutgoing {f : Fabric} {h : Handle} (p q : Pipe)
    (inside : h.link < f.length) : (f.withOutgoing h p).withOutgoing h q = f.withOutgoing h q := by
  have same : ∀ l : Connection,
      (l.withOutgoing h.side p).withOutgoing h.side q = l.withOutgoing h.side q := by
    intro l
    cases h.side <;> rfl
  rw [withOutgoing, withOutgoing, linkOf_update _ inside, same]
  simp [withOutgoing, update]

/-- Reading from a connection is reading from the pipe that the side reads. -/
theorem read_eq (f : Fabric) (h : Handle) (timeout : Span) (n : Nat) :
    f.read h timeout n = (((f.incoming h).read n timeout).1,
      f.withIncoming h ((f.incoming h).read n timeout).2) := rfl

end Fabric

end Telematics.Link
