/-
# Telematics.Proofs.Link.Transfer -- a transfer is a sequence of portions

Reading exactly so many bytes from a sound pipe either takes them all or, when
too few are queued, empties the pipe and runs out of time (`Sound.read_eq`).  What has
been taken can be put back in front, and reading then goes on as if it had never
been taken (`advance_putBack`).

Writing some bytes is giving them portion by portion, unless there is no room and
the time runs out (`write_cases`).
-/
import Telematics.Proofs.Link.Portion

namespace Telematics.Link

set_option autoImplicit false

theorem Packet.drop_drop (m n : Nat) (packets : List Packet) :
    drop n (drop m packets) = drop (m + n) packets := by
  induction packets generalizing m n with
  | nil => simp only [drop]
  | cons packet packets ih =>
    by_cases first : packet.left ≤ m
    · have both : packet.left ≤ m + n := by omega
      rw [drop, if_pos first, drop, if_pos both, ih]
      congr 1
      omega
    · rw [drop, if_neg first, drop]
      by_cases second : packet.left - m ≤ n
      · have both : packet.left ≤ m + n := by omega
        rw [if_pos second, drop, if_pos both]
        congr 1
        show n - (packet.left - m) = m + n - packet.left
        omega
      · have beyond : ¬ packet.left ≤ m + n := by omega
        rw [if_neg second, drop, if_neg beyond]
        simp only [Nat.sub_sub]

namespace Pipe

variable {p : Pipe}

/-! ## Reading -/

theorem advance_advance (p : Pipe) (m n : Nat) : (p.advance m).advance n = p.advance (m + n) := by
  rcases Nat.eq_zero_or_pos m with rfl | first
  · rw [advance_zero, Nat.zero_add]
  rcases Nat.eq_zero_or_pos n with rfl | second
  · rw [advance_zero, Nat.add_zero]
  have one : m ≠ 0 := by omega
  have other : n ≠ 0 := by omega
  have both : m + n ≠ 0 := by omega
  simp only [advance, if_neg one, if_neg other, if_neg both, Packet.drop_drop, List.drop_drop]

theorem Sound.advance_of_le (sound : p.Sound) {n : Nat} (all : p.queue.length ≤ n) :
    p.advance n = .new := by
  have gone := sound.advance n
  have empty : (p.advance n).queue = [] := by rwa [queue_advance, List.drop_eq_nil_iff]
  have none := gone.empty empty
  have live := gone.live
  revert empty none live
  generalize p.advance n = after
  rintro empty none live
  cases after
  cases empty
  cases none
  cases live
  rfl

theorem Sound.putBack (sound : p.Sound) {held : List UInt8} (some : held ++ p.queue ≠ []) :
    (p.putBack held).Sound where
  live := sound.live
  size := by
    show held.length + Packet.size p.packets = (held ++ p.queue).length
    rw [sound.size, List.length_append]
  empty := by
    intro empty
    exact absurd empty some

/-- Reading more than has been put back is reading on. -/
theorem advance_putBack (p : Pipe) {held : List UInt8} {n : Nat} (more : held.length < n) :
    (p.putBack held).advance n = p.advance (n - held.length) := by
  have whole : n ≠ 0 := by omega
  have rest : n - held.length ≠ 0 := by omega
  have packets : Packet.drop n (p.putBack held).packets =
      Packet.drop (n - held.length) p.packets := by
    show Packet.drop n (⟨held.length, 0⟩ :: p.packets) = _
    rw [Packet.drop, if_pos (Nat.le_of_lt more)]
  have queue : (p.putBack held).queue.drop n = p.queue.drop (n - held.length) := by
    show (held ++ p.queue).drop n = _
    rw [List.drop_append, List.drop_of_length_le (Nat.le_of_lt more), List.nil_append]
  simp only [advance, if_neg whole, if_neg rest, packets, queue]
  rfl

theorem Sound.read_of_lt (sound : p.Sound) {n : Nat} (timeout : Span)
    (few : p.queue.length < n) :
    p.read n timeout = (.error (.timeout .read timeout), .new) := by
  let t : Transfer (Pipe × List UInt8) := ⟨.read, timeout, n, readSome⟩
  have wanted : 0 < n := by omega
  have stuck : ∃ buffer, t.run p.isReadable (p, []) =
      (.error (.timeout .read timeout), (.new, buffer)) := by
    by_cases empty : p.queue = []
    · have same : p = .new := by
        have advanced := sound.advance_of_le (n := 0) (by simp [empty])
        rwa [advance_zero] at advanced
      refine ⟨[], ?_⟩
      rw [same, Transfer.run, if_neg (Nat.ne_of_gt wanted)]
      rfl
    · have positive : 0 < p.queue.length := List.length_pos_iff.2 empty
      have moved := readSome_of_queue (n - 0) [] empty (by omega)
      rw [Nat.sub_zero, Nat.min_eq_right (Nat.le_of_lt few),
        sound.advance_of_le (Nat.le_of_lt few)] at moved
      have short : 0 + p.queue.length < t.expected := by simpa [t] using few
      refine ⟨[] ++ p.queue.take n, ?_⟩
      rw [Transfer.run, if_neg (Nat.ne_of_gt wanted), isReadable_of_queue empty, if_pos rfl,
        Transfer.continueFrom_of_moved wanted positive moved, Transfer.continueFrom, if_pos short]
      rfl
  obtain ⟨buffer, stuck⟩ := stuck
  show (((t.run p.isReadable (p, [])).1.map fun _ => (t.run p.isReadable (p, [])).2.2),
    (t.run p.isReadable (p, [])).2.1) = _
  rw [stuck]
  rfl

/-- Reading exactly so many bytes takes them from the front, if there are as many. -/
theorem Sound.read_eq (sound : p.Sound) (n : Nat) (timeout : Span) :
    p.read n timeout =
      (if n ≤ p.queue.length then .ok (p.queue.take n) else .error (.timeout .read timeout),
        p.advance n) := by
  rcases Nat.lt_or_ge p.queue.length n with few | enough
  · rw [sound.read_of_lt timeout few, sound.advance_of_le (Nat.le_of_lt few),
      if_neg (Nat.not_le.2 few)]
  · rw [read_of_le timeout enough, if_pos enough]

/-! ## Writing -/

/-- Attempts to write what is left of so many bytes, one after the other. -/
def giveAll? (total : Nat) : List Nat → Pipe → List UInt8 → Option (List UInt8 × Pipe)
  | [], p, bytes => some (bytes, p)
  | most :: more, p, bytes =>
    (p.give? most (bytes.length ≠ total) bytes).bind fun (rest, p) => giveAll? total more p rest

theorem give?_of_moved {bytes rest : List UInt8} {begun : Bool} {n : Nat} {p' : Pipe}
    (ready : (begun || p.isWritable) = true)
    (moved : writeSome bytes.length (p, bytes) = (.moved (n + 1), (p', rest))) :
    p.give? bytes.length begun bytes = some (rest, p') := by
  rw [give?, if_pos ready, Nat.min_self, moved]

theorem give?_nil (live : p.ending = .live) (most : Nat) (begun : Bool) :
    p.give? most begun [] = none := by
  by_cases ready : (begun || p.isWritable) = true
  · rw [give?_eq live ready, if_pos (Nat.le_zero.1 (size_added_le most p []))]
  · rw [give?, if_neg ready]

theorem writeSome_cases (live : p.ending = .live) (bytes : List UInt8) :
    (∃ s, writeSome bytes.length (p, bytes) = (.blocked, s)) ∨
      ∃ n p' rest, writeSome bytes.length (p, bytes) = (.moved (n + 1), (p', rest)) ∧
        p'.ending = .live ∧ n + 1 + rest.length = bytes.length := by
  have bound := Packet.size_packetsOf_le (Packet.load p.packets) bytes.length
  generalize count : Packet.size (Packet.packetsOf (Packet.load p.packets) bytes.length) = moved
    at bound
  simp only [writeSome, live, ne_eq, not_true_eq_false, if_false, count]
  cases moved with
  | zero => exact .inl ⟨_, rfl⟩
  | succ n =>
    refine .inr ⟨n, _, _, rfl, rfl, ?_⟩
    rw [List.length_drop]
    omega

/-- The rest of a transfer is given portion by portion, or its time runs out. -/
theorem continueFrom_write_cases (timeout : Span) {total done : Nat} {bytes : List UInt8}
    {p : Pipe} (live : p.ending = .live) (split : done + bytes.length = total)
    (ready : 0 < done ∨ p.isWritable = true) :
    (∃ s, (Transfer.mk .write timeout total writeSome).continueFrom done (p, bytes) =
        (.error (.timeout .write timeout), s)) ∨
      ∃ mosts p', giveAll? total mosts p bytes = some ([], p') ∧
        (Transfer.mk .write timeout total writeSome).continueFrom done (p, bytes) =
          (.ok total, (p', [])) := by
  rcases Nat.eq_zero_or_pos bytes.length with none | some
  · cases List.eq_nil_of_length_eq_zero none
    rw [List.length_nil, Nat.add_zero] at split
    refine .inr ⟨[], p, rfl, ?_⟩
    rw [Transfer.continueFrom_of_done (by simp only; omega), split]
  have short : done < total := by omega
  have left : total - done = bytes.length := by omega
  rcases writeSome_cases live bytes with ⟨s, blocked⟩ | ⟨n, p', rest, moved, stillLive, length⟩
  · refine .inl ⟨s, ?_⟩
    rw [Transfer.continueFrom, if_pos short]
    simp only [left, blocked]
  let t : Transfer (Pipe × List UInt8) := ⟨.write, timeout, total, writeSome⟩
  have attempt : t.attempt (t.expected - done) (p, bytes) = (.moved (n + 1), (p', rest)) := by
    show writeSome (total - done) (p, bytes) = _
    rw [left, moved]
  have goesOn := Transfer.continueFrom_of_moved short (Nat.succ_pos n) attempt
  have stillSplit : done + (n + 1) + rest.length = total := by omega
  rcases continueFrom_write_cases timeout stillLive stillSplit
    (.inl (Nat.succ_pos _)) with ⟨s, late⟩ | ⟨mosts, p'', given, inTime⟩
  · exact .inl ⟨s, goesOn.trans late⟩
  · have begun : (decide (bytes.length ≠ total) || p.isWritable) = true := by
      rcases ready with positive | writable
      · have other : bytes.length ≠ total := by omega
        simp [other]
      · simp [writable]
    refine .inr ⟨bytes.length :: mosts, p'', ?_, goesOn.trans inTime⟩
    rw [giveAll?, give?_of_moved begun moved, Option.bind_some]
    exact given
termination_by bytes.length
decreasing_by omega

/-- Writing is giving portion by portion, or its time runs out. -/
theorem write_cases {bytes : List UInt8} (timeout : Span) (live : p.ending = .live)
    (some : bytes ≠ []) :
    (∃ p', p.write bytes false timeout = (.error (.timeout .write timeout), p')) ∨
      ∃ most more p', giveAll? bytes.length (most :: more) p bytes = .some ([], p') ∧
        p.write bytes false timeout = (.ok bytes.length, p') := by
  have wanted : bytes.length ≠ 0 := fun none => some (List.eq_nil_of_length_eq_zero none)
  let t : Transfer (Pipe × List UInt8) := ⟨.write, timeout, bytes.length, writeSome⟩
  have ran : p.write bytes false timeout = ((t.run p.isWritable (p, bytes)).1,
      (t.run p.isWritable (p, bytes)).2.1) := rfl
  rw [ran, Transfer.run, if_neg wanted]
  by_cases writable : p.isWritable = true
  · rw [if_pos writable]
    rcases continueFrom_write_cases timeout live (Nat.zero_add _)
      (.inr writable) with ⟨s, late⟩ | ⟨mosts, p', given, inTime⟩
    · exact .inl ⟨s.1, by rw [late]⟩
    · cases mosts with
      | nil =>
        cases given
        exact absurd rfl some
      | cons most more => exact .inr ⟨most, more, p', given, by rw [inTime]⟩
  · rw [if_neg writable]
    exact .inl ⟨p, rfl⟩

end Pipe

theorem Fabric.write_eq {f : Fabric} {h : Handle} (live : (f.outgoing h).ending = .live)
    (timeout : Span) (bytes : List UInt8) :
    f.write h timeout bytes = (((f.outgoing h).write bytes false timeout).1,
      f.withOutgoing h ((f.outgoing h).write bytes false timeout).2) := by
  have there : (f.linkOf h).isHungUp = false := by
    unfold Fabric.outgoing at live
    revert live
    cases h.side <;> simp +contextual [Connection.isHungUp, Connection.outgoing]
  rw [write, Connection.write, there]
  rfl

end Telematics.Link
