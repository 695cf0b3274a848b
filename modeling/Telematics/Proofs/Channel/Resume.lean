/-
# Telematics.Proofs.Channel.Resume -- reading on where one has stopped

A reader that holds the first bytes of a frame reads on with these put back in
front.  What that comes to can be said from the bytes that it holds and those that
are queued, all together:

* if they begin with a frame, it is received, and what is behind it stays, whatever
  stands behind the bytes (`receive_putBack_of_decode`);
* if they do not and more may come, either the frame is not complete, or there will
  be none whatever comes (`receive_putBack_of_sound`);
* if they do not and nothing can come any more, the receiver is told so at once and
  does not wait (`receive_putBack_of_halted`).
-/
import Telematics.Proofs.Channel.Portions
import Telematics.Proofs.Link.Written
import Telematics.Proofs.Wire.Leading

namespace Telematics

set_option autoImplicit false

open Link Wire

/-! ## Pipes that have come to their end -/

namespace Link

/-- A transfer whose attempts always move something or fail does not wait. -/
theorem Transfer.continueFrom_ne_timeout {σ : Type} {t : Transfer σ} {past : σ → Prop}
    (prompt : ∀ n s, past s → (t.attempt n s).1 ≠ .blocked ∧ past (t.attempt n s).2)
    (done : Nat) (s : σ) (isPast : past s) :
    (∀ direction timeout, (t.continueFrom done s).1 ≠ .error (.timeout direction timeout)) ∧
      past (t.continueFrom done s).2 := by
  fun_induction continueFrom t done s with
  | case1 done s short s' moved =>
    have next := prompt (t.expected - done) s isPast
    rw [moved] at next
    exact ⟨by simp, next.2⟩
  | case2 done s short n s' moved ih =>
    have next := prompt (t.expected - done) s isPast
    rw [moved] at next
    exact ih next.2
  | case3 done s short s' blocked =>
    have next := prompt (t.expected - done) s isPast
    rw [blocked] at next
    exact absurd rfl next.1
  | case4 done s short e s' failed =>
    have next := prompt (t.expected - done) s isPast
    rw [failed] at next
    exact ⟨by simp, next.2⟩
  | case5 done s all => exact ⟨by simp, isPast⟩

namespace Pipe

theorem readSome_of_halted (n : Nat) (s : Pipe × List UInt8) (halted : s.1.ending ≠ .live) :
    (readSome n s).1 ≠ .blocked ∧ (readSome n s).2.1.ending ≠ .live := by
  obtain ⟨p, buffer⟩ := s
  by_cases empty : p.queue = []
  · cases ending : p.ending with
    | live => exact absurd ending halted
    | ended => simp [readSome, empty, ending]
    | reset => simp [readSome, empty, ending]
  · have full : p.queue.isEmpty = false := by simpa using empty
    simp only [readSome, full]
    exact ⟨by simp, halted⟩

/-- Reading from a pipe that has come to its end does not wait, and it stays at its end. -/
theorem read_of_halted {p : Pipe} (n : Nat) (timeout : Span) (halted : p.ending ≠ .live) :
    (∀ direction span, (p.read n timeout).1 ≠ .error (.timeout direction span)) ∧
      (p.read n timeout).2.ending ≠ .live := by
  let t : Transfer (Pipe × List UInt8) := ⟨.read, timeout, n, readSome⟩
  have ready : p.isReadable = true := by simp [isReadable, halted]
  have ran := @Transfer.continueFrom_ne_timeout _ t (fun s => s.1.ending ≠ .live)
    readSome_of_halted 0 (p, []) halted
  have result : p.read n timeout = ((t.run true (p, [])).1.map fun _ => (t.run true (p, [])).2.2,
      (t.run true (p, [])).2.1) := by
    rw [← ready]
    rfl
  rw [result, Transfer.run]
  split
  · exact ⟨by simp [Except.map], halted⟩
  · rw [if_pos rfl]
    refine ⟨?_, ran.2⟩
    intro direction span late
    cases met : (t.continueFrom 0 (p, [])).1 with
    | error e =>
      rw [met] at late
      cases late
      exact ran.1 direction span met
    | ok count =>
      rw [met] at late
      cases late

/-- One attempt to read moves bytes out of the queue, at most as many as it is to. -/
theorem length_of_readSome (n : Nat) (s : Pipe × List UInt8) :
    (readSome n s).1.count ≤ n ∧
      (readSome n s).1.count + (readSome n s).2.1.queue.length = s.1.queue.length := by
  obtain ⟨p, buffer⟩ := s
  by_cases empty : p.queue = []
  · cases ending : p.ending <;> simp [readSome, empty, ending, Attempt.count]
  · have full : p.queue.isEmpty = false := by simpa using empty
    simp only [readSome, full, Bool.false_eq_true, if_false, Attempt.count, List.length_drop]
    omega

/-- Nobody reads more than is queued. -/
theorem length_of_read {p : Pipe} {n : Nat} {timeout : Span} {bytes : List UInt8}
    (read : (p.read n timeout).1 = .ok bytes) : n ≤ p.queue.length := by
  let t : Transfer (Pipe × List UInt8) := ⟨.read, timeout, n, readSome⟩
  have result : (p.read n timeout).1 =
      (t.run p.isReadable (p, [])).1.map fun _ => (t.run p.isReadable (p, [])).2.2 := rfl
  have keeps : t.Keeps fun done s => done + s.1.queue.length = p.queue.length := by
    intro done s short left
    obtain ⟨few, moved⟩ := length_of_readSome (n - done) s
    dsimp only [t] at short ⊢
    omega
  have begun : 0 + (p, ([] : List UInt8)).1.queue.length = p.queue.length := Nat.zero_add _
  have stops := t.run_stops keeps p.isReadable begun
  rw [result] at read
  generalize t.run p.isReadable (p, []) = ran at stops read
  cases stops with
  | whole left =>
    dsimp only [t] at left
    omega
  | part short left => cases read

end Pipe

end Link

namespace Channel

variable {f : Fabric} {source : Handle} {held bytes : List UInt8} {frame : Frame}

/-- Reading a frame does not wait where reading bytes does not. -/
theorem readFrame_ne_timeout {σ : Type} {read : Nat → σ → Except LinkError (List UInt8) × σ}
    {past : σ → Prop}
    (prompt : ∀ n s, past s →
      (∀ direction span, (read n s).1 ≠ .error (.timeout direction span)) ∧ past (read n s).2)
    {s : σ} (isPast : past s) (direction : Direction) (span : Span) :
    (readFrame read s).1 ≠ .error (.link (.timeout direction span)) := by
  obtain ⟨first, still⟩ := prompt headerLength s isPast
  have way := readFrame_cases read s
  generalize readFrame read s = result at way
  cases way with
  | cut failed =>
    rw [failed] at first
    rintro ⟨⟩
    exact first direction span rfl
  | refused taken => nofun
  | @short header length _ s' _ taken failed =>
    rw [taken] at still
    obtain ⟨second, -⟩ := prompt length s' still
    rw [failed] at second
    rintro ⟨⟩
    exact second direction span rfl
  | @whole header payload _ _ _ taken rest =>
    cases Frame.decode (header ++ payload) <;> nofun

theorem readFrom_ne_timeout (settings : Settings) (inside : source.link < f.length)
    (halted : (f.incoming source).ending ≠ .live) (direction : Direction) (span : Span) :
    (readFrom settings source f).1 ≠ .error (.link (.timeout direction span)) := by
  let past : Fabric → Prop := fun f => source.link < f.length ∧ (f.incoming source).ending ≠ .live
  have prompt : ∀ n f, past f →
      (∀ direction span,
        (f.read source settings.transferTimeout n).1 ≠ .error (.timeout direction span)) ∧
      past (f.read source settings.transferTimeout n).2 := by
    intro n f ⟨inside, halted⟩
    obtain ⟨prompt, still⟩ := Pipe.read_of_halted n settings.transferTimeout halted
    rw [Fabric.read_eq]
    refine ⟨prompt, ?_, ?_⟩
    · rwa [Fabric.length_withIncoming]
    · rwa [Fabric.incoming_withIncoming _ inside]
  exact readFrame_ne_timeout prompt ⟨inside, halted⟩ direction span

/-! ## What the bytes say -/

theorem reach_of_decode (decoded : Frame.decode bytes = .ok frame) :
    reach bytes = headerLength + frame.payload.length := by
  obtain ⟨header, rest, rfl, -, allowed, -, length⟩ := Frame.exists_header_of_decode decoded
  rw [length]
  simp only [reach, peekLength_encode_append, if_neg (Nat.not_lt.2 allowed)]

theorem decode_of_whole (whole : readingOf bytes = .whole frame) :
    Frame.decode bytes = .ok frame := by
  unfold readingOf at whole
  split at whole
  · cases whole
  split at whole
  · cases whole
  split at whole
  · cases whole
  split at whole
  · cases whole
  split at whole
  · cases whole
  · rename_i decoded
    cases whole
    exact decoded

theorem headerLength_le_of_refused {e : FrameError} (refused : readingOf bytes = .refused e) :
    headerLength ≤ bytes.length := by
  rcases Nat.lt_or_ge bytes.length headerLength with few | enough
  · rw [readingOf, if_pos few] at refused
    cases refused
  · exact enough

/-- What is refused is no frame, whatever follows. -/
theorem not_decode_of_refused {e : FrameError} (refused : readingOf bytes = .refused e)
    (others : List UInt8) : ∃ e, Frame.decode (bytes ++ others) = .error e := by
  cases decoded : Frame.decode (bytes ++ others) with
  | error e => exact ⟨e, rfl⟩
  | ok frame =>
    have enough := headerLength_le_of_refused refused
    have length := reach_of_decode decoded
    rw [reach_append others enough] at length
    rcases Nat.lt_or_ge bytes.length (reach bytes) with short | all
    · cases refused.symm.trans (readingOf_of_lt_reach short)
    have here := Frame.decode_of_append decoded (by omega)
    obtain ⟨header, rest, split, -, allowed, whole, announced⟩ := Frame.exists_header_of_decode here
    have peeked : peekLength bytes = .ok header.length.toNat := by
      rw [split, peekLength_encode_append]
    have result : (readingOf bytes).result ⟨0⟩ = _ :=
      result_readingOf enough peeked allowed (by omega)
    rw [refused, here] at result
    cases result

/-! ## Receiving with bytes put back -/

theorem incoming_putBack (inside : source.link < f.length) :
    (f.putBack source held).incoming source = (f.incoming source).putBack held :=
  Fabric.incoming_withIncoming _ inside

theorem queued_putBack (inside : source.link < f.length) :
    (f.putBack source held).queued source = held ++ f.queued source := by
  rw [Fabric.queued, incoming_putBack inside]
  rfl

theorem length_putBack : (f.putBack source held).length = f.length :=
  Fabric.length_withIncoming _ _ _

/-- To read more than has been put back is to read on. -/
theorem behind_putBack (inside : source.link < f.length) {n : Nat} (more : held.length < n) :
    behind (f.putBack source held) source n = behind f source (n - held.length) := by
  rw [behind, incoming_putBack inside, Pipe.advance_putBack _ more, Fabric.putBack,
    Fabric.withIncoming_withIncoming _ _ inside]
  rfl

theorem readFrom_of_decode (settings : Settings)
    (decoded : Frame.decode (f.queued source) = .ok frame) :
    readFrom settings source f =
      (.ok frame, behind f source (headerLength + frame.payload.length)) := by
  obtain ⟨header, rest, queued, -, allowed, enough, length⟩ :=
    Frame.exists_header_of_decode decoded
  have read := readFrom_eq_of_whole queued settings allowed enough
  rwa [decoded, behind_behind (lt_length_of_header queued), ← length] at read

theorem eq_behind_of_read {settings : Settings} {n : Nat} {taken : List UInt8} {f' : Fabric}
    (read : f.read source settings.transferTimeout n = (.ok taken, f')) :
    n ≤ (f.queued source).length ∧ taken = (f.queued source).take n ∧ f' = behind f source n := by
  have enough : n ≤ (f.queued source).length := Pipe.length_of_read (congrArg Prod.fst read)
  rw [read_of_le settings enough] at read
  cases read
  exact ⟨enough, rfl, rfl⟩

/-- What is read as a frame was there as a whole, whatever stands behind it. -/
theorem decode_of_readFrom {settings : Settings} (inside : source.link < f.length)
    (read : (readFrom settings source f).1 = .ok frame) :
    Frame.decode (f.queued source) = .ok frame := by
  have way := readFrame_cases (fun n f => f.read source settings.transferTimeout n) f
  unfold readFrom at read
  generalize readFrame _ f = result at way read
  cases way with
  | cut failed => cases read
  | refused taken => cases read
  | short taken failed => cases read
  | @whole header payload length f' f'' taken rest =>
  obtain ⟨-, rfl, rfl⟩ := eq_behind_of_read taken
  obtain ⟨-, rfl, rfl⟩ := eq_behind_of_read rest
  rw [queued_behind inside, ← List.take_add] at read
  have decoded : Frame.decode ((f.queued source).take (headerLength + length)) = .ok frame := by
    cases met : Frame.decode ((f.queued source).take (headerLength + length)) with
    | error e =>
      rw [met] at read
      cases read
    | ok frame =>
      rw [met] at read
      cases read
      rfl
  have whole := Frame.decode_append decoded ((f.queued source).drop (headerLength + length))
  rwa [List.take_append_drop] at whole

/-- **A frame that is there as a whole is received**, though more may come or nothing can. -/
theorem receive_putBack_of_decode (settings : Settings) (inside : source.link < f.length)
    (short : held.length < reach held)
    (decoded : Frame.decode (held ++ f.queued source) = .ok frame) :
    receive settings (f.putBack source held) source =
      (.ok ⟨frame, some source⟩,
        behind f source (headerLength + frame.payload.length - held.length)) := by
  have more := lt_reach_append short (f.queued source)
  rw [reach_of_decode decoded] at more
  rw [← queued_putBack inside] at decoded
  rw [receive_eq (readFrom_of_decode settings decoded), behind_putBack inside more]
  rfl

/-- **A frame that is not there as a whole is waited for or refused**: it is refused if there will
be none whatever comes. -/
theorem receive_putBack_of_sound (settings : Settings) (inside : source.link < f.length)
    (sound : (f.incoming source).Sound) (short : held.length < reach held)
    (some : held ++ f.queued source ≠ [])
    (none : ∀ frame, Frame.decode (held ++ f.queued source) ≠ .ok frame) :
    (receive settings (f.putBack source held) source =
        (.error (.link (.timeout .read settings.transferTimeout)),
          behind f source (f.queued source).length) ∧
      (held ++ f.queued source).length < reach (held ++ f.queued source)) ∨
    ∃ e f', receive settings (f.putBack source held) source = (.error (.frame e), f') ∧
      ∀ others, ∃ e, Frame.decode (held ++ f.queued source ++ others) = .error e := by
  have read := receive_eq (readFrom_putBack settings sound inside short some)
  generalize whole : held ++ f.queued source = bytes at none read ⊢
  cases came : readingOf (bytes.take (reach bytes)) with
  | wanting count =>
    have all := take_reach_of_wanting came
    rw [all] at came
    have wants := lt_reach_of_wanting came
    have length : held.length + (f.queued source).length = bytes.length := by
      rw [← whole, List.length_append]
    have same := behind_of_le sound (by omega : _ ≤ reach bytes - held.length)
      (Nat.le_refl (f.queued source).length)
    rw [all, came, same] at read
    exact .inl ⟨read, wants⟩
  | whole frame =>
    have decoded := Frame.decode_append (decode_of_whole came) (bytes.drop (reach bytes))
    rw [List.take_append_drop] at decoded
    exact absurd decoded (none frame)
  | refused e =>
    rw [came] at read
    refine .inr ⟨e, _, read, fun others => ?_⟩
    have refused := not_decode_of_refused came (bytes.drop (reach bytes) ++ others)
    rwa [← List.append_assoc, List.take_append_drop] at refused

/-- **Where nothing can come any more nobody waits for the rest of a frame.** -/
theorem receive_putBack_of_halted (settings : Settings) (inside : source.link < f.length)
    (halted : (f.incoming source).ending ≠ .live)
    (none : ∀ frame, Frame.decode (held ++ f.queued source) ≠ .ok frame) :
    ∃ e f', receive settings (f.putBack source held) source = (.error e, f') ∧
      ∀ direction span, e ≠ .link (.timeout direction span) := by
  have into : source.link < (f.putBack source held).length := by rwa [length_putBack]
  have still : ((f.putBack source held).incoming source).ending ≠ .live := by
    rw [incoming_putBack inside]
    exact halted
  cases met : readFrom settings source (f.putBack source held) with
  | mk result f' =>
    cases result with
    | ok frame =>
      have decoded := decode_of_readFrom into (congrArg Prod.fst met)
      rw [queued_putBack inside] at decoded
      exact absurd decoded (none frame)
    | error e =>
      refine ⟨e, f', receive_eq met, fun direction span late => ?_⟩
      have prompt := readFrom_ne_timeout settings into still direction span
      rw [met, late] at prompt
      exact prompt rfl

end Channel

end Telematics
