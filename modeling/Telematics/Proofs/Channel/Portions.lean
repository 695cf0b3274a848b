/-
# Telematics.Proofs.Channel.Portions -- reading a frame is reading on

A frame is read from a connection as far as its first bytes say (`reach`): up to
the end of the frame, or of the header if it is refused.  Reading it at once
(`readFrom`) and reading on portion by portion (`readAll?`) come to the same end,
whatever has been read before and put back (`exists_readAll?`).
-/
import Telematics.Proofs.Channel.Reading
import Telematics.Proofs.Channel.Receive
import Telematics.Proofs.Link.Transfer

namespace Telematics

set_option autoImplicit false

open Link Wire

/-! ## How far a frame reaches -/

theorem Wire.peekLength_append {held : List UInt8} (others : List UInt8)
    (enough : headerLength ≤ held.length) : peekLength (held ++ others) = peekLength held := by
  by_cases marked : held.take marker.length = marker
  · obtain ⟨header, whole⟩ := Header.exists_encode_append enough marked
    rw [whole, List.append_assoc, peekLength_encode_append, peekLength_encode_append]
  · have first : marker.length ≤ held.length := Nat.le_trans (by decide) enough
    have refused := Header.parse_of_take_ne_marker first marked
    have still : (held ++ others).take marker.length ≠ marker := by
      rwa [List.take_append_of_le_length first]
    have stillRefused := Header.parse_of_take_ne_marker
      (by rw [List.length_append]; omega) still
    simp only [peekLength, refused, stillRefused, bind, Except.bind]

theorem Wire.peekLength_take {bytes : List UInt8} {n : Nat} (header : headerLength ≤ n)
    (enough : headerLength ≤ bytes.length) : peekLength (bytes.take n) = peekLength bytes := by
  have taken : headerLength ≤ (bytes.take n).length := by
    rw [List.length_take]
    omega
  have same := peekLength_append (bytes.drop n) taken
  rwa [List.take_append_drop, eq_comm] at same

namespace Channel

/-- How many bytes a reader of a frame takes from the front of some, if there are as many. -/
def reach (bytes : List UInt8) : Nat :=
  match peekLength bytes with
  | .ok length => if Payload.limit < length then headerLength else headerLength + length
  | .error _ => headerLength

theorem headerLength_le_reach (bytes : List UInt8) : headerLength ≤ reach bytes := by
  unfold reach
  split
  · split <;> omega
  · exact Nat.le_refl _

theorem reach_append {held : List UInt8} (others : List UInt8)
    (enough : headerLength ≤ held.length) : reach (held ++ others) = reach held := by
  rw [reach, peekLength_append others enough, reach]

theorem reach_of_lt {bytes : List UInt8} (few : bytes.length < headerLength) :
    reach bytes = headerLength := by
  have refused : ∃ e, peekLength bytes = .error e := by
    cases parsed : Header.parse bytes with
    | error e => exact ⟨e, by simp only [peekLength, parsed, bind, Except.bind]⟩
    | ok header => exact absurd (Header.length_of_parse parsed).1 (Nat.not_le.2 few)
  obtain ⟨e, refused⟩ := refused
  simp only [reach, refused]

theorem readingOf_of_lt_reach {held : List UInt8} (short : held.length < reach held) :
    readingOf held = .wanting (reach held - held.length) := by
  rcases Nat.lt_or_ge held.length headerLength with few | enough
  · rw [readingOf, if_pos few, reach_of_lt few]
  · unfold reach at short ⊢
    unfold readingOf
    rw [if_neg (Nat.not_lt.2 enough)]
    split at short
    · rename_i length peeked
      split at short
      · omega
      · rename_i allowed
        simp only [peeked, if_neg allowed, if_pos short]
    · omega

theorem lt_reach_of_wanting {held : List UInt8} {count : Nat}
    (wanting : readingOf held = .wanting count) : held.length < reach held := by
  rcases Nat.lt_or_ge held.length (reach held) with short | all
  · exact short
  · have enough := Nat.le_trans (headerLength_le_reach held) all
    unfold reach at all
    unfold readingOf at wanting
    rw [if_neg (Nat.not_lt.2 enough)] at wanting
    split at wanting
    · cases wanting
    · rename_i length peeked
      simp only [peeked] at all
      split at wanting
      · cases wanting
      · rename_i allowed
        rw [if_neg allowed] at all
        rw [if_neg (Nat.not_lt.2 all)] at wanting
        split at wanting <;> cases wanting

/-! ## Reading at once -/

/-- What reading a frame comes to when nothing is left to be read. -/
def Reading.result (timeout : Span) : Reading → Except ChannelError Frame
  | .wanting _ => .error (.link (.timeout .read timeout))
  | .whole frame => .ok frame
  | .refused e => .error (.frame e)

theorem readingOf_of_bad_header {held : List UInt8} {e : FrameError}
    (enough : headerLength ≤ held.length) (peeked : peekLength held = .error e) :
    readingOf held = .refused e := by
  rw [readingOf, if_neg (Nat.not_lt.2 enough)]
  simp only [peeked]

theorem readingOf_of_too_long {held : List UInt8} {length : Nat}
    (enough : headerLength ≤ held.length) (peeked : peekLength held = .ok length)
    (long : Payload.limit < length) :
    readingOf held = .refused (.lengthTooLarge length Payload.limit) := by
  rw [readingOf, if_neg (Nat.not_lt.2 enough)]
  simp only [peeked, if_pos long]

theorem result_readingOf {held : List UInt8} {length : Nat} {timeout : Span}
    (enough : headerLength ≤ held.length) (peeked : peekLength held = .ok length)
    (allowed : length ≤ Payload.limit) (whole : headerLength + length ≤ held.length) :
    (readingOf held).result timeout = (Frame.decode held).mapError .frame := by
  rw [readingOf, if_neg (Nat.not_lt.2 enough)]
  simp only [peeked, if_neg (Nat.not_lt.2 allowed), if_neg (Nat.not_lt.2 whole)]
  cases Frame.decode held <;> rfl

variable {f : Fabric} {source : Handle}

theorem behind_behind (inside : source.link < f.length) (m n : Nat) :
    behind (behind f source m) source n = behind f source (m + n) := by
  rw [behind, incoming_behind inside, Pipe.advance_advance, behind,
    Fabric.withIncoming_withIncoming _ _ inside]
  rfl

theorem behind_of_le (sound : (f.incoming source).Sound) {m n : Nat}
    (all : (f.queued source).length ≤ m) (more : (f.queued source).length ≤ n) :
    behind f source m = behind f source n := by
  rw [behind, behind, sound.advance_of_le all, sound.advance_of_le more]

theorem sound_behind (sound : (f.incoming source).Sound) (inside : source.link < f.length)
    (n : Nat) : ((behind f source n).incoming source).Sound := by
  rw [incoming_behind inside]
  exact sound.advance n

theorem read_of_sound (settings : Settings) (sound : (f.incoming source).Sound) (n : Nat) :
    f.read source settings.transferTimeout n =
      (if n ≤ (f.queued source).length then .ok ((f.queued source).take n)
        else .error (.timeout .read settings.transferTimeout), behind f source n) := by
  rw [Fabric.read_eq, sound.read_eq]
  rfl

/-- A frame is read as far as it reaches, and what that comes to can be seen from its bytes. -/
theorem readFrom_of_sound (settings : Settings) (sound : (f.incoming source).Sound)
    (inside : source.link < f.length) :
    readFrom settings source f =
      ((readingOf ((f.queued source).take (reach (f.queued source)))).result
          settings.transferTimeout,
        behind f source (reach (f.queued source))) := by
  generalize queued : f.queued source = bytes
  have header := read_of_sound settings sound headerLength
  rw [queued] at header
  rcases Nat.lt_or_ge bytes.length headerLength with few | enough
  · rw [if_neg (Nat.not_le.2 few)] at header
    rw [reach_of_lt few, List.take_of_length_le (Nat.le_of_lt few),
      readingOf_of_lt_reach (by rwa [reach_of_lt few])]
    simp only [readFrom, readFrame, header, Reading.result]
  rw [if_pos enough] at header
  have first : headerLength ≤ (bytes.take headerLength).length :=
    Nat.le_of_eq (List.length_take_of_le enough).symm
  have peeked := peekLength_take (Nat.le_refl _) enough
  simp only [readFrom, readFrame, header, peeked]
  cases announced : peekLength bytes with
  | error e =>
    rw [announced] at peeked
    simp only [reach, announced, readingOf_of_bad_header first peeked, Reading.result]
  | ok length =>
    rw [announced] at peeked
    simp only [reach, announced]
    split
    · rename_i long
      simp only [readingOf_of_too_long first peeked long, Reading.result]
    rename_i allowed
    have left : (behind f source headerLength).queued source = bytes.drop headerLength := by
      rw [queued_behind inside, queued]
    have payload := read_of_sound settings (sound_behind sound inside headerLength) length
    rw [left, List.length_drop, behind_behind inside] at payload
    have stillPeeked := peekLength_take (Nat.le_add_right headerLength length) enough
    rw [announced] at stillPeeked
    simp only [payload]
    rcases Nat.lt_or_ge (bytes.length - headerLength) length with few | whole
    · have all : bytes.take (headerLength + length) = bytes :=
        List.take_of_length_le (by omega)
      rw [all] at stillPeeked ⊢
      have short : bytes.length < reach bytes := by
        simp only [reach, announced, if_neg allowed]
        omega
      rw [if_neg (Nat.not_le.2 few), readingOf_of_lt_reach short]
      rfl
    · have length_eq : (bytes.take (headerLength + length)).length = headerLength + length :=
        List.length_take_of_le (by omega)
      rw [if_pos whole, result_readingOf (by omega) stillPeeked (by omega) (by omega)]
      simp only [List.take_add]

/-! ## Reading on -/

/-- Attempts to read on, one after the other, when some bytes have come. -/
def readAll? (source : Handle) : List Nat → Fabric → List UInt8 → Option (List UInt8 × Fabric)
  | [], f, held => some (held, f)
  | most :: more, f, held =>
    (readOn? most source f held).bind fun (held, f) => readAll? source more f held

theorem readOn?_of_lt_reach {held : List UInt8} (short : held.length < reach held)
    (queued : f.queued source ≠ []) :
    readOn? (reach held - held.length) source f held =
      some (held ++ (f.queued source).take (reach held - held.length),
        behind f source (reach held - held.length)) := by
  rw [readOn?, readingOf_of_lt_reach short]
  simp only [Nat.min_self, Pipe.take?_of_queue queued (Nat.sub_pos_of_lt short)]
  rfl

theorem lt_reach_append {held : List UInt8} (short : held.length < reach held)
    (others : List UInt8) : held.length < reach (held ++ others) := by
  rcases Nat.lt_or_ge held.length headerLength with few | enough
  · exact Nat.lt_of_lt_of_le few (headerLength_le_reach _)
  · rwa [reach_append others enough]

/-- A reader that still wants bytes has taken all there are. -/
theorem take_reach_of_wanting {bytes : List UInt8} {count : Nat}
    (wanting : readingOf (bytes.take (reach bytes)) = .wanting count) :
    bytes.take (reach bytes) = bytes := by
  rcases Nat.lt_or_ge bytes.length (reach bytes) with short | enough
  · exact List.take_of_length_le (Nat.le_of_lt short)
  · have taken : (bytes.take (reach bytes)).length = reach bytes := List.length_take_of_le enough
    have header : headerLength ≤ (bytes.take (reach bytes)).length := by
      rw [taken]
      exact headerLength_le_reach bytes
    have same := reach_append (bytes.drop (reach bytes)) header
    rw [List.take_append_drop] at same
    have short := lt_reach_of_wanting wanting
    omega

theorem append_take_eq {held queued : List UInt8} {n : Nat} (more : held.length ≤ n) :
    held ++ queued.take (n - held.length) = (held ++ queued).take n := by
  rw [List.take_append, List.take_of_length_le more]

theorem readAll?_singleton {most : Nat} {held held' : List UInt8} {f' : Fabric}
    (read : readOn? most source f held = some (held', f')) :
    readAll? source [most] f held = some (held', f') := by
  rw [readAll?, read]
  rfl

theorem readOn?_of_header {held : List UInt8} (enough : headerLength ≤ held.length)
    (short : held.length < reach held) (queued : f.queued source ≠ []) :
    readOn? (reach held - held.length) source f held =
      some ((held ++ f.queued source).take (reach (held ++ f.queued source)),
        behind f source (reach (held ++ f.queued source) - held.length)) := by
  rw [readOn?_of_lt_reach short queued, append_take_eq (Nat.le_of_lt short),
    reach_append _ enough]

/-- **Reading on goes as far as the frame reaches**, in two portions at most. -/
theorem exists_readAll? {held : List UInt8} (sound : (f.incoming source).Sound)
    (inside : source.link < f.length) (short : held.length < reach held)
    (queued : f.queued source ≠ []) :
    ∃ most more, readAll? source (most :: more) f held =
      some ((held ++ f.queued source).take (reach (held ++ f.queued source)),
        behind f source (reach (held ++ f.queued source) - held.length)) := by
  rcases Nat.lt_or_ge held.length headerLength with few | enough
  case inr => exact ⟨_, [], readAll?_singleton (readOn?_of_header enough short queued)⟩
  -- The header has to be completed before it is known how far the frame reaches.
  have once := readOn?_of_lt_reach short queued
  rw [reach_of_lt few, append_take_eq (Nat.le_of_lt few)] at once
  generalize whole : held ++ f.queued source = bytes at once ⊢
  have length : bytes.length = held.length + (f.queued source).length := by
    rw [← whole, List.length_append]
  have least := headerLength_le_reach bytes
  rcases Nat.lt_or_ge headerLength bytes.length with more | none
  case inr =>
    have last := behind_of_le sound (by omega : _ ≤ headerLength - held.length)
      (by omega : _ ≤ reach bytes - held.length)
    rw [List.take_of_length_le none, last] at once
    rw [List.take_of_length_le (Nat.le_trans none least)]
    exact ⟨_, [], readAll?_singleton once⟩
  rcases Nat.eq_or_lt_of_le least with all | beyond
  · rw [all] at once
    exact ⟨_, [], readAll?_singleton once⟩
  have header : (bytes.take headerLength).length = headerLength :=
    List.length_take_of_le (Nat.le_of_lt more)
  have left : (behind f source (headerLength - held.length)).queued source =
      bytes.drop headerLength := by
    rw [queued_behind inside, ← whole, List.drop_append,
      List.drop_of_length_le (Nat.le_of_lt few), List.nil_append]
  have same : reach (bytes.take headerLength) = reach bytes := by
    have grown := reach_append (bytes.drop headerLength) (Nat.le_of_eq header.symm)
    rwa [List.take_append_drop, eq_comm] at grown
  have short : (bytes.take headerLength).length < reach (bytes.take headerLength) := by
    rw [same, header]
    exact beyond
  have again := readOn?_of_header (Nat.le_of_eq header.symm) short
    (by rw [left]; simpa using more)
  have sum : headerLength - held.length + (reach bytes - headerLength) =
      reach bytes - held.length := by omega
  rw [left, List.take_append_drop, header, behind_behind inside, sum] at again
  refine ⟨headerLength - held.length, [reach (bytes.take headerLength) - headerLength], ?_⟩
  rw [readAll?, once, Option.bind_some]
  exact readAll?_singleton again

/-- What has been read and is put back makes no difference to reading at once. -/
theorem readFrom_putBack (settings : Settings) {held : List UInt8}
    (sound : (f.incoming source).Sound) (inside : source.link < f.length)
    (short : held.length < reach held) (some : held ++ f.queued source ≠ []) :
    readFrom settings source (f.putBack source held) =
      ((readingOf ((held ++ f.queued source).take (reach (held ++ f.queued source)))).result
          settings.transferTimeout,
        behind f source (reach (held ++ f.queued source) - held.length)) := by
  have incoming : (f.putBack source held).incoming source = (f.incoming source).putBack held :=
    Fabric.incoming_withIncoming _ inside
  have all : (f.putBack source held).queued source = held ++ f.queued source := by
    rw [Fabric.queued, incoming]
    rfl
  have stillInside : source.link < (f.putBack source held).length := by
    simpa [Fabric.putBack, Fabric.withIncoming, Fabric.update] using inside
  have more := lt_reach_append short (f.queued source)
  rw [readFrom_of_sound settings (by rw [incoming]; exact sound.putBack some) stillInside,
    all, behind, incoming, Pipe.advance_putBack _ more, Fabric.putBack,
    Fabric.withIncoming_withIncoming _ _ inside]
  rfl

end Channel

end Telematics
