/-
# Telematics.Proofs.Channel.Stall -- receiving from a peer that pauses

A peer writes the bytes of some frames in portions and pauses as it likes, and a
side calls to receive, one call behind the other.  A call that waits too long
ends, and what it has taken by then is lost.

* As long as no call ends within a frame, the calls have received the first ones
  of the frames that are written, one for one, and the next call finds the
  following one (`received_until_stall`).  A call that times out at the beginning
  of a frame takes nothing and changes nothing.
* Behind a call that has ended within a frame nothing of that holds any more: the
  next call takes the rest of that frame for the beginning of one, and if the
  payload holds the bytes of frames it is these that are on their way
  (`intact_of_payload`).

So whoever gives up a connection with the first call that fails, as sessions do,
receives nothing but what was sent.  To receive at once is one way to take these
steps (`run_receive`).
-/
import Telematics.Proofs.Channel.Carried
import Telematics.Proofs.Channel.Portions

namespace Telematics.Channel

set_option autoImplicit false

open Link Wire

/-- How a call to receive has ended. -/
inductive Outcome where
  | received (frame : Frame)
  | refused (error : FrameError)
  /-- The time ran out when so much had been taken. -/
  | stalled (taken : List UInt8)
  deriving DecidableEq

/-- What a call returns. -/
def Outcome.result (settings : Settings) : Outcome → Except ChannelError Frame
  | .received frame => .ok frame
  | .refused e => .error (.frame e)
  | .stalled _ => .error (.link (.timeout .read settings.transferTimeout))

def Outcome.isReceived : Outcome → Bool
  | .received _ => true
  | _ => false

/-- The frames that some calls have received, in order. -/
def framesOf (outcomes : List Outcome) : List Frame :=
  outcomes.filterMap fun
    | .received frame => some frame
    | _ => none

/-- A peer that writes, and a side that calls to receive. -/
structure Intake where
  fabric : Fabric
  /-- What the peer has still to write. -/
  left : List UInt8
  /-- What the call that is under way has taken. -/
  held : List UInt8
  outcomes : List Outcome

/-- What happens next. -/
inductive Move where
  /-- The peer writes at most so many bytes, as the first of a portion or as more of it. -/
  | write (most : Nat) (begun : Bool)
  /-- The call reads at most so many bytes. -/
  | read (most : Nat)
  /-- The time of the call runs out, if it finds nothing. -/
  | expire

namespace Intake

def finish (s : Intake) (outcome : Outcome) : Intake :=
  { s with held := [], outcomes := s.outcomes ++ [outcome] }

/-- The call when some bytes have come. -/
def hold (s : Intake) (held : List UInt8) : Intake :=
  match readingOf held with
  | .wanting _ => { s with held }
  | .whole frame => s.finish (.received frame)
  | .refused e => s.finish (.refused e)

def write (source : Handle) (s : Intake) (most : Nat) (begun : Bool) : Intake :=
  match (s.fabric.incoming source).give? most begun s.left with
  | some (left, pipe) => { s with left, fabric := s.fabric.withIncoming source pipe }
  | none => s

def read (source : Handle) (s : Intake) (most : Nat) : Intake :=
  match readOn? most source s.fabric s.held with
  | some (held, fabric) => { s with fabric }.hold held
  | none => s

def expire (source : Handle) (s : Intake) : Intake :=
  if s.fabric.isReadable source then s else s.finish (.stalled s.held)

def step (source : Handle) (s : Intake) : Move → Intake
  | .write most begun => s.write source most begun
  | .read most => s.read source most
  | .expire => s.expire source

/-- What a number of moves lead to. -/
def run (source : Handle) (s : Intake) (moves : List Move) : Intake :=
  moves.foldl (step source) s

/-- A peer that is to write some frames, where nothing has been written or received. -/
def start (f : Fabric) (frames : List Frame) : Intake := ⟨f, Frame.encodeAll frames, [], []⟩

/-! ## As long as nothing is lost -/

/-- A call has received a frame or taken nothing. -/
def Harmless (outcome : Outcome) : Prop :=
  outcome = .stalled [] ∨ ∃ frame, outcome = .received frame

/-- The calls have received the first of some frames, and the others are on their way. -/
structure Intact (source : Handle) (frames : List Frame) (s : Intake) : Prop where
  inside : source.link < s.fabric.length
  sound : (s.fabric.incoming source).Sound
  harmless : ∀ outcome ∈ s.outcomes, Harmless outcome
  carries : ∃ rest, frames = framesOf s.outcomes ++ rest ∧
    Carries s.held (s.fabric.queued source) s.left rest

/-- Some calls were harmless, and the next one timed out within the next frame. -/
def Broken (frames : List Frame) (outcomes : List Outcome) : Prop :=
  ∃ before taken after frame others, outcomes = before ++ .stalled taken :: after ∧
    (∀ outcome ∈ before, Harmless outcome) ∧ frames = framesOf before ++ frame :: others ∧
    taken ≠ [] ∧ taken <+: frame.encode ∧ taken ≠ frame.encode

variable {source : Handle} {frames : List Frame} {s : Intake}

theorem framesOf_append (outcomes others : List Outcome) :
    framesOf (outcomes ++ others) = framesOf outcomes ++ framesOf others :=
  List.filterMap_append

theorem Intact.write (intact : s.Intact source frames) (most : Nat) (begun : Bool) :
    (s.write source most begun).Intact source frames := by
  cases given : (s.fabric.incoming source).give? most begun s.left with
  | none =>
    simp only [Intake.write, given]
    exact intact
  | some given' =>
    obtain ⟨left, pipe⟩ := given'
    obtain ⟨portion, -, split, queue, sound⟩ := Pipe.give?_spec intact.sound given
    obtain ⟨rest, all, carries⟩ := intact.carries
    have incoming := Fabric.incoming_withIncoming pipe intact.inside
    simp only [Intake.write, given]
    refine ⟨?_, by rwa [incoming], intact.harmless, rest, all, ?_⟩
    · simpa [Fabric.withIncoming, Fabric.update] using intact.inside
    · rw [split] at carries
      rw [Fabric.queued, incoming, queue]
      exact carries.give

theorem Intact.read (intact : s.Intact source frames) (most : Nat) :
    (s.read source most).Intact source frames := by
  cases came : readOn? most source s.fabric s.held with
  | none =>
    simp only [Intake.read, came]
    exact intact
  | some came' =>
    obtain ⟨held, fabric⟩ := came'
    obtain ⟨count, bytes, pipe, wanting, taken, rfl, rfl⟩ := readOn?_eq_some came
    obtain ⟨some, few, queue, sound⟩ := Pipe.take?_spec intact.sound taken
    obtain ⟨rest, all, carries⟩ := intact.carries
    have incoming := Fabric.incoming_withIncoming pipe intact.inside
    have inside : source.link < (s.fabric.withIncoming source pipe).length := by
      simpa [Fabric.withIncoming, Fabric.update] using intact.inside
    rw [Fabric.queued, queue] at carries
    have stillSound : ((s.fabric.withIncoming source pipe).incoming source).Sound := by
      rwa [incoming]
    rcases carries.take some wanting (Nat.le_trans few (Nat.min_le_right _ _)) with
      ⟨next, wants, goesOn⟩ | ⟨frame, others, rfl, isWhole, behind⟩
    · simp only [Intake.read, came, hold, wants]
      refine ⟨inside, stillSound, intact.harmless, rest, all, ?_⟩
      rwa [Fabric.queued, incoming]
    · simp only [Intake.read, came, hold, isWhole]
      refine ⟨inside, stillSound, ?_, others, ?_, ?_⟩
      · intro outcome member
        rcases List.mem_append.1 member with before | last
        · exact intact.harmless outcome before
        · exact .inr ⟨frame, List.mem_singleton.1 last⟩
      · show frames = framesOf (s.outcomes ++ [.received frame]) ++ others
        rw [framesOf_append, all, List.append_assoc]
        rfl
      · show Carries [] ((s.fabric.withIncoming source pipe).queued source) s.left others
        rwa [Fabric.queued, incoming]

theorem Intact.expire (intact : s.Intact source frames) :
    (s.expire source).Intact source frames ∨ Broken frames (s.expire source).outcomes := by
  unfold Intake.expire
  by_cases ready : s.fabric.isReadable source = true
  · rw [if_pos ready]
    exact .inl intact
  rw [if_neg ready]
  obtain ⟨rest, all, carries⟩ := intact.carries
  by_cases empty : s.held = []
  · left
    refine ⟨intact.inside, intact.sound, ?_, rest, ?_, by rwa [empty] at carries⟩
    · intro outcome member
      rcases List.mem_append.1 member with before | last
      · exact intact.harmless outcome before
      · rw [List.mem_singleton.1 last, empty]
        exact .inl rfl
    · show frames = framesOf (s.outcomes ++ [.stalled s.held]) ++ rest
      rw [framesOf_append, all, List.append_assoc]
      rfl
  · right
    obtain ⟨frame, others, rfl, first, notAll⟩ := carries.prefix_of_held empty
    exact ⟨s.outcomes, s.held, [], frame, others, rfl, intact.harmless, all, empty, first, notAll⟩

theorem outcomes_step (s : Intake) (source : Handle) (move : Move) :
    s.outcomes <+: (s.step source move).outcomes := by
  cases move with
  | write most begun =>
    show s.outcomes <+: (s.write source most begun).outcomes
    unfold write
    split <;> exact List.prefix_rfl
  | read most =>
    show s.outcomes <+: (s.read source most).outcomes
    unfold read
    split
    · unfold hold
      split
      · exact List.prefix_rfl
      · exact List.prefix_append _ _
      · exact List.prefix_append _ _
    · exact List.prefix_rfl
  | expire =>
    show s.outcomes <+: (s.expire source).outcomes
    unfold expire
    split
    · exact List.prefix_rfl
    · exact List.prefix_append _ _

theorem Broken.mono {outcomes more : List Outcome} (broken : Broken frames outcomes)
    (longer : outcomes <+: more) : Broken frames more := by
  obtain ⟨before, taken, after, frame, others, rfl, rest⟩ := broken
  obtain ⟨behind, rfl⟩ := longer
  exact ⟨before, taken, after ++ behind, frame, others, by simp, rest⟩

/-- Every run keeps things intact until a call has timed out within a frame. -/
theorem intact_run (moves : List Move)
    (so : s.Intact source frames ∨ Broken frames s.outcomes) :
    (s.run source moves).Intact source frames ∨ Broken frames (s.run source moves).outcomes := by
  induction moves generalizing s with
  | nil => exact so
  | cons move moves ih =>
    apply ih
    rcases so with intact | broken
    · cases move with
      | write most begun => exact .inl (intact.write most begun)
      | read most => exact .inl (intact.read most)
      | expire => exact intact.expire
    · exact .inr (broken.mono (outcomes_step s source move))

theorem intact_start {f : Fabric} (inside : source.link < f.length)
    (unused : f.incoming source = .new) (frames : List Frame) :
    (start f frames).Intact source frames where
  inside := inside
  sound := by
    show (f.incoming source).Sound
    rw [unused]
    exact Pipe.sound_new
  harmless := by
    intro outcome member
    cases member
  carries := by
    refine ⟨frames, rfl, ?_⟩
    show Carries [] (f.incoming source).queue (Frame.encodeAll frames) frames
    rw [unused]
    exact Carries.fresh frames

/-! ## Receiving at once -/

/-- To read on several times is a run of the call alone. -/
theorem run_readAll {mosts : List Nat} {held : List UInt8} {f : Fabric}
    (all : readAll? source mosts s.fabric s.held = some (held, f)) (some : mosts ≠ []) :
    s.run source (mosts.map .read) = ({ s with fabric := f } : Intake).hold held := by
  induction mosts generalizing s with
  | nil => exact absurd rfl some
  | cons most mosts ih =>
    obtain ⟨⟨next, fabric⟩, first, others⟩ := Option.bind_eq_some_iff.1 all
    have step : s.step source (.read most) = ({ s with fabric } : Intake).hold next := by
      simp only [step, read, first]
    show (s.step source (.read most)).run source (mosts.map .read) = _
    rw [step]
    cases mosts with
    | nil =>
      cases others
      rfl
    | cons more mosts =>
      obtain ⟨again, second, -⟩ := Option.bind_eq_some_iff.1 others
      obtain ⟨count, -, -, wanting, -⟩ := readOn?_eq_some second
      have goesOn : ({ s with fabric } : Intake).hold next = { s with fabric, held := next } := by
        simp only [hold, wanting]
      rw [goesOn]
      exact ih (s := { s with fabric, held := next }) others (List.cons_ne_nil _ _)

theorem behind_zero {f : Fabric} (inside : source.link < f.length) : behind f source 0 = f := by
  have same : (f.linkOf source).withIncoming source.side ((f.linkOf source).incoming source.side) =
      f[source.link] := by
    rw [Fabric.linkOf, List.getElem?_eq_getElem inside, Option.getD_some]
    cases source.side <;> rfl
  show f.set source.link _ = f
  rw [Pipe.advance_zero, Fabric.incoming, same, List.set_getElem_self]

/-- Nothing is left to be read where a reader wants more than there was. -/
theorem isReadable_behind {f : Fabric} {n : Nat} (inside : source.link < f.length)
    (sound : (f.incoming source).Sound) (all : (f.queued source).length ≤ n) :
    (behind f source n).isReadable source = false := by
  rw [Fabric.isReadable, incoming_behind inside, sound.advance_of_le all]
  rfl

theorem run_append (s : Intake) (moves others : List Move) :
    s.run source (moves ++ others) = (s.run source moves).run source others :=
  List.foldl_append

/-- **To receive at once is a run**: the call reads what there is, and waits in vain for the rest if
that is not a frame. -/
theorem run_receive (settings : Settings) (inside : source.link < s.fabric.length)
    (sound : (s.fabric.incoming source).Sound) (idle : s.held = []) :
    ∃ moves outcome, s.run source moves =
        { s with
          fabric := (receive settings s.fabric source).2
          outcomes := s.outcomes ++ [outcome] } ∧
      (receive settings s.fabric source).1 =
        (outcome.result settings).map fun frame => ⟨frame, some source⟩ := by
  have whole := receive_eq (readFrom_of_sound settings sound inside)
  generalize queue : s.fabric.queued source = bytes at whole
  rw [whole]
  rcases List.eq_nil_or_concat bytes with rfl | ⟨_, _, full⟩
  · have least : (s.fabric.queued source).length ≤ 0 := by
      rw [queue]
      exact Nat.le_refl 0
    have same : behind s.fabric source (reach []) = s.fabric := by
      rw [behind_of_le sound (Nat.le_trans least (Nat.zero_le _)) least, behind_zero inside]
    have quiet := isReadable_behind inside sound least
    rw [behind_zero inside] at quiet
    refine ⟨[.expire], .stalled [], ?_, rfl⟩
    show s.expire source = _
    simp only [expire, quiet, finish, idle, same]
    rfl
  · have some : s.fabric.queued source ≠ [] := by
      rw [queue, full]
      simp
    have short : ([] : List UInt8).length < reach [] := by decide
    obtain ⟨most, more, readings⟩ := exists_readAll? sound inside short some
    rw [List.nil_append, List.length_nil, Nat.sub_zero, queue, ← idle] at readings
    have reads := run_readAll readings (List.cons_ne_nil _ _)
    cases came : readingOf (bytes.take (reach bytes)) with
    | whole frame =>
      refine ⟨_, .received frame, reads.trans ?_, rfl⟩
      simp only [hold, came, finish, idle]
    | refused e =>
      refine ⟨_, .refused e, reads.trans ?_, rfl⟩
      simp only [hold, came, finish, idle]
    | wanting count =>
      refine ⟨(most :: more).map .read ++ [.expire], .stalled (bytes.take (reach bytes)), ?_, rfl⟩
      have all : (s.fabric.queued source).length ≤ reach bytes := by
        rw [queue]
        have taken := congrArg List.length (take_reach_of_wanting came)
        rw [List.length_take] at taken
        omega
      have quiet := isReadable_behind inside sound all
      rw [run_append, reads]
      simp only [hold, came]
      show Intake.expire source _ = _
      simp only [expire, quiet, finish, idle]
      rfl

end Intake

/-! ## Until a call ends within a frame, and after that -/

/-- What comes before the first call that fails is among what comes before any call that stalls. -/
theorem framesOf_takeWhile {before after : List Outcome} {frames rest : List Frame}
    (split : frames = framesOf before ++ rest)
    (fails : after = [] ∨ ∃ taken more, after = .stalled taken :: more) :
    framesOf ((before ++ after).takeWhile Outcome.isReceived) <+: frames := by
  have none : after.takeWhile Outcome.isReceived = [] := by
    rcases fails with rfl | ⟨taken, more, rfl⟩ <;> rfl
  have fewer : (before ++ after).takeWhile Outcome.isReceived <+: before := by
    rw [List.takeWhile_append, none, List.append_nil]
    split
    · exact List.prefix_rfl
    · exact List.takeWhile_prefix _
  rw [split]
  exact (fewer.filterMap _).trans (List.prefix_append _ _)

/-- Whoever has taken just the header of a frame and drops it finds the payload next, and takes a
payload that is a row of frames for these. -/
theorem intact_of_payload {source : Handle} {s : Intake} {outer : Frame}
    {nested others : List Frame} (inside : source.link < s.fabric.length)
    (sound : (s.fabric.incoming source).Sound) (empty : s.fabric.queued source = [])
    (carries : Carries outer.header.encode [] s.left (outer :: others))
    (payload : outer.payload.bytes = Frame.encodeAll nested) :
    Intake.Intact source (nested ++ others) { s with held := [], outcomes := [] } where
  inside := inside
  sound := sound
  harmless := by
    intro outcome member
    cases member
  carries := by
    have bytes := carries.bytes
    rw [Frame.encodeAll_cons, Frame.encode, List.append_assoc, payload, List.nil_append,
      List.append_cancel_left_eq, ← Frame.encodeAll_append] at bytes
    refine ⟨nested ++ others, rfl, ?_, Frame.partial_nil _⟩
    rw [empty]
    exact bytes

/-- **Nothing goes wrong until a call times out within a frame.**  Up to then the calls have received
the first ones of the frames that are written, one for one, and the others are on their way.  So
whoever stops at the first call that fails receives nothing but what is written. -/
theorem received_until_stall {f : Fabric} {source : Handle} (inside : source.link < f.length)
    (unused : f.incoming source = .new) (frames : List Frame) (moves : List Move) :
    let s := (Intake.start f frames).run source moves
    (∃ before after rest, s.outcomes = before ++ after ∧
      (∀ outcome ∈ before, outcome = .stalled [] ∨ ∃ frame, outcome = .received frame) ∧
      frames = framesOf before ++ rest ∧
      (after = [] ∧ s.held ++ (s.fabric.queued source ++ s.left) = Frame.encodeAll rest ∨
        ∃ taken more frame others, after = .stalled taken :: more ∧ rest = frame :: others ∧
          taken ≠ [] ∧ taken <+: frame.encode ∧ taken ≠ frame.encode)) ∧
    framesOf (s.outcomes.takeWhile Outcome.isReceived) <+: frames := by
  intro s
  have start := Intake.intact_start inside unused frames
  rcases Intake.intact_run moves (.inl start) with
    intact | ⟨before, taken, more, frame, others, outcomes, harmless, split, lost⟩
  · obtain ⟨rest, split, carries⟩ := intact.carries
    have whole := List.append_nil s.outcomes
    refine ⟨⟨s.outcomes, [], rest, whole.symm, intact.harmless, split, .inl ⟨rfl, carries.bytes⟩⟩, ?_⟩
    have first := framesOf_takeWhile split (.inl rfl)
    rwa [List.append_nil] at first
  · refine ⟨⟨before, _, frame :: others, outcomes, harmless, split,
      .inr ⟨taken, more, frame, others, rfl, rfl, lost⟩⟩, ?_⟩
    have stops : s.outcomes = before ++ .stalled taken :: more := outcomes
    rw [stops]
    exact framesOf_takeWhile split (.inr ⟨taken, more, rfl⟩)

section Example

/-- A frame that fits into the payload of another one. -/
def inner : Frame := ⟨⟨9, by decide⟩, 77, false, ⟨[0x6F, 0x66, 0x66], by decide⟩⟩

def outer : Frame := ⟨⟨3, by decide⟩, 1, false, ⟨inner.encode, by decide⟩⟩

def receiver : Handle := ⟨0, .far, unnamed⟩

/-- A pause between two frames, for longer than the call waits. -/
def pauseBetween : List Move :=
  [.write 51 false, .read 24, .read 27, .expire, .write 27 false, .read 24, .read 3]

theorem received_between_pauses :
    ((Intake.start [.new] [outer, inner]).run receiver pauseBetween).outcomes =
        [.received outer, .stalled [], .received inner] ∧
      framesOf (((Intake.start [.new] [outer, inner]).run receiver pauseBetween).outcomes.takeWhile
        Outcome.isReceived) <+: [outer, inner] :=
  ⟨by decide +kernel, (received_until_stall (by decide) rfl [outer, inner] pauseBetween).2⟩

/-- A pause between the header and the payload, for longer than the call waits. -/
def pauseWithin : List Move :=
  [.write 24 false, .read 24, .expire, .write 27 false, .read 24, .read 3]

/-- The message that is received has never been written as one. -/
theorem forged_after_stall :
    ((Intake.start [.new] [outer]).run receiver pauseWithin).outcomes =
        [.stalled outer.header.encode, .received inner] ∧
      ¬ (framesOf ((Intake.start [.new] [outer]).run receiver pauseWithin).outcomes).Sublist
        [outer] := by
  have outcomes : ((Intake.start [.new] [outer]).run receiver pauseWithin).outcomes =
      [.stalled outer.header.encode, .received inner] := by decide +kernel
  refine ⟨outcomes, ?_⟩
  rw [outcomes]
  intro sublist
  have same : inner = outer := List.mem_singleton.1 (sublist.subset List.mem_cons_self)
  revert same
  decide

end Example

end Telematics.Channel
