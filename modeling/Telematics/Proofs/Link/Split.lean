/-
# Telematics.Proofs.Link.Split -- a transfer does not depend on the portions

A socket moves the bytes of a transfer in portions of its own choice, or says that it
has come to its end, that it was blocked or that it failed.  A `Line` is told
beforehand what the calls to it lead to, and keeps the buffer of the transfer, the
bytes on the other side, and which part of the buffer each call was given.

Portions that follow each other are one portion (`move_move`).  So a transfer moves, at
once, what the portions come to before an answer moves nothing, and ends as that
answer says (`continueFrom_splits`): how the bytes were split makes no difference.
Whatever else a socket may be, its answers split a transfer in this way too
(`exists_splits`).
-/
import Telematics.Proofs.Link.Written

namespace Telematics.Link

set_option autoImplicit false

namespace Transfer

variable {σ : Type} {t : Transfer σ}

theorem run_ready (s : σ) : t.run true s = t.continueFrom 0 s := by
  rw [run]
  split
  · rename_i none
    rw [continueFrom_of_done (Nat.le_of_eq none)]
  · rfl

end Transfer

/-- A socket of which it is known what the calls will lead to. -/
structure Line where
  answers : List Attempt
  /-- The bytes that are to come, or those that have been written. -/
  stream : List UInt8
  buffer : List UInt8
  /-- Where the part of the buffer that a call was given begins, and how long it is. -/
  calls : List (Nat × Nat)
  deriving DecidableEq

namespace Line

/-- Moves some bytes between the stream and the buffer, from a place in the buffer on. -/
def move (direction : Direction) (place count : Nat) (l : Line) : Line :=
  match direction with
  | .read =>
    { l with
      stream := l.stream.drop count
      buffer := l.buffer.take place ++ (l.stream.take count ++ l.buffer.drop (place + count)) }
  | .write => { l with stream := l.stream ++ (l.buffer.drop place).take count }

/-- The line when a call has been given the last `n` bytes of the buffer. -/
def called (n : Nat) (l : Line) : Line :=
  { l with answers := l.answers.tail, calls := l.calls ++ [(l.buffer.length - n, n)] }

/-- A call for the last `n` bytes of the buffer. -/
def call (direction : Direction) (n : Nat) (l : Line) : Attempt × Line :=
  match l.answers with
  | .moved count :: _ =>
    (.moved count, (l.called n).move direction (l.buffer.length - n) count)
  | answer :: _ => (answer, l.called n)
  | [] => (.blocked, l.called n)

/-- Transfers the whole buffer. -/
def transfer (direction : Direction) (timeout : Span) (ready : Bool) (l : Line) :
    Except LinkError Nat × Line :=
  (Transfer.mk direction timeout l.buffer.length (call direction)).run ready l

end Line

/-- The answers to the calls for so many bytes: portions that come to `total`, and what has moved
nothing before that was all. -/
inductive Splits : Nat → List Attempt → Nat → Option Attempt → Prop where
  | all (more : List Attempt) : Splits 0 more 0 none
  | portion {left count total : Nat} {more : List Attempt} {stop : Option Attempt}
      (some : 0 < count) (within : count ≤ left) (rest : Splits (left - count) more total stop) :
      Splits left (.moved count :: more) (count + total) stop
  | stop {left : Nat} {answer : Attempt} {more : List Attempt} (short : 0 < left)
      (none : answer.count = 0) : Splits left (answer :: more) 0 (some answer)

/-- How a transfer ends that has moved so many bytes before something moved nothing. -/
def verdict (direction : Direction) (timeout : Span) (expected total : Nat) :
    Option Attempt → Except LinkError Nat
  | none => .ok expected
  | some (.moved _) => .error (.shortTransfer direction total expected)
  | some .blocked => .error (.timeout direction timeout)
  | some (.failed e) => .error (.io e)

theorem verdict_eq_ok_iff {direction : Direction} {timeout : Span} {expected total n : Nat}
    {stop : Option Attempt} :
    verdict direction timeout expected total stop = .ok n ↔ stop = none ∧ expected = n := by
  match stop with
  | none => simp [verdict]
  | some (.moved _) => simp [verdict]
  | some .blocked => simp [verdict]
  | some (.failed _) => simp [verdict]

theorem Splits.le {left total : Nat} {answers : List Attempt} {stop : Option Attempt}
    (splits : Splits left answers total stop) : total ≤ left := by
  induction splits with
  | all => exact Nat.le_refl _
  | portion _ _ _ ih => omega
  | stop => exact Nat.zero_le _

theorem Splits.stop_eq_none_iff {left total : Nat} {answers : List Attempt}
    {stop : Option Attempt} (splits : Splits left answers total stop) :
    stop = none ↔ total = left := by
  induction splits with
  | all => simp
  | portion some within rest ih => rw [ih]; omega
  | stop short _ => simp; omega

/-! ## Any socket -/

namespace Transfer

variable {σ : Type} {t : Transfer σ}

theorem exists_splits_from (modest : ∀ n s, (t.attempt n s).1.count ≤ n) {done : Nat} {s : σ}
    (within : done ≤ t.expected) :
    ∃ answers total stop, Splits (t.expected - done) answers total stop ∧
      (t.continueFrom done s).1 = verdict t.direction t.timeout t.expected (done + total) stop := by
  fun_induction t.continueFrom done s with
  | case1 done s short s' attempt =>
    exact ⟨[.moved 0], 0, some (.moved 0), .stop (by omega) rfl, rfl⟩
  | case2 done s short n s' attempt ih =>
    have few : n + 1 ≤ t.expected - done := by
      have asked := modest (t.expected - done) s
      rwa [attempt] at asked
    obtain ⟨answers, total, stop, splits, result⟩ := ih (by omega)
    rw [← Nat.sub_sub] at splits
    exact ⟨_, _, stop, .portion (Nat.succ_pos n) few splits, by rw [result, Nat.add_assoc]⟩
  | case3 done s short s' attempt =>
    exact ⟨[.blocked], 0, some .blocked, .stop (by omega) rfl, rfl⟩
  | case4 done s short e s' attempt =>
    exact ⟨[.failed e], 0, some (.failed e), .stop (by omega) rfl, rfl⟩
  | case5 done s all =>
    have same : done = t.expected := by omega
    subst same
    exact ⟨[], 0, none, by rw [Nat.sub_self]; exact .all [], rfl⟩

/-- Whatever a socket is, if no call moves more than it was to move then the answers to the calls
split the transfer, and it ends as they say. -/
theorem exists_splits (modest : ∀ n s, (t.attempt n s).1.count ≤ n) (s : σ) :
    ∃ answers total stop, Splits t.expected answers total stop ∧
      (t.run true s).1 = verdict t.direction t.timeout t.expected total stop := by
  obtain ⟨answers, total, stop, splits, result⟩ :=
    exists_splits_from modest (s := s) (Nat.zero_le t.expected)
  rw [Nat.zero_add] at result
  exact ⟨answers, total, stop, splits, by rw [run_ready, result]⟩

end Transfer

namespace Line

variable {direction : Direction} {l : Line}

/-! ## Moving bytes -/

/-- There is a place for so many bytes in the buffer, and there are as many to read. -/
structure Fits (direction : Direction) (place count : Nat) (l : Line) : Prop where
  place : place + count ≤ l.buffer.length
  stream : direction = .read → count ≤ l.stream.length

@[simp] theorem answers_move (place count : Nat) :
    (l.move direction place count).answers = l.answers := by
  cases direction <;> rfl

@[simp] theorem calls_move (place count : Nat) :
    (l.move direction place count).calls = l.calls := by
  cases direction <;> rfl

/-- What a call has been given makes no difference to what is moved. -/
theorem buffer_move_called (n place count : Nat) :
    ((l.called n).move direction place count).buffer = (l.move direction place count).buffer := by
  cases direction <;> rfl

theorem stream_move_called (n place count : Nat) :
    ((l.called n).move direction place count).stream = (l.move direction place count).stream := by
  cases direction <;> rfl

theorem move_zero (place : Nat) : l.move direction place 0 = l := by
  cases direction with
  | read => simp [move]
  | write => simp [move]

theorem length_buffer_move {place count : Nat} (fits : l.Fits direction place count) :
    (l.move direction place count).buffer.length = l.buffer.length := by
  have inside := fits.place
  cases direction with
  | write => rfl
  | read =>
    have there := fits.stream rfl
    simp only [move, List.length_append, List.length_take, List.length_drop]
    omega

/-- Portions that follow each other are one portion. -/
theorem move_move {place first others : Nat} (fits : l.Fits direction place (first + others)) :
    (l.move direction place first).move direction (place + first) others =
      l.move direction place (first + others) := by
  have inside := fits.place
  cases direction with
  | write =>
    simp only [move, List.take_add, List.drop_drop, List.append_assoc]
  | read =>
    have there := fits.stream rfl
    have front : (l.buffer.take place ++ l.stream.take first).length = place + first := by
      rw [List.length_append, List.length_take_of_le (by omega), List.length_take_of_le (by omega)]
    have split := List.append_assoc (l.buffer.take place) (l.stream.take first)
      (l.buffer.drop (place + first))
    have before : (l.move .read place first).buffer.take (place + first) =
        l.buffer.take place ++ l.stream.take first := by
      rw [move, ← split, List.take_left' front]
    have behind : (l.move .read place first).buffer.drop (place + first + others) =
        l.buffer.drop (place + (first + others)) := by
      rw [move, ← split, List.drop_append, front, List.drop_of_length_le (by omega),
        List.nil_append, Nat.add_sub_cancel_left, List.drop_drop, Nat.add_assoc]
    rw [move, before, behind]
    simp only [move, List.drop_drop, List.take_add, List.append_assoc]

/-! ## Transfers -/

/-- What a transfer comes to that goes on from a place in the buffer. -/
structure Ended (direction : Direction) (timeout : Span) (l : Line) (place total : Nat)
    (stop : Option Attempt) (ended : Except LinkError Nat × Line) : Prop where
  result : ended.1 = verdict direction timeout l.buffer.length (place + total) stop
  buffer : ended.2.buffer = (l.move direction place total).buffer
  stream : ended.2.stream = (l.move direction place total).stream
  /-- Every call was given the rest of the buffer, and there was some. -/
  calls : ∀ call ∈ ended.2.calls,
    call ∈ l.calls ∨ (call.1 + call.2 = l.buffer.length ∧ 0 < call.2)

theorem call_of_moved {count n : Nat} {more : List Attempt}
    (told : l.answers = .moved count :: more) :
    l.call direction n =
      (.moved count, (l.called n).move direction (l.buffer.length - n) count) := by
  rw [call, told]

theorem call_of_stop {answer : Attempt} {n : Nat} {more : List Attempt}
    (told : l.answers = answer :: more) (none : answer.count = 0) :
    l.call direction n = (answer, l.called n) := by
  cases answer with
  | moved count =>
    cases none
    rw [call_of_moved told, move_zero]
  | blocked => rw [call, told]
  | failed e => rw [call, told]

theorem Fits.first {place first others : Nat} (fits : l.Fits direction place (first + others)) :
    l.Fits direction place first where
  place := by have := fits.place; omega
  stream reads := by have := fits.stream reads; omega

theorem mem_calls_called {n : Nat} {call : Nat × Nat} (made : call ∈ (l.called n).calls)
    (inside : n ≤ l.buffer.length) (some : 0 < n) :
    call ∈ l.calls ∨ (call.1 + call.2 = l.buffer.length ∧ 0 < call.2) := by
  rcases List.mem_append.1 made with before | last
  · exact .inl before
  · cases List.mem_singleton.1 last
    exact .inr ⟨Nat.sub_add_cancel inside, some⟩

/-- A transfer moves at once what the portions come to, and ends as the answer says that moved
nothing. -/
theorem continueFrom_splits (timeout : Span) {left total : Nat} {answers : List Attempt}
    {stop : Option Attempt} (splits : Splits left answers total stop) {place : Nat} {l : Line}
    (told : l.answers = answers) (whole : place + left = l.buffer.length)
    (there : direction = .read → total ≤ l.stream.length) :
    l.Ended direction timeout place total stop
      ((Transfer.mk direction timeout l.buffer.length (call direction)).continueFrom place l) := by
  induction splits generalizing place l with
  | all more =>
    rw [Transfer.continueFrom_of_done (by simp only; omega)]
    refine ⟨?_, ?_, ?_, fun call before => .inl before⟩
    · rw [← whole]
      rfl
    · rw [move_zero]
    · rw [move_zero]
  | @portion left count total more stop some within rest ih =>
    have bound := rest.le
    have here : l.buffer.length - left = place := by omega
    have wanted : l.buffer.length - place = left := by omega
    have moved : l.call direction left = _ := call_of_moved told
    rw [here] at moved
    have fits : (l.called left).Fits direction place (count + total) :=
      ⟨by show place + (count + total) ≤ l.buffer.length; omega, there⟩
    let next := (l.called left).move direction place count
    have length : next.buffer.length = l.buffer.length := length_buffer_move fits.first
    have remain : direction = .read → total ≤ next.stream.length := by
      rintro rfl
      have enough := there rfl
      show total ≤ (l.stream.drop count).length
      rw [List.length_drop]
      omega
    have goesOn : next.Ended direction timeout (place + count) total stop _ :=
      ih (by rw [answers_move, called, told, List.tail_cons]) (by omega) remain
    rw [length] at goesOn
    rw [Transfer.continueFrom_of_moved (show place < l.buffer.length by omega) some
      (by rw [wanted]; exact moved)]
    refine ⟨?_, ?_, ?_, ?_⟩
    · rw [goesOn.result, length, Nat.add_assoc]
    · rw [goesOn.buffer, move_move fits, buffer_move_called]
    · rw [goesOn.stream, move_move fits, stream_move_called]
    · intro call made
      rcases goesOn.calls call made with before | after
      · rw [calls_move] at before
        exact mem_calls_called before (by omega) (by omega)
      · exact .inr (length ▸ after)
  | @stop left answer more short none =>
    have wanted : l.buffer.length - place = left := by omega
    have met : l.call direction left = _ := call_of_stop told none
    have ended : (Transfer.mk direction timeout l.buffer.length (call direction)).continueFrom
        place l = (verdict direction timeout l.buffer.length place (some answer),
          l.called left) := by
      rw [Transfer.continueFrom, if_pos (show place < l.buffer.length by omega)]
      simp only [wanted, met]
      cases answer with
      | moved count =>
        cases none
        rfl
      | blocked => rfl
      | failed e => rfl
    rw [ended]
    refine ⟨rfl, ?_, ?_, fun call made => mem_calls_called made (by omega) short⟩
    · rw [move_zero]
      rfl
    · rw [move_zero]
      rfl

theorem transfer_splits (timeout : Span) {total : Nat} {stop : Option Attempt}
    (splits : Splits l.buffer.length l.answers total stop)
    (there : direction = .read → total ≤ l.stream.length) :
    l.Ended direction timeout 0 total stop (l.transfer direction timeout true) := by
  rw [transfer, Transfer.run_ready]
  exact continueFrom_splits timeout splits rfl (Nat.zero_add _) there

/-- **A transfer does not depend on the portions.**  If a socket is ready, the whole buffer has been
transferred exactly if the portions come to its length before anything else happens, and then it
holds the next bytes of the stream, or stands behind the stream.  Otherwise the end is a short
transfer of as many bytes as have moved, a blocked socket a timeout, and a failure is passed on.  An
empty buffer is transferred without a call.  Another split of the same bytes gives the same result,
buffer and stream, and every call is given what is left of the buffer and no more. -/
theorem transfer_of_any_split (direction : Direction) (timeout : Span) (stream buffer : List UInt8)
    (answers : List Attempt) (total : Nat) (stop : Option Attempt)
    (splits : Splits buffer.length answers total stop)
    (there : direction = .read → total ≤ stream.length) :
    let ended := (Line.mk answers stream buffer []).transfer direction timeout true
    (ended.1 = .ok buffer.length ↔ total = buffer.length) ∧
    (direction = .read → total = buffer.length →
      ended.2.buffer = stream.take buffer.length ∧ ended.2.stream = stream.drop buffer.length) ∧
    (direction = .write → total = buffer.length →
      ended.2.buffer = buffer ∧ ended.2.stream = stream ++ buffer) ∧
    (stop = some (.moved 0) →
      ended.1 = .error (.shortTransfer direction total buffer.length) ∧ total < buffer.length) ∧
    (stop = some .blocked → ended.1 = .error (.timeout direction timeout)) ∧
    (∀ e, stop = some (.failed e) → ended.1 = .error (.io e)) ∧
    (buffer = [] → ∀ ready, (Line.mk answers stream buffer []).transfer direction timeout ready =
      (.ok 0, ⟨answers, stream, buffer, []⟩)) ∧
    (∀ others, Splits buffer.length others total stop →
      let other := (Line.mk others stream buffer []).transfer direction timeout true
      other.1 = ended.1 ∧ other.2.buffer = ended.2.buffer ∧ other.2.stream = ended.2.stream) ∧
    ∀ call ∈ ended.2.calls, call.1 + call.2 = buffer.length ∧ 0 < call.2 := by
  intro ended
  have ends : Ended direction timeout ⟨answers, stream, buffer, []⟩ 0 total stop ended :=
    transfer_splits timeout splits there
  have result : ended.1 = verdict direction timeout buffer.length total stop := by
    rw [ends.result, Nat.zero_add]
  refine ⟨?_, ?_, ?_, ?_, ?_, ?_, ?_, ?_, ?_⟩
  · rw [result, verdict_eq_ok_iff, splits.stop_eq_none_iff]
    exact and_iff_left rfl
  · rintro rfl rfl
    rw [ends.buffer, ends.stream]
    simp [move]
  · rintro rfl rfl
    rw [ends.buffer, ends.stream]
    simp [move]
  · rintro rfl
    have short : total ≠ buffer.length := fun all => by cases splits.stop_eq_none_iff.2 all
    exact ⟨result, Nat.lt_of_le_of_ne splits.le short⟩
  · rintro rfl
    exact result
  · rintro e rfl
    exact result
  · rintro rfl ready
    rfl
  · intro others same other
    have ends' : Ended direction timeout ⟨others, stream, buffer, []⟩ 0 total stop other :=
      transfer_splits timeout same there
    refine ⟨?_, ?_, ?_⟩
    · rw [ends'.result, ends.result]
    · rw [ends'.buffer, ends.buffer]
      cases direction <;> rfl
    · rw [ends'.stream, ends.stream]
      cases direction <;> rfl
  · intro call made
    rcases ends.calls call made with before | inside
    · cases before
    · exact inside

/-- Three bytes before the end where four are wanted, read as one and two or all at once. -/
theorem transfer_of_three_before_end :
    let timeout := Span.ofMilliseconds 50
    let line (answers : List Attempt) : Line := ⟨answers, [1, 2, 3], [9, 9, 9, 9], []⟩
    let parts := (line [.moved 1, .moved 2, .moved 0]).transfer .read timeout true
    let whole := (line [.moved 3, .moved 0]).transfer .read timeout true
    Splits 4 [.moved 1, .moved 2, .moved 0] 3 (some (.moved 0)) ∧
      parts.1 = .error (.shortTransfer .read 3 4) ∧ whole.1 = parts.1 ∧
      whole.2.buffer = parts.2.buffer ∧ whole.2.stream = parts.2.stream := by
  intro timeout line parts whole
  have split : Splits 4 [.moved 1, .moved 2, .moved 0] 3 (some (.moved 0)) :=
    .portion (by decide) (by decide)
      (.portion (by decide) (by decide) (.stop (by decide) rfl))
  have atOnce : Splits 4 [.moved 3, .moved 0] 3 (some (.moved 0)) :=
    .portion (by decide) (by decide) (.stop (by decide) rfl)
  obtain ⟨-, -, -, short, -, -, -, alike, -⟩ := transfer_of_any_split .read timeout [1, 2, 3]
    [9, 9, 9, 9] [.moved 1, .moved 2, .moved 0] 3 _ split fun _ => by decide
  exact ⟨split, (short rfl).1, alike _ atOnce⟩

end Line

end Telematics.Link
