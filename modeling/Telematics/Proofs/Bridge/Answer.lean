/-
# Telematics.Proofs.Bridge.Answer -- answering those who ask for the state

Whoever asks for the state of the registry with a reply required is answered at
once, on the connection that the request came on, with the type and the number
of the request.  The answer is the whole registry, unless that is as long as the
limit of a payload: then it is refused before anything is written, the handler
notes that, and whoever has asked waits until its own time is up.  The handler
does not look at how long a snapshot is; one participant with a long name is
enough to make it too long.
-/
import Mathlib.Data.String.Basic
import Telematics.Bridge.Handler
import Telematics.Proofs.Channel.Replying
import Telematics.Proofs.Shutdown.Called
import Telematics.Proofs.Text.Utf8

namespace Telematics

set_option autoImplicit false

open Link Wire

/-- Whoever finds the reply to its request finds nothing else. -/
theorem Channel.collect_of_queued {f : Fabric} (settings : Channel.Settings) {source : Handle}
    {asked answer : Frame} (queued : f.queued source = answer.encode)
    (same : answer.sequence = asked.sequence) :
    (Channel.collect settings f source asked).1 = .ok answer.payload := by
  have whole : f.queued source = answer.encode ++ [] := by rw [List.append_nil, queued]
  exact Channel.collect_of_encode settings whole same

/-- What one side reads is what the side across writes. -/
theorem Link.Fabric.incoming_across (f : Fabric) {here there : Handle}
    (link : there.link = here.link) (side : there.side = here.side.other) :
    f.incoming there = f.outgoing here := by
  have same : f.linkOf there = f.linkOf here := by rw [linkOf, linkOf, link]
  rw [incoming, same, side, Connection.incoming_other]
  rfl

theorem Link.Fabric.isConnected_of_sound {f : Fabric} {h : Handle} (sound : (f.outgoing h).Sound) :
    f.isConnected h = true := by
  have live := sound.live
  unfold outgoing at live
  revert live
  cases h.side <;> simp +contextual [isConnected, Connection.isHungUp, Connection.outgoing]

namespace Bridge

open Shutdown Text

variable {ρ : Type} {f : Fabric} {message : Message Handle} {destination : Handle}

/-- A snapshot holds all who take part, and nobody else. -/
theorem mem_snapshot_iff {r : Registry ρ} {id : Identity} {status : Status} :
    (id, status) ∈ r.snapshot ↔ r.status? id = some status := by
  rw [Registry.snapshot, List.mem_mergeSort, Registry.status?_eq_some_iff]
  simp

theorem take_of_status (rows : Snapshot) (state : State)
    (query : message.frame.type.code = statusQuery) (asks : message.frame.replyRequired = true) :
    (handler rows).take state message = (state.count, some rows.bytes) := by
  have asked : requestOf? message = some .status := by rw [requestOf?, if_pos query]
  have same : state.count.meet .status = state.count := by simp [State.meet]
  simp only [handler, asked, asks, if_true, same, answerTo]

/-- What is replied to whoever asks for the state decides what becomes of the request. -/
theorem run_of_status (rows : Snapshot) (settings : Channel.Settings) (state : State)
    (query : message.frame.type.code = statusQuery) (asks : message.frame.replyRequired = true) :
    (handler rows).run settings state f message =
      ((handler rows).note state.count message
          (Channel.reply settings f message (Snapshot.bytes rows)).1,
        (Channel.reply settings f message (Snapshot.bytes rows)).2) := by
  simp only [Handler.run, take_of_status rows state query asks]

/-- Nobody is told anything of a state that is too long. -/
theorem run_of_long {rows : Snapshot} (settings : Channel.Settings) (state : State)
    (query : message.frame.type.code = statusQuery) (asks : message.frame.replyRequired = true)
    (addressed : message.destination = some destination)
    (long : Payload.limit ≤ (Snapshot.bytes rows).length) :
    (handler rows).run settings state f message =
      (state.count.warn (.replyFailed message.frame.sequence
        (.message (.payloadTooLarge (Snapshot.bytes rows).length Payload.limit))), f) := by
  rw [run_of_status rows settings state query asks,
    Channel.reply_of_long settings asks addressed long]
  rfl

/-- **Who asks for the state is answered with all of it, unless it is too long.** -/
theorem status_answered_within_limit (r : Registry ρ) (settings : Channel.Settings)
    (state : State) (query : message.frame.type.code = statusQuery)
    (asks : message.frame.replyRequired = true)
    (addressed : message.destination = some destination) (inside : destination.link < f.length)
    (sound : (f.outgoing destination).Sound) :
    let reached := (handler r.snapshot).run settings state f message
    (∀ id status, (id, status) ∈ r.snapshot ↔ r.status? id = some status) ∧
    (∀ short : (Snapshot.bytes r.snapshot).length < Payload.limit,
      let answer := Channel.answerFrame message ⟨Snapshot.bytes r.snapshot, Nat.le_of_lt short⟩
      ((∃ pipe, reached = (state.count, f.withOutgoing destination pipe) ∧
          pipe.queue = (f.outgoing destination).queue ++ answer.encode) ∨
        (f.outgoing destination).queue ≠ [] ∧
          reached.1 = state.count.warn (.replyFailed message.frame.sequence
            (.link (.timeout .write settings.transferTimeout)))) ∧
      ((f.outgoing destination).queue = [] →
        ∀ (peer : Handle) (theirs : Channel.Settings) (asked : Frame),
          peer.link = destination.link → peer.side = destination.side.other →
          asked.sequence = message.frame.sequence →
          (Channel.collect theirs reached.2 peer asked).1 =
            .ok ⟨Snapshot.bytes r.snapshot, Nat.le_of_lt short⟩)) ∧
    (Payload.limit ≤ (Snapshot.bytes r.snapshot).length →
      reached = (state.count.warn (.replyFailed message.frame.sequence
        (.message (.payloadTooLarge (Snapshot.bytes r.snapshot).length Payload.limit))), f)) := by
  intro reached
  have ran : reached = _ := run_of_status r.snapshot settings state query asks
  refine ⟨fun id status => mem_snapshot_iff, ?_, run_of_long settings state query asks addressed⟩
  · intro short answer
    have connected := Fabric.isConnected_of_sound sound
    have replied : Channel.reply settings f message (Snapshot.bytes r.snapshot) = _ :=
      @Channel.reply_of_short f message destination settings answer.payload asks addressed connected
        short
    rw [Fabric.write_eq sound.live] at replied
    have length : answer.encode.length = headerLength + (Snapshot.bytes r.snapshot).length :=
      answer.length_encode
    have header : headerLength = 24 := rfl
    have limit : Payload.limit = 65536 := rfl
    have packet : Packet.sizeLimit = 36544 := rfl
    have some : answer.encode ≠ [] := List.ne_nil_of_length_pos (by omega)
    rcases sound.write_cases settings.transferTimeout some with
      ⟨pipe, late⟩ | ⟨pipe, written, queue, -⟩
    · have full : (f.outgoing destination).queue ≠ [] := by
        intro empty
        have all := Pipe.write_new settings.transferTimeout (by omega : answer.encode.length ≤ _)
        rw [sound.eq_new empty] at late
        rw [late] at all
        cases all
      refine ⟨.inr ⟨full, ?_⟩, fun empty => absurd empty full⟩
      rw [ran, replied]
      show (handler r.snapshot).note state.count message
        ((((f.outgoing destination).write answer.encode false settings.transferTimeout).1.map
          fun _ => ()).mapError .link) = _
      rw [late]
      rfl
    · have whole : reached = (state.count, f.withOutgoing destination pipe) := by
        rw [ran, replied]
        show ((handler r.snapshot).note state.count message
          ((((f.outgoing destination).write answer.encode false settings.transferTimeout).1.map
            fun _ => ()).mapError .link), f.withOutgoing destination
          ((f.outgoing destination).write answer.encode false settings.transferTimeout).2) = _
        rw [written]
        rfl
      refine ⟨.inl ⟨pipe, whole, queue⟩, fun empty peer theirs asked link side same => ?_⟩
      rw [whole]
      have there : (f.withOutgoing destination pipe).queued peer = answer.encode := by
        rw [Fabric.queued, Fabric.incoming_across _ link side,
          Fabric.outgoing_withOutgoing _ inside, queue, empty, List.nil_append]
      exact Channel.collect_of_queued theirs there same.symm

/-! ## How long a snapshot is -/

theorem length_bytes (rows : Snapshot) :
    (Snapshot.bytes rows).length = rows.toJson.utf8ByteSize := by
  rw [Snapshot.bytes, toList_eq, Array.length_toList]
  exact String.size_toByteArray

theorem utf8ByteSize_between (opening s closing : String) :
    (opening ++ s ++ closing).utf8ByteSize =
      opening.utf8ByteSize + s.utf8ByteSize + closing.utf8ByteSize := by
  rw [String.utf8ByteSize_append, String.utf8ByteSize_append]

theorem utf8ByteSize_named (name : String) :
    (Identity.named name).toJson.utf8ByteSize = (Json.quote name).utf8ByteSize + 10 := by
  have opening : "\x7b\"Named\":".utf8ByteSize = 9 := by decide
  have closing : "\x7d".utf8ByteSize = 1 := by decide
  rw [Identity.toJson, utf8ByteSize_between, opening, closing]
  omega

theorem utf8ByteSize_row (row : Identity × Status) :
    (Snapshot.rowJson row).utf8ByteSize = row.1.toJson.utf8ByteSize +
      (Json.quote row.1.name).utf8ByteSize + row.2.toJson.utf8ByteSize + 31 := by
  have identity : "\x7b\"identity\":".utf8ByteSize = 12 := by decide
  have name : ",\"name\":".utf8ByteSize = 8 := by decide
  have status : ",\"status\":".utf8ByteSize = 10 := by decide
  have closing : "\x7d".utf8ByteSize = 1 := by decide
  have cut : (Snapshot.rowJson row).utf8ByteSize =
      _ + row.2.toJson.utf8ByteSize + "\x7d".utf8ByteSize := utf8ByteSize_between _ _ _
  rw [cut, closing, utf8ByteSize_between, status, utf8ByteSize_between, identity, name]
  omega

section Example

/-- A registry with one participant, which has finished and has a name of so many letters. -/
def lone (letters : Nat) : Registry Unit :=
  ⟨[⟨.named (String.ofList (List.replicate letters 'a')), (), .shutdownCompleted⟩], by simp⟩

theorem utf8ByteSize_quote (n : Nat) :
    (Json.quote (String.ofList (List.replicate n 'a'))).utf8ByteSize = n + 2 := by
  have one : Json.escape 'a' = ['a'] := by decide
  have letter : 'a'.utf8Size = 1 := by decide
  have mark : '"'.utf8Size = 1 := by decide
  have size : String.utf8Len ((List.replicate n 'a').flatMap Json.escape) = n := by
    induction n with
    | zero => rfl
    | succ n ih =>
      rw [List.replicate_succ, List.flatMap_cons, one, String.utf8Len_append, ih,
        String.utf8Len_cons, String.utf8Len_nil, letter]
      omega
  rw [Json.quote, Json.quoted, String.toList_ofList, String.utf8ByteSize_ofList,
    String.utf8Len_cons, String.utf8Len_append, size, String.utf8Len_cons, String.utf8Len_nil, mark]

theorem length_snapshot_lone (letters : Nat) :
    (Snapshot.bytes (lone letters).snapshot).length = 2 * letters + 66 := by
  have rows : (lone letters).snapshot =
      [(.named (String.ofList (List.replicate letters 'a')), .shutdownCompleted)] :=
    List.mergeSort_singleton _
  have alone : ∀ s : String, ",".intercalate [s] = s := fun _ => rfl
  have word : Status.shutdownCompleted.toJson.utf8ByteSize = 19 := by decide
  have opening : "[".utf8ByteSize = 1 := by decide
  have closing : "]".utf8ByteSize = 1 := by decide
  rw [rows, length_bytes, Snapshot.toJson, List.map_singleton, alone, utf8ByteSize_between,
    opening, closing, utf8ByteSize_row, utf8ByteSize_named, word, Identity.name, utf8ByteSize_quote]
  omega

/-- A peer and the session that its query comes from. -/
def peer : Handle := ⟨0, .near, unnamed⟩
def caller : Handle := ⟨0, .far, unnamed⟩

def query : Message Handle := ⟨⟨⟨statusQuery, by decide⟩, 9, true, .empty⟩, some caller⟩

/-- Two bytes below the limit: the peer gets what it has asked for. -/
theorem snapshot_below_limit_answered :
    (Snapshot.bytes (lone 32734).snapshot).length = 65534 ∧
      ∃ within, (Channel.collect .standard ((handler (lone 32734).snapshot).run .standard
          ⟨false, 0, []⟩ [.new] query).2 peer query.frame).1 =
        .ok ⟨Snapshot.bytes (lone 32734).snapshot, within⟩ := by
  have length : (Snapshot.bytes (lone 32734).snapshot).length = 65534 := by
    rw [length_snapshot_lone]
  have short : (Snapshot.bytes (lone 32734).snapshot).length < Payload.limit := by
    rw [length]
    decide
  have answered := @status_answered_within_limit Unit [.new] query caller (lone 32734) .standard
    ⟨false, 0, []⟩ rfl rfl rfl (by decide) Pipe.sound_new
  exact ⟨length, Nat.le_of_lt short,
    (answered.2.1 short).2 rfl peer .standard query.frame rfl rfl rfl⟩

/-- A snapshot that is as long as a frame can carry is not sent: the peer waits in vain for an
answer, although it is connected and reads. -/
theorem snapshot_at_limit_unanswered :
    let rows := (lone 32735).snapshot
    let reached := (handler rows).run .standard ⟨false, 0, []⟩ [.new] query
    (Snapshot.bytes rows).length = Payload.limit ∧
      Fabric.isConnected [.new] caller = true ∧ reached.2 = [.new] ∧
      reached.1.notices = [.replyFailed 9 (.message (.payloadTooLarge 65536 65536))] ∧
      (Channel.collect .standard reached.2 peer query.frame).1 =
        .error (.link (.timeout .read Channel.Settings.standard.transferTimeout)) := by
  have length := length_snapshot_lone 32735
  intro rows reached
  have ran : reached = _ :=
    run_of_long .standard ⟨false, 0, []⟩ rfl rfl rfl (Nat.le_of_eq length.symm)
  refine ⟨length, rfl, ?_, ?_, ?_⟩
  · rw [ran]
  · rw [ran, length]
    rfl
  · rw [ran]
    rfl

end Example

end Bridge

end Telematics
