/-
# Telematics.Proofs.Channel.Closing -- what the end of a connection is taken for

A frame is read in two readings, its header first and then its payload.  The end
of the connection makes the one fail that meets it, and what is told of it is how
many bytes that reading had got by then (`Cut`).  If there were none, whoever hears
it takes it that the other side has closed before it sent anything, and a session
ends without a word.

That is right where nothing has come, and a frame that is cut off within its
header or within its payload is told as cut off.  But where the end comes just
behind a header, the reading of the payload gets nothing, and the frame counts as
if nothing of it had been sent (`closing_told_apart`, `closed_behind_header`).
-/
import Telematics.Proofs.Channel.Sending
import Telematics.Proofs.Session.Recording

namespace Telematics

set_option autoImplicit false

open Link Wire

/-! ## Failures of a transfer -/

theorem LinkError.peerClosed_shortTransfer {transferred expected : Nat} :
    (LinkError.shortTransfer .read transferred expected).peerClosed = true ↔ transferred = 0 := by
  cases transferred <;> simp [peerClosed]

namespace Link

/-- What fails to be written is never taken for the end of what is read. -/
theorem Transfer.peerClosed_continueFrom {σ : Type} {t : Transfer σ} (writes : t.direction = .write)
    {done : Nat} {s : σ} {e : LinkError} (failed : (t.continueFrom done s).1 = .error e) :
    e.peerClosed = false := by
  fun_induction t.continueFrom done s with
  | case1 done s short s' attempt =>
    cases failed
    rw [writes]
    rfl
  | case2 done s short s' n attempt ih => exact ih failed
  | case3 done s short s' attempt | case4 done s short cause s' attempt =>
    cases failed
    rfl
  | case5 done s all => cases failed

theorem Fabric.peerClosed_of_write {f : Fabric} {h : Handle} {timeout : Span} {bytes : List UInt8}
    {e : LinkError} (failed : (f.write h timeout bytes).1 = .error e) : e.peerClosed = false := by
  let t : Transfer (Pipe × List UInt8) := ⟨.write, timeout, bytes.length, Pipe.writeSome⟩
  have ran : (t.run ((f.linkOf h).isHungUp || (f.outgoing h).isWritable)
      (f.outgoing h, bytes)).1 = .error e := failed
  unfold Transfer.run at ran
  split at ran
  · cases ran
  · split at ran
    · exact Transfer.peerClosed_continueFrom rfl ran
    · cases ran
      rfl

end Link

namespace Channel

variable {f : Fabric} {source : Handle}

/-! ## Where the end comes -/

/-- The end comes before a frame is whole, and this is what is told of it. -/
inductive Cut (bytes : List UInt8) : LinkError → Prop where
  /-- There is no header. -/
  | header (few : bytes.length < headerLength) :
      Cut bytes (.shortTransfer .read bytes.length headerLength)
  /-- There is less than the header announces. -/
  | payload {header : Header} {rest : List UInt8} (begins : bytes = header.encode ++ rest)
      (few : rest.length < header.length.toNat) :
      Cut bytes (.shortTransfer .read rest.length header.length.toNat)

/-- Nothing has come of what is to be read next: neither of a header nor of what it announces. -/
def Bare (bytes : List UInt8) : Prop :=
  bytes = [] ∨ bytes.length = headerLength

instance (bytes : List UInt8) : Decidable (Bare bytes) :=
  inferInstanceAs (Decidable (_ ∨ _))

theorem Cut.peerClosed_iff {bytes : List UInt8} {e : LinkError} (cut : Cut bytes e) :
    e.peerClosed = true ↔ Bare bytes := by
  have header : headerLength = 24 := rfl
  rw [Bare, ← List.length_eq_zero_iff]
  cases cut with
  | header few =>
    rw [LinkError.peerClosed_shortTransfer]
    omega
  | payload begins few =>
    rw [LinkError.peerClosed_shortTransfer, begins, List.length_append, Header.length_encode]
    omega

/-- Reading a frame fails at the end of a connection where the end comes too early, and there
only. -/
theorem cut_of_readFrom (settings : Settings) (ended : (f.incoming source).ending = .ended)
    {e : LinkError} (failed : (readFrom settings source f).1 = .error (.link e)) :
    Cut (f.queued source) e := by
  rcases Nat.lt_or_ge (f.queued source).length headerLength with few | enough
  · obtain ⟨f', read⟩ := readFrom_of_short_header settings ended few
    rw [read] at failed
    cases failed
    exact .header few
  by_cases marked : (f.queued source).take marker.length = marker
  · obtain ⟨header, queued⟩ := Header.exists_encode_append enough marked
    rcases Nat.lt_or_ge Payload.limit header.length.toNat with long | allowed
    · rw [readFrom_of_too_long queued settings long] at failed
      cases failed
    rcases Nat.lt_or_ge ((f.queued source).drop headerLength).length header.length.toNat
      with few | whole
    · obtain ⟨f', read⟩ := readFrom_of_short_payload queued settings ended allowed few
      rw [read] at failed
      cases failed
      exact .payload queued few
    · rw [readFrom_eq_of_whole queued settings allowed whole] at failed
      cases decoded : Frame.decode (f.queued source) <;>
        · rw [decoded] at failed
          cases failed
  · rw [readFrom_of_bad_marker settings enough marked] at failed
    cases failed

/-- Whoever waits for a reply fails because of the connection just if the reading does. -/
theorem readFrom_of_collect {settings : Settings} {request : Frame} {e : LinkError}
    (failed : (collect settings f source request).1 = .error (.link e)) :
    (readFrom settings source f).1 = .error (.link e) := by
  change (readFrom settings source f).1 >>= answerIn request = _ at failed
  cases read : (readFrom settings source f).1 with
  | error cause =>
    rw [read] at failed
    cases failed
    rfl
  | ok reply =>
    rw [read] at failed
    change answerIn request reply = _ at failed
    unfold answerIn at failed
    split at failed <;> cases failed

/-! ## What is told of it -/

theorem cut_of_receive (settings : Settings) (ended : (f.incoming source).ending = .ended)
    {e : LinkError} (failed : (receive settings f source).1 = .error (.link e)) :
    Cut (f.queued source) e := by
  apply cut_of_readFrom settings ended
  change (readFrom settings source f).1.map _ = _ at failed
  cases read : (readFrom settings source f).1 with
  | error cause =>
    rw [read] at failed
    cases failed
    rfl
  | ok frame =>
    rw [read] at failed
    cases failed

/-- Sending a message that wants a reply is taken for the good end of a connection just if the
message has been written and the reading of the reply has got nothing. -/
theorem peerClosed_of_send (settings : Settings) (ended : (f.incoming source).ending = .ended)
    {message : Message Handle} (addressed : message.destination = some source) {e : LinkError}
    (failed : (send settings f message true).result = .error (.link e)) :
    e.peerClosed = true ↔ (post settings f message true).1 = .ok source ∧
      Bare (f.queued source) := by
  cases connected : f.isConnected source with
  | false =>
    rw [send_of_hungUp settings addressed connected] at failed
    have refused : (post settings f message true).1 = .error (.link .notConnected) := by
      simp [post, outbound, addressed, connected]
    cases failed
    simp [refused, LinkError.peerClosed]
  | true =>
    have inside := Fabric.lt_length_of_connected connected
    have stands := f.written source settings.transferTimeout
      (message.requestingReply true).frame.encode
    cases wrote : f.write source settings.transferTimeout
        (message.requestingReply true).frame.encode with
    | mk result g =>
    rw [wrote] at stands
    cases stands with
    | part short queue =>
      rw [send_of_write_error settings addressed connected wrote] at failed
      have unsent : (post settings f message true).1 = .error (.link e) := by
        cases failed
        simp only [post, outbound_eq addressed connected, wrote]
      cases failed
      rw [Fabric.peerClosed_of_write (congrArg Prod.fst wrote)]
      simp [unsent]
    | @whole pipe queue =>
      have posted : (post settings f message true).1 = .ok source := by
        simp only [post, outbound_eq addressed connected, wrote]
      have same : (f.withOutgoing source pipe).incoming source = f.incoming source :=
        Fabric.incoming_withOutgoing pipe inside
      have collects : (collect settings (f.withOutgoing source pipe) source
          (message.requestingReply true).frame).1 = .error (.link e) := by
        rw [send_of_write settings addressed connected wrote, if_pos rfl] at failed
        generalize collect settings (f.withOutgoing source pipe) source
          (message.requestingReply true).frame = answer at failed
        obtain ⟨_ | _, _⟩ := answer <;> cases failed
        rfl
      have cut := cut_of_readFrom settings (by rw [same, ended]) (readFrom_of_collect collects)
      rw [cut.peerClosed_iff, Fabric.queued, same]
      simp [posted, Fabric.queued]

end Channel

namespace Session

variable {σ : Type}

/-- Of a session that ends because of its connection somebody is told, unless that counts as the
good end. -/
theorem notices_finish (session : Session) (e : LinkError) (shared : Shared σ) :
    (session.finish (some (.link e)) shared).2.notices = shared.notices ++
      if e.peerClosed then [] else [⟨session.worker.name, .link e⟩] := by
  cases closed : e.peerClosed <;> simp [finish, isClosing, Option.filter, closed]

/-- A session that meets the end too early ends as well, and says so unless nothing has come of what
it was to read next. -/
theorem receive?_of_ended (settings : Channel.Settings) (handler : Handler σ) {session : Session}
    {shared : Shared σ} {held : List UInt8} (going : session.worker.ended = none)
    (reading : session.stage = .reading held)
    (inside : session.source.link < shared.fabric.length)
    (ended : (shared.fabric.incoming session.source).ending = .ended) {e : LinkError}
    (failed : (Channel.receive settings (shared.fabric.putBack session.source held)
      session.source).1 = .error (.link e)) :
    ∃ next, session.receive? settings handler shared = some next ∧
      next.1.worker.ended = some .returned ∧
      next.2.notices = shared.notices ++
        if Channel.Bare (held ++ shared.fabric.queued session.source) then []
        else [⟨session.worker.name, .link e⟩] := by
  have still : ((shared.fabric.putBack session.source held).incoming session.source).ending =
      .ended := by
    rw [Channel.incoming_putBack inside]
    exact ended
  have cut := Channel.cut_of_receive settings still failed
  rw [Channel.queued_putBack inside] at cut
  have busy : session.isIdle held shared.fabric = false := by
    apply isIdle_eq_false going
    exact .inr (by simp [Fabric.isReadable, Pipe.isReadable, ended])
  have refused : Channel.receive settings (shared.fabric.putBack session.source held)
      session.source = (.error (.link e), (Channel.receive settings
        (shared.fabric.putBack session.source held) session.source).2) := by
    rw [← failed]
  have prompt : ∀ direction span, ChannelError.link e ≠ .link (.timeout direction span) := by
    rintro direction span ⟨⟩
    cases cut
  refine ⟨_, receive?_of_error settings handler reading busy refused prompt,
    ended_finish _ _ _, ?_⟩
  rw [notices_finish]
  simp only [cut.peerClosed_iff]

end Session

/-- **What the end of a connection is taken for.**  Whoever receives a message, or waits for a
reply, from bytes that are followed by the end fails because of the connection just where the end
comes too early, and hears how many bytes the reading that met it had got.  It is taken for a good
end if no byte has come, but also if all that has come is a header; wherever else a frame is cut
off, within its header or within its payload, that is told as cut off, and a session does not end
without a word. -/
theorem Channel.closing_told_apart (settings : Settings) (f : Fabric) (source : Handle)
    (ended : (f.incoming source).ending = .ended) :
    (∀ e, (receive settings f source).1 = .error (.link e) →
      Cut (f.queued source) e ∧ (e.peerClosed = true ↔ Bare (f.queued source))) ∧
    (∀ (message : Message Handle) (e : LinkError), message.destination = some source →
      (send settings f message true).result = .error (.link e) →
        (e.peerClosed = true ↔
          (post settings f message true).1 = .ok source ∧ Bare (f.queued source))) ∧
    ∀ {σ : Type} (handler : Handler σ) (session : Session) (held : List UInt8) (state : σ)
      (notices : List Session.Notice), source.link < f.length → session.source = source →
      session.worker.ended = none → session.stage = .reading held →
      ∀ e, (receive settings (f.putBack source held) source).1 = .error (.link e) →
        ∃ next, session.receive? settings handler ⟨state, f, notices⟩ = some next ∧
          next.1.worker.ended = some .returned ∧
          next.2.notices = notices ++
            if Bare (held ++ f.queued source) then [] else [⟨session.worker.name, .link e⟩] := by
  refine ⟨?_, ?_, ?_⟩
  · intro e failed
    have cut := cut_of_receive settings ended failed
    exact ⟨cut, cut.peerClosed_iff⟩
  · intro message e addressed failed
    exact peerClosed_of_send settings ended addressed failed
  · rintro σ handler session held state notices inside rfl going reading e failed
    exact session.receive?_of_ended settings handler going reading inside ended failed

section Example

namespace Channel

/-- A header that announces five bytes. -/
def opening : Header := ⟨7, 0, 1, 5⟩

/-- Some bytes that the far side reads, and then the end. -/
def cutOff (bytes : List UInt8) : Fabric := [⟨⟨bytes, [⟨bytes.length, 768⟩], .ended⟩, .new⟩]

def reader : Handle := ⟨0, .far, unnamed⟩

/-- The end comes behind the first byte of the payload: that is told as cut off, also to who waits
for a reply, and a session that holds the header already says so. -/
theorem closing_told_apart_within_payload :
    let f := cutOff (opening.encode ++ [0x61])
    let e : LinkError := .shortTransfer .read 1 5
    let query : Message Handle := ⟨⟨⟨11, by decide⟩, 1, false, .empty⟩, some reader⟩
    let session := { Session.start 0 reader with stage := .reading opening.encode }
    let recording : Handler Nat := ⟨fun count _ => (count + 1, none), fun count _ _ => count⟩
    (receive .standard f reader).1 = .error (.link e) ∧ e.peerClosed = false ∧
      (send .standard f query true).result = .error (.link e) ∧
      ∃ next, session.receive? .standard recording ⟨0, cutOff [0x61], []⟩ = some next ∧
        next.2.notices = [⟨session.worker.name, .link e⟩] := by
  intro f e query session recording
  have received : (receive .standard f reader).1 = .error (.link e) := by cbv
  have sent : (send .standard f query true).result = .error (.link e) := by cbv
  obtain ⟨told, -, -⟩ := closing_told_apart .standard f reader rfl
  have part : ¬ Bare (f.queued reader) := by decide
  obtain ⟨-, -, ends⟩ := closing_told_apart .standard (cutOff [0x61]) reader rfl
  have failed : (receive .standard ((cutOff [0x61]).putBack reader opening.encode) reader).1 =
      .error (.link e) := by cbv
  obtain ⟨next, reads, -, notices⟩ :=
    ends recording session opening.encode 0 [] (by decide) rfl rfl rfl e failed
  have within : ¬ Bare (opening.encode ++ (cutOff [0x61]).queued reader) := by decide
  rw [if_neg within] at notices
  refine ⟨received, ?_, sent, next, reads, notices⟩
  rw [← Bool.not_eq_true, (told e received).2]
  exact part

/-- The end comes just behind a header that announces five bytes: a part of a frame has come, but it
is taken for the good end of the connection, and a session ends without a word. -/
theorem closed_behind_header :
    let f := cutOff opening.encode
    let e : LinkError := .shortTransfer .read 0 5
    (f.incoming reader).ending = .ended ∧ (f.queued reader).length = 24 ∧
      (receive .standard f reader).1 = .error (.link e) ∧ e.peerClosed = true ∧
      ∃ next, (Session.start 0 reader).receive? .standard (⟨fun _ _ => ((), none), fun _ _ _ => ()⟩)
          ⟨(), f, []⟩ = some next ∧
        next.1.worker.ended = some .returned ∧ next.2.notices = [] := by
  intro f e
  let quiet : Handler Unit := ⟨fun _ _ => ((), none), fun _ _ _ => ()⟩
  let shared : Shared Unit := ⟨(), f, []⟩
  have failed : (receive .standard (shared.fabric.putBack reader []) reader).1 =
      .error (.link e) := by
    cbv
  have inside : reader.link < shared.fabric.length := by decide
  obtain ⟨next, reads, ended, notices⟩ := (Session.start 0 reader).receive?_of_ended .standard
    quiet rfl rfl inside rfl failed
  have bare : Bare ([] ++ Fabric.queued f (Session.start 0 reader).source) := by decide
  rw [if_pos bare] at notices
  exact ⟨rfl, rfl, by cbv, rfl, next, reads, ended, notices⟩

end Channel

end Example

end Telematics
