/-
# Telematics.Proofs.Bridge.Dispatch -- what handling a message touches

A message that comes to the bridge can lead to one frame at most, the reply to
it, and to the signal being raised.  Which of the ways a message can go it has
gone is told by what has been noted and what has been written (`Handled`), and
every failure of a reply leaves the signal as it would have been without it.

The bridge does not own the registry, which may be gone by the time a message
comes, nor does it know who waits for the signal.  So what it does is followed in
an `Office`, where anything can happen to the registry and to the connections
between two messages, and where the signal can be waited for at any time.  What
whoever waits finds depends on the messages since the wait before and on nothing
else: one request to shut down or more of them, answered or not, are one signal.
-/
import Telematics.Proofs.Bridge.Answer

namespace Telematics.Bridge

set_option autoImplicit false

open Link Shutdown

variable {ρ : Type} {f : Fabric} {message : Message Handle}

/-- What there is to tell of a registry that may be gone. -/
def rowsOf (registry : Option (Registry ρ)) : Snapshot :=
  (registry.map Registry.snapshot).getD []

def asksShutdown (message : Message Handle) : Bool :=
  message.frame.type.code = shutdownRequest

/-! ## Requests -/

theorem requestOf?_eq_shutdown_iff :
    requestOf? message = some .shutdown ↔ message.frame.type.code = shutdownRequest := by
  have other : shutdownRequest ≠ statusQuery := by decide
  unfold requestOf?
  split <;> simp_all [Ne.symm other]

theorem requestOf?_eq_none_iff : requestOf? message = none ↔
    message.frame.type.code ≠ statusQuery ∧ message.frame.type.code ≠ shutdownRequest := by
  unfold requestOf?
  split <;> simp_all

/-- Understanding a request raises the signal just if it is one to shut down. -/
theorem signal_meet {request : Request} (asked : requestOf? message = some request)
    (state : State) : (state.count.meet request).signal = (state.signal || asksShutdown message) := by
  have shutdown : decide (request = .shutdown) = asksShutdown message := by
    rw [asksShutdown, decide_eq_decide, ← requestOf?_eq_shutdown_iff, asked, Option.some_inj]
  rw [← shutdown]
  rfl

theorem asksShutdown_of_unknown (unknown : requestOf? message = none) :
    asksShutdown message = false := by
  simp [asksShutdown, (requestOf?_eq_none_iff.1 unknown).2]

/-! ## One message -/

/-- Why a reply cannot even be begun. -/
inductive Unwritten (f : Fabric) (message : Message Handle) (payload : List UInt8) :
    ChannelError → Prop where
  | nowhere (unaddressed : message.destination = none) : Unwritten f message payload .noDestination
  | tooLong {destination : Handle} (addressed : message.destination = some destination)
      (long : Payload.limit ≤ payload.length) :
      Unwritten f message payload (.message (.payloadTooLarge payload.length Payload.limit))
  | hungUp {destination : Handle} (addressed : message.destination = some destination)
      (gone : f.isConnected destination = false) :
      Unwritten f message payload (.link .notConnected)

/-- What has become of a message: what the connections are like then, and what has been noted. -/
inductive Handled (rows : Snapshot) (f : Fabric) (message : Message Handle) :
    Fabric → List Notice → Prop where
  | ignored (unknown : requestOf? message = none) :
      Handled rows f message f [.unknownType message.frame.type.code (senderOf message)]
  | unasked {request : Request} (asked : requestOf? message = some request)
      (silent : message.frame.replyRequired = false) : Handled rows f message f []
  | refused {request : Request} {e : ChannelError} (asked : requestOf? message = some request)
      (asks : message.frame.replyRequired = true)
      (unwritten : Unwritten f message (answerTo rows request) e) :
      Handled rows f message f [.replyFailed message.frame.sequence e]
  | replied {request : Request} {destination : Handle} {payload : Payload} {after : Fabric}
      (asked : requestOf? message = some request) (asks : message.frame.replyRequired = true)
      (addressed : message.destination = some destination)
      (bytes : payload.bytes = answerTo rows request)
      (appended : f.Appended after destination (Channel.answerFrame message payload).encode) :
      Handled rows f message after []
  | cut {request : Request} {destination : Handle} {payload : Payload} {after : Fabric}
      {count : Nat} {e : LinkError} (asked : requestOf? message = some request)
      (asks : message.frame.replyRequired = true)
      (addressed : message.destination = some destination)
      (bytes : payload.bytes = answerTo rows request)
      (short : count < (Channel.answerFrame message payload).encode.length)
      (appended : f.Appended after destination
        ((Channel.answerFrame message payload).encode.take count)) :
      Handled rows f message after [.replyFailed message.frame.sequence (.link e)]

/-- A reply that is wanted is refused, or the connection it is for takes all of it or a part. -/
theorem handled_of_asked (rows : Snapshot) (settings : Channel.Settings) (state : State)
    (f : Fabric) {request : Request} (asked : requestOf? message = some request)
    (asks : message.frame.replyRequired = true) :
    let replied := Channel.reply settings f message (answerTo rows request)
    ∃ notices, (handler rows).note state message replied.1 =
        { state with notices := state.notices ++ notices } ∧
      Handled rows f message replied.2 notices := by
  intro replied
  have refused : ∀ e, replied = (.error e, f) → Unwritten f message (answerTo rows request) e →
      ∃ notices, (handler rows).note state message replied.1 =
          { state with notices := state.notices ++ notices } ∧
        Handled rows f message replied.2 notices := by
    intro e failed unwritten
    rw [failed]
    exact ⟨_, rfl, .refused asked asks unwritten⟩
  cases addressed : message.destination with
  | none =>
    exact refused _ (Channel.reply_of_refused settings
      (Channel.replyTo_of_unaddressed asks addressed _)) (.nowhere addressed)
  | some destination =>
  rcases Nat.lt_or_ge (answerTo rows request).length Payload.limit with short | long
  · let payload : Payload := ⟨answerTo rows request, Nat.le_of_lt short⟩
    cases connected : f.isConnected destination with
    | false =>
      have unsent : replied = _ :=
        @Channel.reply_of_hungUp f message destination settings payload asks addressed connected
          short
      exact refused _ unsent (.hungUp addressed connected)
    | true =>
      have wrote := Fabric.appends_write (Fabric.lt_length_of_connected connected)
        settings.transferTimeout (Channel.answerFrame message payload).encode
      have sent : replied = _ :=
        @Channel.reply_of_short f message destination settings payload asks addressed connected
          short
      rw [sent]
      generalize f.write destination settings.transferTimeout
        (Channel.answerFrame message payload).encode = written at wrote
      cases wrote with
      | whole appended =>
        refine ⟨[], ?_, .replied asked asks addressed rfl appended⟩
        rw [List.append_nil]
        rfl
      | part short appended =>
        exact ⟨_, rfl, .cut asked asks addressed rfl short appended⟩
  · exact refused _ (Channel.reply_of_long settings asks addressed long) (.tooLong addressed long)

/-- Whatever becomes of a message, it is counted, and the signal is raised if it asks for that. -/
theorem handled (rows : Snapshot) (settings : Channel.Settings) (state : State) (f : Fabric)
    (message : Message Handle) :
    let ran := (handler rows).run settings state f message
    ∃ notices, ran.1 = ⟨state.signal || asksShutdown message, state.handled + 1,
        state.notices ++ notices⟩ ∧
      Handled rows f message ran.2 notices := by
  cases asked : requestOf? message with
  | none =>
    have ran : (handler rows).run settings state f message =
        (state.count.warn (.unknownType message.frame.type.code (senderOf message)), f) := by
      simp only [Handler.run, handler, asked]
    rw [ran, asksShutdown_of_unknown asked, Bool.or_false]
    exact ⟨_, rfl, .ignored asked⟩
  | some request =>
    have met : ∀ notices, { state.count.meet request with notices := state.notices ++ notices } =
        (⟨state.signal || asksShutdown message, state.handled + 1, state.notices ++ notices⟩ :
          State) := by
      intro notices
      rw [← signal_meet asked state]
      rfl
    cases asks : message.frame.replyRequired with
    | false =>
      have ran : (handler rows).run settings state f message = (state.count.meet request, f) := by
        simp [Handler.run, handler, asked, asks]
      rw [ran]
      refine ⟨[], ?_, .unasked asked asks⟩
      rw [← met [], List.append_nil]
      rfl
    | true =>
      obtain ⟨notices, noted, goes⟩ :=
        handled_of_asked rows settings (state.count.meet request) f asked asks
      have ran : (handler rows).run settings state f message =
          ((handler rows).note (state.count.meet request) message
              (Channel.reply settings f message (answerTo rows request)).1,
            (Channel.reply settings f message (answerTo rows request)).2) := by
        simp only [Handler.run, handler, asked, asks, if_true]
      rw [ran]
      exact ⟨notices, noted.trans (met notices), goes⟩

/-- Nothing is written unless a request that is understood asks for a reply. -/
theorem Handled.silent {rows : Snapshot} {after : Fabric} {notices : List Notice}
    (goes : Handled rows f message after notices)
    (silent : message.frame.replyRequired = false ∨ requestOf? message = none) : after = f := by
  cases goes with
  | ignored | unasked | refused => rfl
  | replied asked asks | cut asked asks =>
    rcases silent with silent | unknown
    · rw [asks] at silent
      cases silent
    · rw [asked] at unknown
      cases unknown

/-! ## Many messages -/

/-- A registry that may be gone, the state of the handler that speaks for it, and the connections
that messages come from. -/
structure Office (ρ : Type) where
  registry : Option (Registry ρ)
  state : State
  fabric : Fabric
  /-- Whether the signal was up for those who have waited for it, in order. -/
  found : List Bool

/-- What can happen in an office. -/
inductive Move (ρ : Type) where
  /-- A message is handled. -/
  | message (message : Message Handle)
  /-- Somebody waits for the signal, and takes it if it is up. -/
  | wait
  /-- Others do something to the registry or to the connections. -/
  | others (registry : Option (Registry ρ)) (fabric : Fabric)

def Move.asksShutdown : Move ρ → Bool
  | .message message => Bridge.asksShutdown message
  | _ => false

namespace Office

def step (settings : Channel.Settings) (office : Office ρ) : Move ρ → Office ρ
  | .message message =>
    let (state, fabric) :=
      (handler (rowsOf office.registry)).run settings office.state office.fabric message
    { office with state, fabric }
  | .wait =>
    { office with
      found := office.found ++ [office.state.signal]
      state := { office.state with signal := false } }
  | .others registry fabric => { office with registry, fabric }

def run (settings : Channel.Settings) (office : Office ρ) (moves : List (Move ρ)) : Office ρ :=
  moves.foldl (step settings) office

variable {settings : Channel.Settings} {office : Office ρ}

theorem run_append (moves others : List (Move ρ)) :
    office.run settings (moves ++ others) = (office.run settings moves).run settings others :=
  List.foldl_append

end Office

section Example

theorem shutdownRequest_pos : 0 < shutdownRequest := by decide

/-- Somebody asks the client to shut down, and wants no reply. -/
def demand : Message Handle :=
  ⟨⟨⟨shutdownRequest, shutdownRequest_pos⟩, 4, false, .empty⟩, some caller⟩

end Example

end Telematics.Bridge
