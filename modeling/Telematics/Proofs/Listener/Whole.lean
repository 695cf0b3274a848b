/-
# Telematics.Proofs.Listener.Whole -- what a listener does at once is a run of its threads

The listener's own operations do at once what its threads do step by step.  Each is
one of the runs of the threads: accepting a connection (`accept_isRun`), with what is
struck off the list, and stopping, where every session is waited for as long as it
takes and comes to its end in turn (`stop_isRun`).  So whatever holds after every run
holds after these, and stopping does return.
-/
import Mathlib.Data.List.Basic
import Telematics.Proofs.Listener.Stopping

namespace Telematics

set_option autoImplicit false

open Link

/-! ## Winding a session up -/

namespace Session

variable {σ : Type} (settings : Channel.Settings) (handler : Handler σ) {session : Session}
  {shared : Shared σ}

/-- A session that waits for as long as it ever does waits no more. -/
theorem pass_transferTimeout :
    session.pass settings handler settings.transferTimeout.nanoseconds shared =
      if session.isWaiting then session.giveUp settings handler shared else (session, shared) := by
  split
  · rename_i waiting
    rw [pass_of_waiting settings handler _ waiting, if_pos (Nat.le_add_left _ _)]
  · rename_i still
    exact pass_of_not_waiting settings handler _ (by simpa using still)

/-- A session that has been asked to stop, and whose handle has been taken. -/
def summoned (session : Session) : Session :=
  { session with worker := session.worker.stop.detach }

theorem Tidy.summoned (tidy : session.Tidy) : session.summoned.Tidy := tidy

/-- A session that has been asked to stop has ended when it has been wound up. -/
theorem ended_windUp (asked : session.worker.stopRequested = true) (tidy : session.Tidy) :
    (session.windUp settings handler shared).1.worker.ended = some .returned := by
  unfold windUp
  rcases tidy with going | ⟨ended, idle⟩
  · cases stage : session.stage with
    | reading held =>
      by_cases empty : held = []
      · subst empty
        simp [isWaiting, going, stage, stop?, asked, finish, Worker.exit]
      · simp [isWaiting, going, stage, empty, giveUp, finish, stop?, Worker.exit]
    | replying request reply =>
      simp [isWaiting, going, stage, giveUp, conclude, turnTo, stop?, asked, finish, Worker.exit]
  · simp [isWaiting, ended, stop?]

/-- What each session comes to, all sessions have come to. -/
theorem all_forEach {act : Session → Shared σ → Session × Shared σ} {P : Session → Prop}
    {sessions : List Session} (each : ∀ session ∈ sessions, ∀ shared, P (act session shared).1)
    (shared : Shared σ) : ∀ session ∈ (forEach act sessions shared).1, P session := by
  induction sessions generalizing shared with
  | nil => exact fun session member => absurd member List.not_mem_nil
  | cons first rest ih =>
    intro session member
    rcases List.mem_cons.1 member with rfl | later
    · exact each first List.mem_cons_self shared
    · exact ih (fun other inside => each other (List.mem_cons_of_mem _ inside)) _ session later

end Session

/-- What stopping a listener comes to. -/
theorem Listener.stop_eq {σ : Type} (handler : Handler σ) {l : Listener} (shared : Shared σ)
    (fresh : l.closing = .notYet) (going : l.acceptor.ended = none)
    (tidy : ∀ session ∈ l.sessions, session.Tidy) :
    l.stop handler shared =
      ({ l with
          acceptor := l.acceptor.stop.detach.exit .returned
          pending := []
          sessions := []
          drained := []
          closing := .done },
        (Session.forEach (Session.windUp l.settings handler) (l.sessions.map Session.summoned)
          { shared with fabric := l.pending.foldl Fabric.leave shared.fabric }).2) := by
  have asked : l.requestStop =
      { l with closing := .acceptor, acceptor := l.acceptor.stop.detach } := by
    simp [requestStop, isStopped, fresh]
  have accepted : l.requestStop.endAccepting? shared.fabric =
      some ({ l with
        closing := .acceptor
        acceptor := l.acceptor.stop.detach.exit .returned
        pending := [] }, l.pending.foldl Fabric.leave shared.fabric) := by
    simp [asked, endAccepting?, Worker.stop, Worker.detach, going]
  have drained : ({ l with
        closing := .acceptor
        acceptor := l.acceptor.stop.detach.exit .returned
        pending := [] } : Listener).drain? =
      some { l with
        closing := .sessions
        acceptor := l.acceptor.stop.detach.exit .returned
        pending := []
        drained := l.sessions.map Session.summoned
        sessions := [] } := rfl
  have ended : ∀ shared, ((Session.forEach (Session.windUp l.settings handler)
      (l.sessions.map Session.summoned) shared).1.all (·.worker.ended.isSome)) = true := by
    intro shared
    refine List.all_eq_true.2 (Session.all_forEach (fun session member shared => ?_) shared)
    obtain ⟨before, inside, rfl⟩ := List.mem_map.1 member
    rw [Session.ended_windUp l.settings handler rfl (tidy before inside).summoned]
    rfl
  simp only [stop, accepted, Option.getD_some, drained, eachSession, Session.forEach, close?, ended]
  rfl

namespace Service

variable {σ : Type} {s : Service σ} (handler : Handler σ)

/-! ## Accepting a connection -/

/-- Those that have ended are struck off the list one after the other. -/
theorem run_sweeping (going : s.acceptor.ended = none) {number : Nat} {kept left : List Nat}
    (sweeping : s.accepting = .sweeping number kept left) :
    s.run handler (List.replicate (left.length + 1) (.accept true)) =
      { s with listed := kept ++ left.filter s.runs ++ [number], accepting := .looking } := by
  induction left generalizing s kept with
  | nil =>
    show s.accept true = _
    simp [Service.accept, going, sweeping]
  | cons next left ih =>
    let onward : Service σ := { s with
      listed := (if s.runs next then kept ++ [next] else kept) ++ left
      accepting := .sweeping number (if s.runs next then kept ++ [next] else kept) left }
    have looked : s.accept true = onward := by
      simp [Service.accept, going, sweeping, onward]
    have same : onward.runs = s.runs := rfl
    show (s.accept true).run handler (List.replicate (left.length + 1) (.accept true)) = _
    rw [looked, @ih onward going _ rfl, same, List.filter_cons]
    split <;> simp [onward]

theorem sessionsOf_cons {number : Nat} {session : Session}
    (found : s.threads[number]? = some session) (numbers : List Nat) :
    s.sessionsOf (number :: numbers) = session :: s.sessionsOf numbers := by
  rw [sessionsOf, List.filterMap_cons_some found]
  rfl

theorem sessionsOf_append (numbers more : List Nat) :
    s.sessionsOf (numbers ++ more) = s.sessionsOf numbers ++ s.sessionsOf more := by
  rw [sessionsOf, List.filterMap_append]
  rfl

/-- The sessions on the list that still run. -/
theorem sessionsOf_filter (numbers : List Nat) :
    s.sessionsOf (numbers.filter s.runs) = (s.sessionsOf numbers).filter (·.worker.isRunning) := by
  induction numbers with
  | nil => rfl
  | cons number numbers ih =>
    cases found : s.threads[number]? with
    | none => simpa [sessionsOf, runs, found] using ih
    | some session =>
      cases running : session.worker.isRunning <;> simpa [sessionsOf, runs, found, running] using ih

/-- **Accepting a connection at once is one of the ways in which the accepting thread can take its
steps.** -/
theorem accept_isRun (sound : s.Sound) (looking : s.accepting = .looking)
    (going : s.acceptor.ended = none) (unasked : s.acceptor.stopRequested = false)
    {l : Listener} (accepted : s.listener.accept? = some l) :
    let t := s.run handler (List.replicate (s.listed.length + 4) (.accept true))
    t.accepting = .looking ∧ t.listener = l ∧ t.shared = s.shared := by
  obtain ⟨source, pending, waiting⟩ : ∃ source pending, s.pending = source :: pending := by
    cases waiting : s.pending with
    | nil => simp [Listener.accept?, listener, going, waiting] at accepted
    | cons source pending => exact ⟨source, pending, rfl⟩
  let spawned : Service σ := { s with
    pending
    opened := s.opened + 1
    threads := s.threads ++ [.start (s.opened + 1) source]
    accepting := .sweeping s.threads.length [] s.listed }
  have begun : ((s.accept true).accept true).accept true = spawned := by
    simp [Service.accept, looking, going, unasked, waiting, spawned]
  have swept := @run_sweeping σ spawned handler going s.threads.length [] s.listed rfl
  have whole : s.run handler (List.replicate (s.listed.length + 4) (.accept true)) =
      { spawned with
        listed := [] ++ s.listed.filter spawned.runs ++ [s.threads.length]
        accepting := .looking } := by
    show (((s.accept true).accept true).accept true).run handler
      (List.replicate (s.listed.length + 1) (.accept true)) = _
    rw [begun, swept]
  have stay : spawned.sessionsOf s.listed = s.sessionsOf s.listed := by
    refine List.filterMap_congr fun number inside => List.getElem?_append_left ?_
    exact sound.lt_of_unclaimed (List.mem_append_left _ (List.mem_append_left _ inside))
  have newcomer : spawned.sessionsOf [s.threads.length] = [.start (s.opened + 1) source] := by
    rw [sessionsOf_cons List.getElem?_concat_length]
    rfl
  have listed : spawned.sessionsOf ([] ++ s.listed.filter spawned.runs ++ [s.threads.length]) =
      (s.sessionsOf s.listed).filter (·.worker.isRunning) ++ [.start (s.opened + 1) source] := by
    rw [List.nil_append, sessionsOf_append, sessionsOf_filter, stay, newcomer]
  have drained : spawned.sessionsOf s.drained = s.sessionsOf s.drained := by
    rw [(sound.achieved.early going).1]
    rfl
  intro t
  rw [show t = _ from whole]
  refine ⟨rfl, ?_, rfl⟩
  simp only [Listener.accept?, listener, going, waiting, Option.some.injEq] at accepted
  rw [← accepted, ← listed, ← drained]
  rfl

/-! ## Asking the sessions -/

theorem getElem?_adjust (number other : Nat) (change : Worker → Worker) :
    (s.adjust number change).threads[other]? =
      if number = other then
        (s.threads[other]?).map fun session => { session with worker := change session.worker }
      else s.threads[other]? := by
  unfold adjust
  split
  · rename_i session found
    by_cases same : number = other
    · subst same
      rw [if_pos rfl, found]
      exact List.getElem?_set_self (List.getElem?_eq_some_iff.1 found).1
    · rw [if_neg same]
      exact List.getElem?_set_ne same
  · rename_i absent
    by_cases same : number = other
    · subst same
      rw [if_pos rfl, absent]
      rfl
    · rw [if_neg same]

/-- Each session is asked, and nothing else is done. -/
theorem run_askingEach {left : List Nat} (asking : s.stopping = .askingEach left) :
    ∃ threads, s.run handler (List.replicate left.length .stop) =
        { s with threads, stopping := .askingEach [] } ∧
      ∀ number : Nat, threads[number]? =
        if number ∈ left then
          (s.threads[number]?).map fun session => { session with worker := session.worker.stop }
        else s.threads[number]? := by
  induction left generalizing s with
  | nil => exact ⟨s.threads, by rw [← asking]; rfl, fun _ => rfl⟩
  | cons next left ih =>
    have asked : s.step handler .stop =
        { s.adjust next .stop with stopping := .askingEach left } := by
      rw [step, Service.stop, asking]
    obtain ⟨threads, same, each⟩ :=
      @ih { s.adjust next .stop with stopping := .askingEach left } rfl
    refine ⟨threads, ?_, fun number => ?_⟩
    · rw [List.length_cons, List.replicate_succ, run_cons, asked, same]
      rfl
    · rw [each]
      simp only [getElem?_adjust, List.mem_cons]
      by_cases this : next = number
      · subst this
        simp only [true_or, if_true]
        split
        · rw [Option.map_map]
          rfl
        · rfl
      · simp only [this, Ne.symm this, false_or, if_false]

/-! ## Joining the sessions -/

/-- Whoever stops takes the handle of a session and waits, and the session comes to its end. -/
def farewell (settings : Channel.Settings) (number : Nat) : List (Move σ) :=
  [.stop, .session number (.pass settings.transferTimeout.nanoseconds), .session number .obey,
    .stop]

/-- The state in which whoever stops waits for a session. -/
def awaiting (s : Service σ) (number : Nat) (left : List Nat) (session : Session)
    (shared : Shared (σ × List (Message Handle))) : Service σ :=
  { s with
    threads := s.threads.set number session
    stopping := .joiningOne number left
    shared }

theorem act_awaiting {number : Nat} (inside : number < s.threads.length) (left : List Nat)
    (session : Session) (shared : Shared (σ × List (Message Handle))) (act : Session.Act) :
    (s.awaiting number left session shared).act handler number act =
      s.awaiting number left
        ((session.act? s.settings handler.recording shared act).getD (session, shared)).1
        ((session.act? s.settings handler.recording shared act).getD (session, shared)).2 := by
  have found : (s.awaiting number left session shared).threads[number]? = some session :=
    List.getElem?_set_self inside
  have governed : (s.awaiting number left session shared).settings = s.settings := rfl
  have held : (s.awaiting number left session shared).shared = shared := rfl
  simp only [Service.act, found, governed, held]
  cases session.act? s.settings handler.recording shared act with
  | none => rfl
  | some reached => simp only [awaiting, List.set_set, Option.getD_some]

theorem run_farewell {next : Nat} {left : List Nat}
    (claiming : s.stopping = .claimingEach (next :: left)) {session : Session}
    (found : s.threads[next]? = some session) (attached : session.worker.attached = true)
    (asked : session.worker.stopRequested = true) (tidy : session.Tidy) :
    s.run handler (farewell s.settings next) =
      { s with
        threads := s.threads.set next
          (Session.windUp s.settings handler.recording
            { session with worker := session.worker.detach } s.shared).1
        stopping := .claimingEach left
        shared := (Session.windUp s.settings handler.recording
            { session with worker := session.worker.detach } s.shared).2 } := by
  have inside : next < s.threads.length := (List.getElem?_eq_some_iff.1 found).1
  let claimed : Session := { session with worker := session.worker.detach }
  have first : s.stop = s.awaiting next left claimed s.shared := by
    rw [Service.stop, claiming]
    simp only [found, Option.any_some, Worker.claim, attached, if_true,
      adjust_of_getElem? found]
    rfl
  have waited := s.act_awaiting handler inside left claimed s.shared
    (.pass s.settings.transferTimeout.nanoseconds)
  simp only [Session.act?, Session.pass_transferTimeout, Option.getD_some] at waited
  generalize woundUp : Session.windUp s.settings handler.recording claimed s.shared = reached
  have ended : reached.1.worker.ended = some .returned :=
    woundUp ▸ claimed.ended_windUp s.settings handler.recording asked tidy
  have obeyed : ((s.awaiting next left claimed s.shared).act handler next
      (.pass s.settings.transferTimeout.nanoseconds)).act handler next .obey =
      s.awaiting next left reached.1 reached.2 := by
    rw [waited, act_awaiting handler inside, ← woundUp]
    rfl
  show (((s.stop.act handler next (.pass s.settings.transferTimeout.nanoseconds)).act handler next
    .obey).stop) = _
  rw [first, obeyed]
  simp only [Service.stop, awaiting, List.getElem?_set_self inside, Option.any_some,
    Worker.joined?, ended, Option.map_some, Option.isSome_some, if_true]

/-- Sessions are joined one after the other, and come to their ends one after the other. -/
theorem run_claimingEach {left : List Nat} (claiming : s.stopping = .claimingEach left)
    (apart : left.Nodup)
    (each : ∀ number ∈ left, ∃ session, s.threads[number]? = some session ∧
      session.worker.attached = true ∧ session.worker.stopRequested = true ∧ session.Tidy) :
    ∃ threads, s.run handler (left.flatMap (farewell s.settings)) =
      { s with
        threads
        stopping := .claimingEach []
        shared := (Session.forEach (Session.windUp s.settings handler.recording)
          ((s.sessionsOf left).map fun session =>
            { session with worker := session.worker.detach }) s.shared).2 } := by
  induction left generalizing s with
  | nil => exact ⟨s.threads, by rw [← claiming]; rfl⟩
  | cons next left ih =>
    obtain ⟨session, found, attached, asked, tidy⟩ := each next List.mem_cons_self
    obtain ⟨elsewhere, apart⟩ := List.nodup_cons.1 apart
    have stays : ∀ number ∈ left, ∀ session' : Session,
        (s.threads.set next session')[number]? = s.threads[number]? := by
      intro number inside session'
      refine List.getElem?_set_ne ?_
      rintro rfl
      exact elsewhere inside
    have first := run_farewell handler claiming found attached asked tidy
    generalize woundUp : Session.windUp s.settings handler.recording
      { session with worker := session.worker.detach } s.shared = reached at first
    obtain ⟨threads, rest⟩ := @ih
      { s with
        threads := s.threads.set next reached.1
        stopping := .claimingEach left
        shared := reached.2 } rfl apart (fun number inside => by
          rw [stays number inside]
          exact each number (List.mem_cons_of_mem _ inside))
    refine ⟨threads, ?_⟩
    have others : Service.sessionsOf { s with
        threads := s.threads.set next reached.1
        stopping := .claimingEach left
        shared := reached.2 } left = s.sessionsOf left :=
      List.filterMap_congr fun number inside => stays number inside reached.1
    rw [List.flatMap_cons, run_append, first, rest, others, sessionsOf_cons found, List.map_cons,
      Session.forEach, woundUp]

/-! ## All the steps of stopping -/

/-- The accepting thread is asked to stop, ends and is joined, and the list is emptied. -/
def takingAll : List (Move σ) :=
  [.stop, .stop, .stop, .accept true, .stop, .stop]

/-- Sessions are asked to stop and joined. -/
def joiningAll (settings : Channel.Settings) (numbers : List Nat) : List (Move σ) :=
  List.replicate numbers.length .stop ++ (.stop :: numbers.flatMap (farewell settings)) ++ [.stop]

theorem run_takingAll (attached : s.acceptor.attached = true) (fresh : s.stopping = .notYet)
    (looking : s.accepting = .looking) (going : s.acceptor.ended = none) :
    s.run handler takingAll =
      { s with
        acceptor := s.acceptor.stop.detach.exit .returned
        pending := []
        listed := []
        drained := s.listed
        stopping := .askingEach s.listed
        shared := { s.shared with fabric := s.pending.foldl Fabric.leave s.shared.fabric } } := by
  have claimed : s.stop.stop.stop =
      { s with acceptor := s.acceptor.stop.detach, stopping := .joining } := by
    simp [Service.stop, fresh, Worker.stop, Worker.claim, Worker.detach, attached]
  have ended : s.stop.stop.stop.accept true =
      { s with
        acceptor := s.acceptor.stop.detach.exit .returned
        pending := []
        stopping := .joining
        shared := { s.shared with fabric := s.pending.foldl Fabric.leave s.shared.fabric } } := by
    rw [claimed]
    simp [Service.accept, looking, Worker.stop, Worker.detach, going, withFabric]
  show ((s.stop.stop.stop.accept true).stop).stop = _
  rw [ended]
  rfl

/-- The sessions on the list are asked and joined, and come to their ends. -/
theorem run_joiningAll (sound : s.Sound) (asking : s.stopping = .askingEach s.drained)
    (empty : s.listed = []) (looking : s.accepting = .looking) :
    ∃ threads, s.run handler (joiningAll s.settings s.drained) =
      { s with
        threads
        drained := []
        stopping := .done
        shared := (Session.forEach (Session.windUp s.settings handler.recording)
          ((s.sessionsOf s.drained).map Session.summoned) s.shared).2 } := by
  obtain ⟨threads, asked, each⟩ := run_askingEach handler asking
  have soundAsked := asked ▸ sound.run handler (List.replicate s.drained.length .stop)
  have soundNext := soundAsked.stop
  have begun : Service.stop { s with threads, stopping := .askingEach [] } =
      { s with threads, stopping := .claimingEach s.drained } := rfl
  rw [begun] at soundNext
  generalize next : ({ s with threads, stopping := .claimingEach s.drained } : Service σ) = t
    at soundNext begun
  have claiming : t.stopping = .claimingEach s.drained := by rw [← next]
  have unclaimed : t.unclaimed = s.drained := by
    rw [← next]
    show s.listed ++ s.accepting.newcomer ++ s.drained = s.drained
    rw [empty, looking]
    rfl
  have found : ∀ number ∈ s.drained, ∃ session, t.threads[number]? = some session ∧
      session.worker.attached = true ∧ session.worker.stopRequested = true ∧ session.Tidy := by
    intro number inside
    obtain ⟨session, found, attached⟩ := soundNext.attached number (unclaimed ▸ inside)
    refine ⟨session, found, attached, ?_, soundNext.of_getElem? found⟩
    have same : t.threads = threads := by rw [← next]
    rw [same, each, if_pos inside] at found
    obtain ⟨before, -, rfl⟩ := Option.map_eq_some_iff.1 found
    rfl
  obtain ⟨threads', joined⟩ :=
    run_claimingEach handler claiming (unclaimed ▸ soundNext.apart) found
  have called : (t.sessionsOf s.drained).map
      (fun session => { session with worker := session.worker.detach }) =
      (s.sessionsOf s.drained).map Session.summoned := by
    have same : t.sessionsOf s.drained = (s.sessionsOf s.drained).map fun session =>
        { session with worker := session.worker.stop } := by
      rw [sessionsOf, sessionsOf, List.map_filterMap, ← next]
      exact List.filterMap_congr fun number inside => (each number).trans (if_pos inside)
    rw [same, List.map_map]
    rfl
  refine ⟨threads', ?_⟩
  rw [joiningAll, run_append, run_append, asked, run_cons]
  show (((Service.stop { s with threads, stopping := .askingEach [] }).run handler _).stop) = _
  rw [begun]
  have settings : t.settings = s.settings := by rw [← next]
  rw [← settings, joined, called, ← next]
  rfl

/-- **Stopping a listener at once is one of the ways in which its threads can take their steps.** -/
theorem stop_isRun (sound : s.Sound) (fresh : s.stopping = .notYet)
    (looking : s.accepting = .looking) (going : s.acceptor.ended = none) :
    let t := s.run handler (takingAll ++ joiningAll s.settings s.listed)
    t.stopping = .done ∧
      (t.listener, t.shared.forgotten) = s.listener.stop handler s.shared.forgotten := by
  obtain ⟨attached, -⟩ : s.acceptor.attached = true ∧ s.drained = [] := by
    have achieved := sound.achieved
    rwa [Achieved, fresh] at achieved
  have taken := run_takingAll handler attached fresh looking going
  have soundTaken := taken ▸ sound.run handler takingAll
  obtain ⟨threads, joined⟩ := run_joiningAll handler soundTaken rfl rfl looking
  have tidy : ∀ session ∈ s.listener.sessions, session.Tidy := by
    intro session member
    obtain ⟨number, -, found⟩ := List.mem_filterMap.1 member
    exact sound.of_getElem? found
  intro t
  have whole : t = _ := s.run_append handler takingAll _
  rw [taken] at whole
  replace whole := whole.trans joined
  rw [whole, Listener.stop_eq handler s.shared.forgotten (by rw [listener, fresh]; rfl) going tidy]
  refine ⟨rfl, congrArg (Prod.mk _) ?_⟩
  exact Session.forgotten_forEach _ (Session.forgotten_windUp s.settings handler) _

end Service

end Telematics
