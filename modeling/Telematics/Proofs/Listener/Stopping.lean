/-
# Telematics.Proofs.Listener.Stopping -- who stops a listener waits for everybody

Whoever stops a listener takes the handle of each thread before it waits for its
end, and does not wait where there is no handle.  So what carries the whole is where
the handles are: somebody holds the handle of every session that has not ended, the
list, the accepting thread on its way to the list, or the one who stops, but for the
session that is being joined (`Service.Sound`).  A session that is struck off the list
has ended, since its handle was there; one that is put on the list comes from a thread
that has not ended, so the list is not emptied before that (`Service.Achieved`).

When stopping has returned, nobody holds a handle, so every session has ended
(`Sound.atRest`), and what has ended does nothing any more (`AtRest.run`).
-/
import Telematics.Proofs.Listener.Service

namespace Telematics

set_option autoImplicit false

open Link

/-! ## What a step does to a session -/

namespace Session

variable {σ : Type} {session session' : Session} {shared shared' : Shared σ}

/-- A session that has ended is not in the middle of anything. -/
def Tidy (session : Session) : Prop :=
  session.worker.ended = none ∨
    session.worker.ended = some .returned ∧ session.stage = .reading []

/-- A step of a session leaves its thread alone, or is the end of it. -/
def Onward (session session' : Session) : Prop :=
  session'.worker = session.worker ∨
    session'.worker = session.worker.exit .returned ∧ session'.stage = .reading []

theorem tidy_start (number : Nat) (source : Handle) : (start number source).Tidy :=
  .inl rfl

theorem Onward.tidy (onward : session.Onward session') (going : session.worker.ended = none) :
    session'.Tidy := by
  rcases onward with same | ⟨ended, stage⟩
  · exact .inl (by rw [same, going])
  · exact .inr ⟨by rw [ended]; rfl, stage⟩

theorem Onward.attached (onward : session.Onward session') :
    session'.worker.attached = session.worker.attached := by
  rcases onward with same | ⟨ended, -⟩
  · rw [same]
  · rw [ended]
    rfl

theorem onward_dispatch (handler : Handler σ) (message : Message Handle) :
    session.Onward (session.dispatch handler message shared).1 := by
  unfold dispatch
  split
  · exact .inl rfl
  split <;> exact .inl rfl

variable (settings : Channel.Settings) (handler : Handler σ)

theorem onward_send? (sent : session.send? settings handler shared = some (session', shared')) :
    session.Onward session' := by
  unfold send? at sent
  split at sent
  · cases sent
  split at sent
  · cases sent
  · cases sent
    exact .inl rfl

theorem onward_receive?
    (received : session.receive? settings handler shared = some (session', shared')) :
    session.Onward session' := by
  unfold receive? at received
  split at received
  · cases received
  split at received
  · cases received
  dsimp only at received
  split at received
  · have same : _ = session' := congrArg Prod.fst (Option.some.inj received)
    exact same ▸ onward_dispatch handler _
  · split at received
    · cases received
    · cases received
      exact .inl rfl
  · cases received
    exact .inr ⟨rfl, rfl⟩

theorem onward_stop? (stopped : session.stop? shared = some (session', shared')) :
    session.Onward session' := by
  unfold stop? at stopped
  split at stopped
  · cases stopped
    exact .inr ⟨rfl, rfl⟩
  · cases stopped

theorem onward_pass (time : Nat) :
    session.Onward (session.pass settings handler time shared).1 := by
  unfold pass
  split
  · exact .inl rfl
  split
  · unfold giveUp
    split
    · exact .inr ⟨rfl, rfl⟩
    · exact .inl rfl
  · exact .inl rfl

theorem onward_act? {act : Act}
    (acted : session.act? settings handler shared act = some (session', shared')) :
    session.Onward session' := by
  cases act with
  | serve =>
    rcases Option.or_eq_some_iff.1 acted with sent | ⟨-, received⟩
    · exact onward_send? settings handler sent
    · exact onward_receive? settings handler received
  | obey => exact onward_stop? acted
  | pass time =>
    have same : _ = session' := congrArg Prod.fst (Option.some.inj acted)
    exact same ▸ onward_pass settings handler time

/-- A session that has ended does nothing any more. -/
theorem act?_of_ended (ended : session.worker.ended = some .returned)
    (idle : session.stage = .reading []) (act : Act) :
    session.act? settings handler shared act = none ∨
      session.act? settings handler shared act = some (session, shared) := by
  cases act with
  | serve =>
    have quiet : session.send? settings handler shared = none := by simp only [send?, idle]
    exact .inl (by
      rw [act?, quiet, Option.none_or, receive?_eq_none_of_ended settings handler shared
        (by rw [ended]; rfl)])
  | obey => exact .inl (by simp [act?, stop?, ended])
  | pass time =>
    have still : session.isWaiting = false := by simp [isWaiting, ended]
    exact .inr (by rw [act?, pass_of_not_waiting settings handler time still])

end Session

namespace Service

variable {σ : Type} {s : Service σ}

/-! ## What is behind the one who stops -/

/-- What has been achieved when the one who stops has come so far. -/
def Achieved (s : Service σ) : Prop :=
  match s.stopping with
  | .notYet | .asking | .claiming => s.acceptor.attached = true ∧ s.drained = []
  | .joining => s.drained = []
  | .draining => s.acceptor.ended = some .returned ∧ s.drained = []
  | .askingEach _ | .claimingEach _ | .joiningOne _ _ =>
    s.acceptor.ended = some .returned ∧ s.listed = []
  | .done => s.acceptor.ended = some .returned ∧ s.listed = [] ∧ s.drained = []

/-- A session that runs and whose handle has been taken is the one that is waited for. -/
structure Sound (s : Service σ) : Prop where
  achieved : s.Achieved
  /-- The accepting thread ends when it is about to look, and returns. -/
  looks : s.acceptor.ended = none ∨
    s.acceptor.ended = some .returned ∧ s.accepting = .looking
  /-- The list is what has been kept and what is left to look at. -/
  swept : ∀ number kept left, s.accepting = .sweeping number kept left → s.listed = kept ++ left
  tidy : ∀ session ∈ s.threads, session.Tidy
  /-- The handles that somebody holds have not been taken. -/
  attached : ∀ number ∈ s.unclaimed, ∃ session, s.threads[number]? = some session ∧
    session.worker.attached = true
  apart : s.unclaimed.Nodup
  held : ∀ number session, s.threads[number]? = some session → session.worker.ended = none →
    number ∈ s.unclaimed ∨ ∃ left, s.stopping = .joiningOne number left

theorem sound_start (settings : Channel.Settings) (endpoint : Endpoint) (path : Option String)
    (state : σ) (f : Fabric) : (start settings endpoint path state f).Sound where
  achieved := ⟨rfl, rfl⟩
  looks := .inl rfl
  swept := by simp [start]
  tidy := by simp [start]
  attached := by simp [start, Service.unclaimed, Accepting.newcomer, Stopping.unclaimed]
  apart := List.nodup_nil
  held := by simp [start]

/-! ## Steps of the sessions -/

/-- A session can be replaced by one that has the same handle and runs only if it did. -/
theorem Sound.replace (sound : s.Sound) {number : Nat} {session session' : Session}
    (found : s.threads[number]? = some session) (tidy : session'.Tidy)
    (attached : session'.worker.attached = session.worker.attached)
    (going : session'.worker.ended = none → session.worker.ended = none)
    (shared : Shared (σ × List (Message Handle))) :
    ({ s with threads := s.threads.set number session', shared } : Service σ).Sound where
  achieved := sound.achieved
  looks := sound.looks
  swept := sound.swept
  tidy other member := by
    rcases List.mem_or_eq_of_mem_set member with old | rfl
    · exact sound.tidy other old
    · exact tidy
  attached other unclaimed := by
    obtain ⟨session₀, found₀, attached₀⟩ := sound.attached other unclaimed
    by_cases same : number = other
    · subst same
      obtain rfl : session = session₀ := Option.some.inj (found.symm.trans found₀)
      exact ⟨session', List.getElem?_set_self (List.getElem?_eq_some_iff.1 found).1,
        attached.trans attached₀⟩
    · exact ⟨session₀, (List.getElem?_set_ne same).trans found₀, attached₀⟩
  apart := sound.apart
  held other session₀ found₀ going₀ := by
    by_cases same : number = other
    · subst same
      have now : (s.threads.set number session')[number]? = some session' :=
        List.getElem?_set_self (List.getElem?_eq_some_iff.1 found).1
      obtain rfl : session' = session₀ := Option.some.inj (now.symm.trans found₀)
      exact sound.held number session found (going going₀)
    · exact sound.held other session₀ ((List.getElem?_set_ne same).symm.trans found₀) going₀

theorem Sound.of_getElem? (sound : s.Sound) {number : Nat} {session : Session}
    (found : s.threads[number]? = some session) : session.Tidy :=
  sound.tidy session (List.mem_of_getElem? found)

/-- A step of a session that has ended changes nothing. -/
theorem act_of_ended (handler : Handler σ) {number : Nat} {session : Session}
    (found : s.threads[number]? = some session) (ended : session.worker.ended = some .returned)
    (idle : session.stage = .reading []) (act : Session.Act) : s.act handler number act = s := by
  rw [Service.act, found]
  dsimp only
  rcases session.act?_of_ended s.settings handler.recording ended idle act with none | same
  · rw [none]
  · rw [same]
    have still : s.threads.set number session = s.threads := by
      rw [← (List.getElem?_eq_some_iff.1 found).2, List.set_getElem_self]
    simp only [still]

theorem Sound.act (sound : s.Sound) (handler : Handler σ) (number : Nat) (act : Session.Act) :
    (s.act handler number act).Sound := by
  cases found : s.threads[number]? with
  | none =>
    rw [Service.act, found]
    exact sound
  | some session =>
    rcases sound.of_getElem? found with going | ⟨ended, idle⟩
    · rw [Service.act, found]
      dsimp only
      cases acted : session.act? s.settings handler.recording s.shared act with
      | none => exact sound
      | some reached =>
        have onward := session.onward_act? s.settings handler.recording acted
        exact sound.replace found (onward.tidy going) onward.attached (fun _ => going) reached.2
    · rw [act_of_ended handler found ended idle]
      exact sound

/-! ## Steps of the accepting thread -/

/-- What a step keeps that leaves the sessions and their handles alone. -/
theorem Sound.congr {t : Service σ} (sound : s.Sound) (threads : t.threads = s.threads)
    (unclaimed : t.unclaimed = s.unclaimed)
    (waits : ∀ number left, s.stopping = .joiningOne number left →
      ∃ left', t.stopping = .joiningOne number left')
    (achieved : t.Achieved)
    (looks : t.acceptor.ended = none ∨
      t.acceptor.ended = some .returned ∧ t.accepting = .looking)
    (swept : ∀ number kept left, t.accepting = .sweeping number kept left →
      t.listed = kept ++ left) : t.Sound where
  achieved
  looks
  swept
  tidy := by
    rw [threads]
    exact sound.tidy
  attached := by
    rw [threads, unclaimed]
    exact sound.attached
  apart := by
    rw [unclaimed]
    exact sound.apart
  held number session found going := by
    rw [threads] at found
    rw [unclaimed]
    rcases sound.held number session found going with inside | ⟨left, waited⟩
    · exact .inl inside
    · exact .inr (waits number left waited)

/-- As long as the accepting thread runs, whoever stops has come no further than to wait for it. -/
theorem Achieved.early (achieved : s.Achieved) (going : s.acceptor.ended = none) :
    s.drained = [] ∧ (s.stopping = .joining ∨ s.acceptor.attached = true ∧
      (s.stopping = .notYet ∨ s.stopping = .asking ∨ s.stopping = .claiming)) := by
  unfold Achieved at achieved
  rw [going] at achieved
  generalize s.stopping = phase at achieved
  cases phase with
  | notYet | asking | claiming => exact ⟨achieved.2, .inr ⟨achieved.1, by simp⟩⟩
  | joining => exact ⟨achieved, .inl rfl⟩
  | draining | askingEach | claimingEach | joiningOne | done => cases achieved.1

theorem Achieved.of_going {t : Service σ} (achieved : s.Achieved)
    (going : s.acceptor.ended = none) (stopping : t.stopping = s.stopping)
    (attached : t.acceptor.attached = s.acceptor.attached) (drained : t.drained = s.drained) :
    t.Achieved := by
  obtain ⟨none, phase | ⟨there, phase | phase | phase⟩⟩ := achieved.early going
  · simp [Achieved, stopping, phase, drained, none]
  all_goals simp [Achieved, stopping, phase, attached, there, drained, none]

theorem Achieved.unclaimed (achieved : s.Achieved) (going : s.acceptor.ended = none) :
    s.stopping.unclaimed s.drained = [] := by
  obtain ⟨-, phase | ⟨-, phase | phase | phase⟩⟩ := achieved.early going <;> rw [phase] <;> rfl

theorem Sound.lt_of_unclaimed (sound : s.Sound) {number : Nat} (inside : number ∈ s.unclaimed) :
    number < s.threads.length := by
  obtain ⟨session, found, -⟩ := sound.attached number inside
  exact (List.getElem?_eq_some_iff.1 found).1

/-- A session that has been started is on its way to the list. -/
theorem Sound.spawn (sound : s.Sound) (going : s.acceptor.ended = none) {source : Handle}
    (spawning : s.accepting = .spawning source) :
    ({ s with
      opened := s.opened + 1
      threads := s.threads ++ [.start (s.opened + 1) source]
      accepting := .sweeping s.threads.length [] s.listed } : Service σ).Sound := by
  have nobody := sound.achieved.unclaimed going
  have before : s.unclaimed = s.listed := by
    rw [Service.unclaimed, spawning, nobody]
    simp [Accepting.newcomer]
  have after : (({ s with
      opened := s.opened + 1
      threads := s.threads ++ [.start (s.opened + 1) source]
      accepting := .sweeping s.threads.length [] s.listed } : Service σ)).unclaimed =
      s.listed ++ [s.threads.length] := by
    show s.listed ++ [s.threads.length] ++ s.stopping.unclaimed s.drained = _
    rw [nobody, List.append_nil]
  refine ⟨sound.achieved.of_going going rfl rfl rfl, .inl going, ?_, ?_, ?_, ?_, ?_⟩
  · intro number kept left same
    cases same
    rfl
  · intro session member
    rcases List.mem_append.1 member with old | new
    · exact sound.tidy session old
    · rw [List.mem_singleton.1 new]
      exact Session.tidy_start ..
  · intro number inside
    rw [after] at inside
    rcases List.mem_append.1 inside with old | new
    · have old := before ▸ old
      obtain ⟨session, found, attached⟩ := sound.attached number old
      exact ⟨session, (List.getElem?_append_left (sound.lt_of_unclaimed old)).trans found, attached⟩
    · rw [List.mem_singleton.1 new]
      exact ⟨_, List.getElem?_concat_length, rfl⟩
  · rw [after]
    refine List.nodup_append.2 ⟨before ▸ sound.apart, List.pairwise_singleton _ _, ?_⟩
    intro number old other new same
    have inside := sound.lt_of_unclaimed (before ▸ old)
    rw [same, List.mem_singleton.1 new] at inside
    exact Nat.lt_irrefl _ inside
  · intro number session found running
    rw [after]
    rcases Nat.lt_or_ge number s.threads.length with old | new
    · have found := (List.getElem?_append_left old).symm.trans found
      rcases sound.held number session found running with inside | waited
      · exact .inl (List.mem_append_left _ (before ▸ inside))
      · exact .inr waited
    · have last : number < (s.threads ++ [Session.start (s.opened + 1) source]).length :=
        (List.getElem?_eq_some_iff.1 found).1
      have same : number = s.threads.length := by
        rw [List.length_append, List.length_singleton] at last
        omega
      exact .inl (by simp [same])

/-- What is struck off the list has ended, because its handle is there. -/
theorem Sound.strike (sound : s.Sound) (going : s.acceptor.ended = none) {number next : Nat}
    {kept left : List Nat} (sweeping : s.accepting = .sweeping number kept (next :: left))
    (stopped : s.runs next = false) :
    Service.Sound { s with
      listed := kept ++ left
      accepting := .sweeping number kept left } := by
  have listed := sound.swept number kept (next :: left) sweeping
  have nobody := sound.achieved.unclaimed going
  have before : s.unclaimed = kept ++ next :: left ++ [number] := by
    rw [Service.unclaimed, sweeping, nobody, listed]
    simp [Accepting.newcomer]
  have after : ({ s with listed := kept ++ left, accepting := .sweeping number kept left } :
      Service σ).unclaimed = kept ++ left ++ [number] := by
    show kept ++ left ++ [number] ++ s.stopping.unclaimed s.drained = _
    rw [nobody, List.append_nil]
  have fewer : (kept ++ left ++ [number]).Sublist (kept ++ next :: left ++ [number]) :=
    ((List.sublist_cons_self next left).append_left kept).append_right [number]
  have ended : ∀ session, s.threads[next]? = some session → session.worker.ended ≠ none := by
    intro session found running
    obtain ⟨session₀, found₀, attached⟩ := sound.attached next (before ▸ by simp)
    obtain rfl : session = session₀ := Option.some.inj (found.symm.trans found₀)
    simp [runs, found, Worker.isRunning, attached, running] at stopped
  refine ⟨sound.achieved.of_going going rfl rfl rfl, .inl going, ?_, sound.tidy, ?_, ?_, ?_⟩
  · intro number kept left same
    cases same
    rfl
  · intro number inside
    rw [after] at inside
    exact sound.attached number (before ▸ fewer.subset inside)
  · rw [after]
    exact (before ▸ sound.apart : (kept ++ next :: left ++ [number]).Nodup).sublist fewer
  · intro other session found running
    rw [after]
    rcases sound.held other session found running with inside | waited
    · have stays : other ≠ next := by
        rintro rfl
        exact ended session found running
      rw [before] at inside
      exact .inl (by simpa [stays] using inside)
    · exact .inr waited

theorem Sound.accept (sound : s.Sound) (granted : Bool) : (s.accept granted).Sound := by
  unfold Service.accept
  split
  · exact sound
  rename_i running
  have going : s.acceptor.ended = none := by simpa using running
  have onward : ∀ number left, s.stopping = .joiningOne number left →
      ∃ left', s.stopping = .joiningOne number left' := fun _ left waited => ⟨left, waited⟩
  -- a step that leaves the sessions and the list alone
  have plain : ∀ (t : Service σ), s.accepting.newcomer = [] → t.accepting.newcomer = [] →
      t.threads = s.threads → t.listed = s.listed → t.stopping = s.stopping →
      t.drained = s.drained → t.acceptor.attached = s.acceptor.attached →
      (t.acceptor.ended = none ∨
        t.acceptor.ended = some .returned ∧ t.accepting = .looking) → t.Sound := by
    intro t nobody nobody' threads listed stopping drained attached looks
    refine sound.congr threads ?_ (by rw [stopping]; exact onward)
      (sound.achieved.of_going going stopping attached drained) looks ?_
    · rw [Service.unclaimed, Service.unclaimed, listed, stopping, drained, nobody, nobody']
    · intro number kept left same
      rw [same] at nobody'
      cases nobody'
  split
  · rename_i looking
    have nobody : s.accepting.newcomer = [] := by rw [looking]; rfl
    split
    · exact plain _ nobody nobody rfl rfl rfl rfl rfl (.inr ⟨rfl, looking⟩)
    · exact plain _ nobody rfl rfl rfl rfl rfl rfl (.inl going)
  · rename_i polling
    split <;> exact plain _ (by rw [polling]; rfl) rfl rfl rfl rfl rfl rfl (.inl going)
  · rename_i source spawning
    split
    · exact sound.spawn going spawning
    · exact plain _ (by rw [spawning]; rfl) rfl rfl rfl rfl rfl rfl (.inl going)
  · rename_i number kept sweeping
    have listed := sound.swept number kept [] sweeping
    refine sound.congr rfl ?_ onward (sound.achieved.of_going going rfl rfl rfl) (.inl going) nofun
    simp [Service.unclaimed, sweeping, listed, Accepting.newcomer]
  · rename_i number kept next left sweeping
    have listed := sound.swept number kept (next :: left) sweeping
    dsimp only
    split
    · refine sound.congr rfl ?_ onward (sound.achieved.of_going going rfl rfl rfl) (.inl going) ?_
      · simp [Service.unclaimed, sweeping, listed, Accepting.newcomer]
      · intro number kept left same
        cases same
        rfl
    · rename_i stopped
      exact sound.strike going sweeping (by simpa using stopped)

/-! ## Steps of the one who stops -/

theorem adjust_of_getElem? {number : Nat} {session : Session}
    (found : s.threads[number]? = some session) (change : Worker → Worker) :
    s.adjust number change =
      { s with threads :=
          s.threads.set number { session with worker := change session.worker } } := by
  simp only [adjust, found]

/-- A session that is asked to stop keeps its handle. -/
theorem Sound.ask (sound : s.Sound) (number : Nat) : (s.adjust number .stop).Sound := by
  cases found : s.threads[number]? with
  | none =>
    rw [adjust, found]
    exact sound
  | some session =>
    rw [adjust_of_getElem? found]
    have before : session.Tidy := sound.of_getElem? found
    have asked : Session.Tidy { session with worker := session.worker.stop } := before
    exact sound.replace found asked rfl (fun going => going) s.shared

/-- Who takes the handle of a session gets it, and is the only one that has to wait then. -/
theorem Sound.claim (sound : s.Sound) {next : Nat} {left : List Nat}
    (claiming : s.stopping = .claimingEach (next :: left)) :
    (s.threads[next]?).any (·.worker.claim.1) = true ∧
      ({ s.adjust next (·.claim.2) with stopping := .joiningOne next left } : Service σ).Sound := by
  obtain ⟨ended, empty⟩ : s.acceptor.ended = some .returned ∧ s.listed = [] := by
    have achieved := sound.achieved
    rwa [Achieved, claiming] at achieved
  have looking : s.accepting = .looking :=
    (sound.looks.resolve_left (by simp [ended])).2
  have before : s.unclaimed = next :: left := by
    simp [Service.unclaimed, empty, looking, claiming, Accepting.newcomer, Stopping.unclaimed]
  obtain ⟨session, found, attached⟩ := sound.attached next (by simp [before])
  refine ⟨by simp [found, Worker.claim, attached], ?_⟩
  rw [adjust_of_getElem? found]
  have apart := sound.apart
  rw [before, List.nodup_cons] at apart
  have after : ({ s with
      threads := s.threads.set next { session with worker := session.worker.claim.2 }
      stopping := .joiningOne next left } : Service σ).unclaimed = left := by
    show s.listed ++ s.accepting.newcomer ++ left = left
    rw [empty, looking]
    rfl
  refine ⟨⟨ended, empty⟩, sound.looks, sound.swept, ?_, ?_, ?_, ?_⟩
  · intro other member
    rcases List.mem_or_eq_of_mem_set member with old | rfl
    · exact sound.tidy other old
    · have tidy : session.Tidy := sound.of_getElem? found
      exact tidy
  · intro number inside
    rw [after] at inside
    have other : next ≠ number := by
      rintro rfl
      exact apart.1 inside
    obtain ⟨session₀, found₀, attached₀⟩ :=
      sound.attached number (before ▸ List.mem_cons_of_mem _ inside)
    exact ⟨session₀, (List.getElem?_set_ne other).trans found₀, attached₀⟩
  · rw [after]
    exact apart.2
  · intro number session₀ found₀ going
    rw [after]
    by_cases same : next = number
    · exact .inr ⟨left, by rw [same]⟩
    · have found₀ := (List.getElem?_set_ne same).symm.trans found₀
      rcases sound.held number session₀ found₀ going with inside | ⟨left', waited⟩
      · rw [before] at inside
        exact .inl ((List.mem_cons.1 inside).resolve_left (Ne.symm same))
      · rw [claiming] at waited
        cases waited

/-- Who has waited for a session has waited until it ended. -/
theorem Sound.joined (sound : s.Sound) {number : Nat} {left : List Nat}
    (joining : s.stopping = .joiningOne number left)
    (ended : (s.threads[number]?).any (·.worker.joined?.isSome) = true) :
    ({ s with stopping := .claimingEach left } : Service σ).Sound := by
  have same : ({ s with stopping := .claimingEach left } : Service σ).unclaimed = s.unclaimed := by
    simp only [Service.unclaimed, joining, Stopping.unclaimed]
  refine ⟨?_, sound.looks, sound.swept, sound.tidy, by rw [same]; exact sound.attached,
    by rw [same]; exact sound.apart, ?_⟩
  · have achieved := sound.achieved
    rwa [Achieved, joining] at achieved
  · intro other session found going
    rw [same]
    rcases sound.held other session found going with inside | ⟨left', waited⟩
    · exact .inl inside
    · rw [joining] at waited
      cases waited
      replace found : s.threads[number]? = some session := found
      simp [found, Worker.joined?, going] at ended

/-- Whoever stops has come further, and the sessions and their handles have been left alone. -/
theorem Sound.advance {t : Service σ} (sound : s.Sound)
    (waits : ∀ number left, s.stopping ≠ .joiningOne number left) (threads : t.threads = s.threads)
    (unclaimed : t.unclaimed = s.unclaimed) (achieved : t.Achieved)
    (ended : t.acceptor.ended = s.acceptor.ended) (accepting : t.accepting = s.accepting)
    (listed : s.accepting = .looking ∨ t.listed = s.listed) : t.Sound := by
  refine sound.congr threads unclaimed (fun number left waited => absurd waited (waits _ _))
    achieved (by rw [ended, accepting]; exact sound.looks) fun number kept left sweeping => ?_
  rw [accepting] at sweeping
  rcases listed with looking | same
  · rw [looking] at sweeping
    cases sweeping
  · rw [same]
    exact sound.swept number kept left sweeping

theorem Sound.stop (sound : s.Sound) : s.stop.Sound := by
  have achieved := sound.achieved
  unfold Achieved at achieved
  unfold Service.stop
  cases phase : s.stopping with
  | notYet =>
    rw [phase] at achieved
    exact sound.advance (by simp [phase]) rfl
      (by simp [Service.unclaimed, phase, Stopping.unclaimed]) achieved rfl rfl (.inr rfl)
  | asking =>
    rw [phase] at achieved
    exact sound.advance (by simp [phase]) rfl
      (by simp [Service.unclaimed, phase, Stopping.unclaimed]) achieved rfl rfl (.inr rfl)
  | claiming =>
    rw [phase] at achieved
    have there : s.acceptor.claim.1 = true := achieved.1
    dsimp only
    rw [if_pos there]
    exact sound.advance (by simp [phase]) rfl
      (by simp [Service.unclaimed, phase, Stopping.unclaimed]) achieved.2 rfl rfl (.inr rfl)
  | joining =>
    rw [phase] at achieved
    dsimp only
    split
    · rename_i joined
      have ended : s.acceptor.ended = some .returned :=
        (sound.looks.resolve_left fun going => by simp [Worker.joined?, going] at joined).1
      exact sound.advance (by simp [phase]) rfl
        (by simp [Service.unclaimed, phase, Stopping.unclaimed]) ⟨ended, achieved⟩
        rfl rfl (.inr rfl)
    · exact sound
  | draining =>
    rw [phase] at achieved
    have looking : s.accepting = .looking :=
      (sound.looks.resolve_left (by simp [achieved.1])).2
    -- the handles go from the list to the one who stops
    exact sound.advance (by simp [phase]) rfl
      (by simp [Service.unclaimed, phase, looking, Stopping.unclaimed, Accepting.newcomer])
      ⟨achieved.1, rfl⟩ rfl rfl (.inl looking)
  | askingEach left =>
    rw [phase] at achieved
    cases left with
    | nil =>
      exact sound.advance (by simp [phase]) rfl
        (by simp [Service.unclaimed, phase, Stopping.unclaimed]) achieved rfl rfl (.inr rfl)
    | cons next left =>
      exact (sound.ask next).advance (by simp [adjust, phase]) rfl
        (by simp [Service.unclaimed, adjust, phase, Stopping.unclaimed]) achieved rfl rfl (.inr rfl)
  | claimingEach left =>
    rw [phase] at achieved
    cases left with
    | nil =>
      exact sound.advance (by simp [phase]) rfl
        (by simp [Service.unclaimed, phase, Stopping.unclaimed]) ⟨achieved.1, achieved.2, rfl⟩
        rfl rfl (.inr rfl)
    | cons next left =>
      obtain ⟨there, claimed⟩ := sound.claim phase
      dsimp only
      rw [if_pos there]
      exact claimed
  | joiningOne number left =>
    dsimp only
    split
    · rename_i ended
      exact sound.joined phase ended
    · exact sound
  | done => exact sound

/-! ## Whole runs -/

theorem Sound.step (sound : s.Sound) (handler : Handler σ) (move : Move σ) :
    (s.step handler move).Sound := by
  cases move with
  | connect source =>
    rw [Service.step]
    split
    · exact sound
    · exact { sound with }
  | accept granted => exact sound.accept granted
  | session number act => exact sound.act handler number act
  | stop => exact sound.stop
  | others state fabric => exact { sound with }

theorem Sound.run (sound : s.Sound) (handler : Handler σ) (moves : List (Move σ)) :
    (s.run handler moves).Sound := by
  induction moves generalizing s with
  | nil => exact sound
  | cons move moves ih => exact ih (sound.step handler move)

/-! ## When stopping has returned -/

/-- Nobody does anything any more. -/
structure AtRest (s : Service σ) : Prop where
  done : s.stopping = .done
  acceptor : s.acceptor.ended = some .returned
  /-- There is no session on its way to the list. -/
  looking : s.accepting = .looking
  /-- Every session that has ever been started has ended, and none is with its handler. -/
  sessions : ∀ session ∈ s.threads,
    session.worker.ended = some .returned ∧ session.stage = .reading []
  listed : s.listed = []
  drained : s.drained = []

theorem Sound.atRest (sound : s.Sound) (done : s.stopping = .done) : s.AtRest := by
  obtain ⟨acceptor, listed, drained⟩ : s.acceptor.ended = some .returned ∧ s.listed = [] ∧
      s.drained = [] := by
    have achieved := sound.achieved
    rwa [Achieved, done] at achieved
  have looking : s.accepting = .looking :=
    (sound.looks.resolve_left (by simp [acceptor])).2
  have none : s.unclaimed = [] := by
    simp [Service.unclaimed, listed, looking, done, Accepting.newcomer, Stopping.unclaimed]
  refine ⟨done, acceptor, looking, fun session member => ?_, listed, drained⟩
  refine (sound.tidy session member).resolve_left fun going => ?_
  obtain ⟨number, inside, rfl⟩ := List.mem_iff_getElem.1 member
  rcases sound.held number _ (List.getElem?_eq_getElem inside) going with unclaimed | ⟨left, waited⟩
  · rw [none] at unclaimed
    cases unclaimed
  · rw [done] at waited
    cases waited

theorem AtRest.step (atRest : s.AtRest) (handler : Handler σ) (move : Move σ) :
    (s.step handler move).AtRest ∧ (s.step handler move).threads = s.threads ∧
      (s.step handler move).seen = s.seen := by
  have past : s.acceptor.ended.isSome = true := by rw [atRest.acceptor]; rfl
  cases move with
  | connect source =>
    rw [Service.step, if_pos past]
    exact ⟨atRest, rfl, rfl⟩
  | accept granted =>
    have still : s.accept granted = s := by
      unfold Service.accept
      exact if_pos past
    rw [Service.step, still]
    exact ⟨atRest, rfl, rfl⟩
  | session number act =>
    have still : s.act handler number act = s := by
      cases found : s.threads[number]? with
      | none => rw [Service.act, found]
      | some session =>
        obtain ⟨ended, idle⟩ := atRest.sessions session (List.mem_of_getElem? found)
        exact act_of_ended handler found ended idle act
    rw [Service.step, still]
    exact ⟨atRest, rfl, rfl⟩
  | stop =>
    rw [Service.step, Service.stop, atRest.done]
    exact ⟨atRest, rfl, rfl⟩
  | others state fabric => exact ⟨{ atRest with }, rfl, rfl⟩

theorem AtRest.run (atRest : s.AtRest) (handler : Handler σ) (moves : List (Move σ)) :
    (s.run handler moves).AtRest ∧ (s.run handler moves).threads = s.threads ∧
      (s.run handler moves).seen = s.seen := by
  induction moves generalizing s with
  | nil => exact ⟨atRest, rfl, rfl⟩
  | cons move moves ih =>
    obtain ⟨still, threads, seen⟩ := atRest.step handler move
    obtain ⟨atEnd, threads', seen'⟩ := ih still
    exact ⟨atEnd, threads'.trans threads, seen'.trans seen⟩

end Service

end Telematics
