/-
# Telematics.Proofs.Bridge.Notification -- the bridge is told of the shutdown

Somebody tells the bridge, whose script is to stop its listener and to be ready
then (`Client.bridgeScript`).  What is done to the surroundings is done before the
next step of the script: whoever tells the bridge stops the listener step by step,
and goes on when that has returned.  The threads of the listener, those who write
to it and those who change the registry take their steps in between, as they like.
Nobody else tells the bridge.

When stopping a listener returns, nobody is left, whatever the order of all steps
was; so nobody is left either when the bridge is ready (`nobody_left_behind`).
-/
import Telematics.Client
import Telematics.Proofs.Listener.Stopping
import Telematics.Proofs.Shutdown.Assembly

namespace Telematics.Bridge

set_option autoImplicit false

open Link Shutdown

/-- The bridge's listener and the registry, and somebody who tells the bridge. -/
structure Notification where
  /-- The number of the bridge's listener. -/
  number : Nat
  service : Service State
  course : Course Client.Effect
  thread : Thread Client.Effect

namespace Notification

/-- What happens next. -/
inductive Move where
  /-- A thread of the listener takes a step, or others do something to it. -/
  | listener (move : Service.Move State)
  /-- Others leave a registry behind, whatever they have done to it. -/
  | registry (course : Course Client.Effect)
  /-- Whoever tells the bridge takes a step. -/
  | tell

/-- What handles the messages that reach the bridge. -/
def handler (n : Notification) : Handler State :=
  Bridge.handler n.course.registry.snapshot

/-- The next step of a script, or of a round. -/
def goOn (n : Notification) : Notification :=
  let (course, thread) := Course.step (n.course, n.thread)
  { n with course, thread }

/-- Whoever tells the bridge goes on, unless it has still to stop the listener. -/
def tell (n : Notification) : Notification :=
  match n.thread.stack with
  | .acting _ (.perform (.stopListener number) _) :: _ =>
    if number = n.number ∧ n.service.stopping ≠ .done then { n with service := n.service.stop }
    else n.goOn
  | _ => n.goOn

def step (n : Notification) : Move → Notification
  | .listener .stop => n
  | .listener move => { n with service := n.service.step n.handler move }
  | .registry course => { n with course }
  | .tell => n.tell

/-- What a number of moves lead to. -/
def run (n : Notification) (moves : List Move) : Notification :=
  moves.foldl step n

variable {n : Notification}

theorem step_listener (n : Notification) (move : Service.Move State) :
    n.step (.listener move) = n ∨
      n.step (.listener move) = { n with service := n.service.step n.handler move } := by
  cases move with
  | stop => exact .inl rfl
  | connect | accept | session | others => exact .inr rfl

/-! ## Where the listener is -/

/-- The listener has been stopped, or that is what has to be done first. -/
structure Sound (n : Notification) : Prop where
  service : n.service.Sound
  first : n.service.stopping = .done ∨
    ∃ who below, n.thread.stack = .acting who (Client.bridgeScript n.number) :: below

/-- Who tells the bridge goes on only when the listener has been stopped. -/
theorem Sound.tell_cases (sound : n.Sound) :
    n.service.stopping = .done ∧ n.tell.service = n.service ∨
      n.tell = { n with service := n.service.stop } := by
  unfold tell
  split
  · rename_i who number next below top
    split
    · exact .inr rfl
    · rename_i past
      rcases sound.first with done | ⟨who', below', top'⟩
      · exact .inl ⟨done, rfl⟩
      · rw [top'] at top
        cases top
        exact .inl ⟨Decidable.not_not.1 fun running => past ⟨rfl, running⟩, rfl⟩
  · rename_i other
    rcases sound.first with done | ⟨who, below, top⟩
    · exact .inl ⟨done, rfl⟩
    · exact absurd top (other who n.number _ below)

theorem Sound.step (sound : n.Sound) (move : Move) : (n.step move).Sound := by
  cases move with
  | listener move =>
    rcases n.step_listener move with same | same <;> rw [same]
    · exact sound
    · refine ⟨sound.service.step n.handler move, ?_⟩
      rcases sound.first with done | top
      · exact .inl ((sound.service.atRest done).step n.handler move).1.done
      · exact .inr top
  | registry course => exact ⟨sound.service, sound.first⟩
  | tell =>
    show n.tell.Sound
    rcases sound.tell_cases with ⟨done, same⟩ | stopped
    · exact ⟨by rw [same]; exact sound.service, .inl (by rw [same]; exact done)⟩
    · rw [stopped]
      refine ⟨sound.service.stop, ?_⟩
      rcases sound.first with done | top
      · exact .inl ((sound.service.atRest done).step n.handler .stop).1.done
      · exact .inr top

theorem Sound.run (sound : n.Sound) (moves : List Move) : (n.run moves).Sound := by
  induction moves generalizing n with
  | nil => exact sound
  | cons move moves ih => exact ih (sound.step move)

/-- A listener at which nobody is left is left alone. -/
theorem atRest_step (atRest : n.service.AtRest) (move : Move) :
    (n.step move).service.AtRest ∧ (n.step move).service.threads = n.service.threads ∧
      (n.step move).service.seen = n.service.seen := by
  cases move with
  | listener move =>
    rcases n.step_listener move with same | same <;> rw [same]
    · exact ⟨atRest, rfl, rfl⟩
    · exact atRest.step n.handler move
  | registry course => exact ⟨atRest, rfl, rfl⟩
  | tell =>
    have same : n.tell.service = n.service := by
      unfold tell
      split
      · rw [if_neg (fun running => running.2 atRest.done)]
        rfl
      · rfl
    rw [step, same]
    exact ⟨atRest, rfl, rfl⟩

theorem atRest_run (atRest : n.service.AtRest) (moves : List Move) :
    (n.run moves).service.AtRest ∧ (n.run moves).service.threads = n.service.threads ∧
      (n.run moves).service.seen = n.service.seen := by
  induction moves generalizing n with
  | nil => exact ⟨atRest, rfl, rfl⟩
  | cons move moves ih =>
    obtain ⟨still, threads, seen⟩ := atRest_step atRest move
    obtain ⟨atEnd, threads', seen'⟩ := ih still
    exact ⟨atEnd, threads'.trans threads, seen'.trans seen⟩

/-- **Stopping a listener leaves nobody behind.** -/
theorem nobody_left_behind :
    (∀ {σ : Type} (handler : Handler σ) (settings : Channel.Settings) (endpoint : Endpoint)
      (path : Option String) (state : σ) (f : Fabric) (moves : List (Service.Move σ)),
      let s := (Service.start settings endpoint path state f).run handler moves
      s.stopping = .done → s.AtRest ∧ ∀ more,
        (s.run handler more).AtRest ∧ (s.run handler more).threads = s.threads ∧
          (s.run handler more).seen = s.seen) ∧
    (∀ (number : Nat) (settings : Channel.Settings) (endpoint : Endpoint) (path : Option String)
      (state : State) (f : Fabric) (course : Course Client.Effect) (thread : Thread Client.Effect)
      (who : Option Nat) (below : List (Activity Client.Effect)) (moves : List Move),
      thread.stack = .acting who (Client.bridgeScript number) :: below →
      let n := run ⟨number, .start settings endpoint path state f, course, thread⟩ moves
      let ready := n.step .tell
      n.course.registry.status? Client.bridgeId ≠ some .shutdownCompleted →
      ready.course.registry.status? Client.bridgeId = some .shutdownCompleted →
      ready.service.AtRest ∧ ∀ more,
        (ready.run more).service.AtRest ∧
          (ready.run more).service.threads = ready.service.threads ∧
          (ready.run more).service.seen = ready.service.seen) := by
  refine ⟨?_, ?_⟩
  · intro σ handler settings endpoint path state f moves s done
    have sound := (Service.sound_start settings endpoint path state f).run handler moves
    have atRest := sound.atRest done
    exact ⟨atRest, atRest.run handler⟩
  · intro number settings endpoint path state f course thread who below moves top n ready not yes
    have first : Sound ⟨number, .start settings endpoint path state f, course, thread⟩ :=
      ⟨Service.sound_start settings endpoint path state f, .inr ⟨who, below, top⟩⟩
    have sound : n.Sound := first.run moves
    have done : ready.service.stopping = .done := by
      rcases sound.tell_cases with ⟨done, same⟩ | stopped
      · exact (congrArg Service.stopping same).trans done
      · have same : ready.course = n.course := by
          show n.tell.course = n.course
          rw [stopped]
        rw [same] at yes
        exact absurd yes not
    have atRest := (sound.step .tell).service.atRest done
    exact ⟨atRest, atRest_run atRest⟩

section Example

/-- A request to shut down, which is to be answered. -/
def farewell : Frame := ⟨⟨shutdownRequest, by decide⟩, 4, true, .empty⟩

/-- The connections when the request has been written to the first of two. -/
def written : Fabric :=
  (Fabric.write [.new, .new] ⟨0, .near, unnamed⟩ Channel.Settings.standard.transferTimeout
    farewell.encode).2

/-- The first session has taken the request and has not replied, and the second has been started and
is not on the list, when somebody begins to stop the listener. -/
def interrupted : List (Service.Move State) :=
  [.connect ⟨0, .far, unnamed⟩, .accept true, .accept true, .accept true, .accept true,
    .others ⟨false, 0, []⟩ written, .session 0 .serve,
    .connect ⟨1, .far, unnamed⟩, .accept true, .accept true, .accept true,
    .stop, .stop, .stop, .accept true, .accept true, .accept true,
    .stop, .stop, .stop, .stop, .stop,
    .stop, .session 0 .serve, .session 0 .obey, .stop,
    .stop, .session 1 .obey, .stop, .stop]

/-- The same when it is the bridge that stops the listener. -/
def told : List Move :=
  interrupted.map fun
    | .stop => .tell
    | move => .listener move

def registered : Course Client.Effect :=
  ⟨.standard, (Registry.empty.register Client.bridgeId (some (Client.bridgeScript 0))).1, []⟩

/-- Both sessions have ended when stopping returns, and when the bridge is ready. -/
theorem nobody_left_behind_interrupted :
    let first := Service.start .standard .default none ⟨false, 0, []⟩ [.new, .new]
    let s := first.run (Bridge.handler []) interrupted
    let n := run ⟨0, first, registered, .ofScript (Client.bridgeScript 0)⟩ (told ++ [.tell])
    s.stopping = .done ∧ s.threads.length = 2 ∧ s.seen.length = 1 ∧ s.AtRest ∧
      n.course.registry.status? Client.bridgeId ≠ some .shutdownCompleted ∧
      (n.step .tell).course.registry.status? Client.bridgeId = some .shutdownCompleted ∧
      (n.step .tell).service.AtRest := by
  have stopped := nobody_left_behind.1 (Bridge.handler []) .standard .default none ⟨false, 0, []⟩
    [.new, .new] interrupted
  have ready := nobody_left_behind.2 0 .standard .default none ⟨false, 0, []⟩ [.new, .new]
    registered (.ofScript (Client.bridgeScript 0)) none [] (told ++ [.tell]) rfl
  dsimp only at stopped ready ⊢
  refine ⟨by decide +kernel, by decide +kernel, by decide +kernel, (stopped (by decide +kernel)).1,
    by decide +kernel, by decide +kernel, (ready (by decide +kernel) (by decide +kernel)).1⟩

end Example

end Notification

end Telematics.Bridge
