/-
# Telematics.Proofs.Conversation.EndToEnd -- every message arrives and is answered

What holds of each caller and its session holds of all of them after every run,
since a step touches only one connection (`Good.step`).  So, in whatever order
the steps are taken:

* each result is the one that is expected, and each session hands on what its
  caller has sent, once and in order;
* no run takes more steps than a number that the requests determine, and one that
  cannot go on has every caller done.
-/
import Telematics.Proofs.Conversation.Progress

namespace Telematics.Conversation

set_option autoImplicit false

open Link

variable {σ : Type} {handler : Handler σ} {answer : Message Handle → Payload} {peer : String}
  {wishes : List (List Request)}

/-! ## All of them -/

/-- Each caller, its session and their connection are sound. -/
structure Good (answer : Message Handle → Payload) (peer : String) (wishes : List (List Request))
    (c : Conversation σ) : Prop where
  callers : c.callers.length = wishes.length
  servers : c.servers.length = wishes.length
  links : c.shared.fabric.length = wishes.length
  sound : ∀ {number requests caller server link}, wishes[number]? = some requests →
    c.callers[number]? = some caller → c.servers[number]? = some server →
    c.shared.fabric[number]? = some link →
    Sound answer peer number requests caller server link

/-- A bound on the steps that all of them may still take. -/
def costs : List Caller → List Server → List Connection → Nat
  | caller :: callers, server :: servers, link :: links =>
    cost caller server link + costs callers servers links
  | _, _, _ => 0

theorem costs_set_lt {callers : List Caller} {servers : List Server} {links : List Connection}
    {number : Nat} {caller caller' : Caller} {server server' : Server} {link link' : Connection}
    (ofCaller : callers[number]? = some caller) (ofServer : servers[number]? = some server)
    (ofLink : links[number]? = some link)
    (less : cost caller' server' link' < cost caller server link) :
    costs (callers.set number caller') (servers.set number server') (links.set number link') <
      costs callers servers links := by
  induction number generalizing callers servers links with
  | zero =>
    cases callers <;> cases servers <;> cases links <;> cases ofCaller <;> cases ofServer <;>
      cases ofLink
    simp only [List.set_cons_zero, costs]
    omega
  | succ number ih =>
    cases callers with
    | nil => cases ofCaller
    | cons _ callers =>
      cases servers with
      | nil => cases ofServer
      | cons _ servers =>
        cases links with
        | nil => cases ofLink
        | cons _ links =>
          simp only [List.set_cons_succ, costs]
          have := ih ofCaller ofServer ofLink
          omega

namespace Good

variable {c : Conversation σ}

theorem exists_line (good : Good answer peer wishes c) {number : Nat}
    (inside : number < wishes.length) :
    ∃ requests caller server link, wishes[number]? = some requests ∧
      c.callers[number]? = some caller ∧ c.servers[number]? = some server ∧
      c.shared.fabric[number]? = some link ∧
      Sound answer peer number requests caller server link := by
  have ofCaller := List.getElem?_eq_getElem (l := c.callers) (by rwa [good.callers])
  have ofServer := List.getElem?_eq_getElem (l := c.servers) (by rwa [good.servers])
  have ofLink := List.getElem?_eq_getElem (l := c.shared.fabric) (by rwa [good.links])
  have ofWishes := List.getElem?_eq_getElem inside
  exact ⟨_, _, _, _, ofWishes, ofCaller, ofServer, ofLink,
    good.sound ofWishes ofCaller ofServer ofLink⟩

theorem sound_of_caller (good : Good answer peer wishes c) {number : Nat} {caller : Caller}
    (ofCaller : c.callers[number]? = some caller) :
    ∃ requests server link, wishes[number]? = some requests ∧ c.servers[number]? = some server ∧
      c.shared.fabric[number]? = some link ∧
      Sound answer peer number requests caller server link := by
  have inside : number < wishes.length := by
    rw [← good.callers]
    exact (List.getElem?_eq_some_iff.1 ofCaller).1
  obtain ⟨requests, _, server, link, ofWishes, again, ofServer, ofLink, sound⟩ :=
    good.exists_line inside
  cases ofCaller.symm.trans again
  exact ⟨requests, server, link, ofWishes, ofServer, ofLink, sound⟩

theorem sound_of_server (good : Good answer peer wishes c) {number : Nat} {server : Server}
    (ofServer : c.servers[number]? = some server) :
    ∃ requests caller link, wishes[number]? = some requests ∧ c.callers[number]? = some caller ∧
      c.shared.fabric[number]? = some link ∧
      Sound answer peer number requests caller server link := by
  have inside : number < wishes.length := by
    rw [← good.servers]
    exact (List.getElem?_eq_some_iff.1 ofServer).1
  obtain ⟨requests, caller, _, link, ofWishes, ofCaller, again, ofLink, sound⟩ :=
    good.exists_line inside
  cases ofServer.symm.trans again
  exact ⟨requests, caller, link, ofWishes, ofCaller, ofLink, sound⟩

theorem set (good : Good answer peer wishes c) {c' : Conversation σ} {number : Nat}
    {requests : List Request} {caller : Caller} {server : Server} {link : Connection}
    (ofWishes : wishes[number]? = some requests)
    (callers : c'.callers = c.callers.set number caller)
    (servers : c'.servers = c.servers.set number server)
    (links : c'.shared.fabric = c.shared.fabric.set number link)
    (sound : Sound answer peer number requests caller server link) :
    Good answer peer wishes c' where
  callers := by rw [callers, List.length_set, good.callers]
  servers := by rw [servers, List.length_set, good.servers]
  links := by rw [links, List.length_set, good.links]
  sound := by
    intro other requests' caller' server' link' ofWishes' ofCaller ofServer ofLink
    rw [callers] at ofCaller
    rw [servers] at ofServer
    rw [links] at ofLink
    by_cases same : number = other
    · subst same
      have inside : number < wishes.length := (List.getElem?_eq_some_iff.1 ofWishes).1
      rw [List.getElem?_set_self (by rwa [good.callers])] at ofCaller
      rw [List.getElem?_set_self (by rwa [good.servers])] at ofServer
      rw [List.getElem?_set_self (by rwa [good.links])] at ofLink
      rw [ofWishes] at ofWishes'
      cases ofWishes'
      cases ofCaller
      cases ofServer
      cases ofLink
      exact sound
    · rw [List.getElem?_set_ne same] at ofCaller ofServer ofLink
      exact good.sound ofWishes' ofCaller ofServer ofLink

/-- Every step keeps all of them sound and leaves fewer steps to be taken. -/
theorem step (answers : Answers handler answer) (good : Good answer peer wishes c)
    {choice : Choice} {c' : Conversation σ} (step : c.step? handler choice = some c') :
    Good answer peer wishes c' ∧
      costs c'.callers c'.servers c'.shared.fabric < costs c.callers c.servers c.shared.fabric := by
  cases choice with
  | caller number most =>
    obtain ⟨caller, ofCaller, mapped⟩ := Option.bind_eq_some_iff.1 step
    obtain ⟨⟨caller', channel, fabric⟩, stepped, rfl⟩ := Option.map_eq_some_iff.1 mapped
    obtain ⟨requests, server, link, ofWishes, ofServer, ofLink, sound⟩ :=
      good.sound_of_caller ofCaller
    obtain ⟨link', rfl, sound', less⟩ := sound.caller_step ofLink stepped
    have same : c.servers = c.servers.set number server := by
      obtain ⟨inside, rfl⟩ := List.getElem?_eq_some_iff.1 ofServer
      rw [List.set_getElem_self]
    refine ⟨good.set ofWishes rfl same rfl sound', ?_⟩
    have fewer := costs_set_lt ofCaller ofServer ofLink less
    rwa [← same] at fewer
  | server number most =>
    obtain ⟨server, ofServer, mapped⟩ := Option.bind_eq_some_iff.1 step
    obtain ⟨⟨server', shared⟩, stepped, rfl⟩ := Option.map_eq_some_iff.1 mapped
    obtain ⟨requests, caller, link, ofWishes, ofCaller, ofLink, sound⟩ :=
      good.sound_of_server ofServer
    obtain ⟨link', moved, sound', less⟩ := sound.server_step answers ofLink stepped
    have same : c.callers = c.callers.set number caller := by
      obtain ⟨inside, rfl⟩ := List.getElem?_eq_some_iff.1 ofCaller
      rw [List.set_getElem_self]
    refine ⟨good.set ofWishes same rfl moved sound', ?_⟩
    have fewer := costs_set_lt ofCaller ofServer ofLink less
    rw [← same, ← moved] at fewer
    exact fewer

/-- Every run keeps all of them sound, and takes no more steps than they cost. -/
theorem run (answers : Answers handler answer) (good : Good answer peer wishes c)
    {choices : List Choice} {c' : Conversation σ} (run : c.run? handler choices = some c') :
    Good answer peer wishes c' ∧
      choices.length + costs c'.callers c'.servers c'.shared.fabric ≤
        costs c.callers c.servers c.shared.fabric := by
  induction choices generalizing c with
  | nil =>
    cases run
    exact ⟨good, by simp⟩
  | cons choice choices ih =>
    obtain ⟨next, step, rest⟩ := Option.bind_eq_some_iff.1 run
    obtain ⟨kept, less⟩ := good.step answers step
    obtain ⟨kept, most⟩ := ih kept rest
    refine ⟨kept, ?_⟩
    rw [List.length_cons]
    omega

end Good

/-! ## The beginning -/

theorem sound_start (answer : Message Handle → Payload) (peer : String) (number : Nat)
    (requests : List Request) :
    Sound answer peer number requests (Caller.start peer number requests) (Server.start number)
      .new where
  handle := rfl
  source := rfl
  running := rfl
  up := Pipe.sound_new
  down := Pipe.sound_new
  wishes := ⟨[], [], rfl, rfl, .ready⟩
  results := ⟨[], rfl, rfl⟩
  seen := ⟨[], [], rfl, rfl,
    .listening .ready [] rfl rfl (by simp) trivial⟩

theorem good_start (answer : Message Handle → Payload) (channel : Channel) (state : σ)
    (peer : String) (wishes : List (List Request)) :
    Good answer peer wishes (start channel state peer wishes) where
  callers := by simp [start]
  servers := by simp [start]
  links := by simp [start]
  sound := by
    intro number requests caller server link ofWishes ofCaller ofServer ofLink
    have inside : number < wishes.length := (List.getElem?_eq_some_iff.1 ofWishes).1
    simp only [start, List.getElem?_mapIdx, ofWishes, Option.map_some] at ofCaller
    simp only [start, List.getElem?_map, List.getElem?_range inside, Option.map_some] at ofServer
    simp only [start, List.getElem?_replicate, inside, if_true] at ofLink
    cases ofCaller
    cases ofServer
    cases ofLink
    exact sound_start answer peer number requests

/-- The number of steps that one request may take: its frame and the reply to it have at most so
many bytes, each of which is written and read. -/
def stepsEach : Nat := 4 * (Wire.headerLength + Payload.limit) + 4

theorem costs_of_each {caller : Nat → List Request → Caller} {server : Nat → Server}
    (each : ∀ number requests, cost (caller number requests) (server number) .new =
      stepsEach * requests.length) (wishes : List (List Request)) :
    costs (wishes.mapIdx caller) ((List.range wishes.length).map server)
        (List.replicate wishes.length .new) = stepsEach * total List.length wishes := by
  induction wishes generalizing caller server with
  | nil => rfl
  | cons requests wishes ih =>
    have others : costs (wishes.mapIdx fun number => caller (number + 1))
        ((List.range wishes.length).map fun number => server (number + 1))
        (List.replicate wishes.length .new) = stepsEach * total List.length wishes :=
      ih fun number => each (number + 1)
    simp only [List.mapIdx_cons, List.length_cons, List.range_succ_eq_map, List.map_cons,
      List.map_map, List.replicate_succ, costs, each, total_cons, Nat.mul_add]
    rw [← others]
    rfl

theorem costs_start (channel : Channel) (state : σ) (peer : String)
    (wishes : List (List Request)) :
    costs (start channel state peer wishes).callers (start channel state peer wishes).servers
        (start channel state peer wishes).shared.fabric =
      stepsEach * total List.length wishes := by
  apply costs_of_each
  intro number requests
  simp [cost, Caller.start, Server.start, Connection.new, Pipe.new, stepsEach]

/-! ## End to end -/

/-- What a caller with some requests has done, and what its session has handed on, fit together. -/
structure Agrees (answer : Message Handle → Payload) (source : Handle) (requests : List Request)
    (caller : Caller) (seen : List (Message Handle)) : Prop where
  /-- What was sent is what was requested, as far as it goes. -/
  sent : caller.sent.map contentOf <+: requests.map Request.content
  results : caller.results <+: caller.sent.map (expected answer source)
  /-- What was sent is handed on, once and in order. -/
  seen : seen <+: caller.sent.map (received source)
  /-- When a caller is done, there is a result for each request. -/
  done : caller.Done → caller.sent.map contentOf = requests.map Request.content ∧
    caller.results = caller.sent.map (expected answer source)

theorem Sound.agrees {number : Nat} {requests : List Request} {caller : Caller} {server : Server}
    {link : Connection} (sound : Sound answer peer number requests caller server link) :
    Agrees answer ⟨number, .far, unnamed⟩ requests caller server.seen where
  sent := by
    obtain ⟨begun, next, split, fulfilled, -⟩ := sound.wishes
    rw [split, List.map_append, fulfilled]
    exact List.prefix_append _ _
  results := by
    obtain ⟨finished, whole, results⟩ := sound.results
    rw [results, whole, List.map_append]
    exact List.prefix_append _ _
  seen := by
    obtain ⟨frames, pending, split, handed, -⟩ := sound.seen
    rw [handed, split, List.map_append]
    exact List.prefix_append _ _
  done := by
    intro done
    obtain ⟨begun, next, split, fulfilled, prepared⟩ := sound.wishes
    obtain ⟨finished, whole, results⟩ := sound.results
    rw [done.1] at prepared whole
    cases prepared
    rw [done.2, List.append_nil, List.append_nil] at split
    rw [Caller.Stage.current_ready, List.append_nil] at whole
    rw [split, results, whole]
    exact ⟨whole ▸ fulfilled.symm, rfl⟩

/-- **Every message arrives and is answered.**  Callers that share a channel send what they are
asked to, each over a connection of its own, to a handler that answers each message that asks for a
reply.  In every run each result that a caller has is the expected one, and each session has handed
on what its caller has sent, once and in order; when a caller is done and its session has caught up,
everything has been handed on and nothing is on the way.  No run goes on forever, and where one
cannot go on all callers are done. -/
theorem messages_arrive_and_are_answered (answers : Answers handler answer) (channel : Channel)
    (state : σ) (peer : String) (wishes : List (List Request)) {choices : List Choice}
    {c : Conversation σ}
    (run : (start channel state peer wishes).run? handler choices = some c) :
    (∀ number requests, wishes[number]? = some requests →
      ∃ caller server link, c.callers[number]? = some caller ∧
        c.servers[number]? = some server ∧ c.shared.fabric[number]? = some link ∧
        Agrees answer ⟨number, .far, unnamed⟩ requests caller server.seen ∧
        (caller.Done → (∀ most, c.step? handler (.server number most) = none) →
          server.seen = caller.sent.map (received ⟨number, .far, unnamed⟩) ∧
          link.fromNear.queue = [] ∧ link.fromFar.queue = [])) ∧
    choices.length ≤ stepsEach * total List.length wishes ∧
    ((∀ choice, c.step? handler choice = none) → ∀ caller ∈ c.callers, caller.Done) := by
  obtain ⟨good, most⟩ := (good_start answer channel state peer wishes).run answers run
  rw [costs_start] at most
  refine ⟨?_, by omega, ?_⟩
  · intro number requests ofWishes
    obtain ⟨_, caller, server, link, again, ofCaller, ofServer, ofLink, sound⟩ :=
      good.exists_line (List.getElem?_eq_some_iff.1 ofWishes).1
    cases ofWishes.symm.trans again
    refine ⟨caller, server, link, ofCaller, ofServer, ofLink, sound.agrees, ?_⟩
    intro done still
    refine sound.caught_up handler ofLink done ?_
    intro most
    have none := still most
    simp only [step?, ofServer, Option.bind_some, Option.map_eq_none_iff] at none
    exact none
  · intro stuck caller member
    obtain ⟨number, ofCaller⟩ := List.mem_iff_getElem?.1 member
    obtain ⟨requests, server, link, -, ofServer, ofLink, sound⟩ := good.sound_of_caller ofCaller
    rcases sound.progress handler c.channel ofLink with
      done | ⟨most, next, goesOn⟩ | ⟨most, next, goesOn⟩
    · exact done
    · have none := stuck (.caller number most)
      simp [step?, ofCaller, goesOn] at none
    · have none := stuck (.server number most)
      simp [step?, ofServer, goesOn] at none

/-- A handler that counts the messages and answers with the first two bytes. -/
def firstTwo : Handler Nat where
  take count message := (count + 1, some (message.frame.payload.bytes.take 2))
  note count _ _ := count

def firstTwoOf (message : Message Handle) : Payload where
  bytes := message.frame.payload.bytes.take 2
  length_le := Nat.le_trans (List.length_take_le _ _) (by decide)

theorem answers_firstTwo : Answers firstTwo firstTwoOf where
  short message := Nat.lt_of_le_of_lt (List.length_take_le _ _) (by decide)
  takes _ _ _ := rfl

/-- One caller asks for a reply, and another does not. -/
def askAndTell : List (List Request) :=
  [[⟨⟨7, by decide⟩, [1, 2, 3], by decide, true⟩], [⟨⟨8, by decide⟩, [], by decide, false⟩]]

/-- Both make their messages before either is sent, and all bytes are moved. -/
def mixed : List Choice :=
  [.caller 0 0, .caller 1 0, .caller 0 0, .caller 1 0, .caller 0 99, .server 0 99, .caller 1 99,
    .server 0 99, .server 1 99, .server 0 99, .caller 0 99, .caller 0 99]

theorem askAndTell_arrive :
    ∃ c, (start (.new .standard) 0 "listener" askAndTell).run? firstTwo mixed = some c ∧
      ∀ number requests, askAndTell[number]? = some requests →
        ∃ caller server link, c.callers[number]? = some caller ∧
          c.servers[number]? = some server ∧ c.shared.fabric[number]? = some link ∧
          Agrees firstTwoOf ⟨number, .far, unnamed⟩ requests caller server.seen := by
  have possible : ((start (.new .standard) 0 "listener" askAndTell).run? firstTwo mixed).isSome =
      true := by decide +kernel
  obtain ⟨c, run⟩ := Option.isSome_iff_exists.1 possible
  refine ⟨c, run, ?_⟩
  intro number requests ofWishes
  obtain ⟨arrive, -, -⟩ :=
    messages_arrive_and_are_answered answers_firstTwo (.new .standard) 0 "listener" askAndTell run
  obtain ⟨caller, server, link, ofCaller, ofServer, ofLink, agrees, -⟩ :=
    arrive number requests ofWishes
  exact ⟨caller, server, link, ofCaller, ofServer, ofLink, agrees⟩

end Telematics.Conversation
