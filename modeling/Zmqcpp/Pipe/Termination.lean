import Zmqcpp.Pipe.PipePair
import Mathlib.Data.List.Nodup

set_option autoImplicit false

/-!
# Shutting a pair of pipes down

Either end may ask for the end of the connection, or both at a time. No command reaches an end that
has been deleted, none finds an end in a state that it does not expect, and each lock-free pipe is
deleted once.
-/

namespace Zmqcpp

open Transition

namespace Pipe

def sentTerm (p : Pipe) : Prop := p.state = .termReqSent1 ∨ p.state = .termReqSent2

def gotTerm (p : Pipe) : Prop :=
  p.state = .waitingForDelimiter ∨ p.state = .termAckSent ∨ p.state = .termReqSent2

-- An end that is deleted has answered the peer's request or its acknowledgement.
def sentAck (p : Pipe) : Prop :=
  p.alive = false ∨ p.state = .termAckSent ∨ p.state = .termReqSent2

end Pipe

namespace PipePair

variable {Frame : Type}

/-- The order of an end's commands: nothing follows the acknowledgement, no second request and no
hiccup the request. -/
def Before (first second : PipeCommand) : Prop :=
  first ≠ .pipeTermAck ∧
    (first = .pipeTerm → second ≠ .pipeTerm ∧ ∀ pipe, second ≠ .hiccup pipe)

def hiccups (commands : List PipeCommand) : List Nat :=
  commands.filterMap fun
    | .hiccup pipe => some pipe
    | _ => none

/-- What an end has sent agrees with where both ends are. -/
structure Half (this peer : Pipe) (sent : List PipeCommand) : Prop where
  order : sent.Pairwise Before
  term : .pipeTerm ∈ sent ↔ this.sentTerm ∧ ¬peer.gotTerm
  ack : .pipeTermAck ∈ sent ↔ this.sentAck ∧ peer.alive = true
  hiccup : peer.gotTerm → hiccups sent = []
  asked : peer.gotTerm → this.sentTerm
  gone : peer.alive = false → this.sentAck ∧ sent = []
  released : this.outpipe = none ↔ this.sentAck
  todo : this.todo ≠ .nothing → ¬this.sentAck
  told : this.sink.count .pipeTerminated = if this.alive then 0 else 1

-- The lock-free pipes from an end to its peer: the one it writes to and those it is yet to get.
def lane (this peer : Pipe) (inbox : List PipeCommand) : List Nat :=
  match this.outpipe with
  | some pipe => pipe :: hiccups inbox
  | none => if peer.alive then [peer.inpipe] else []

/-- Each lock-free pipe that exists belongs to one place of one lane. -/
structure Memory (s : PipePair Frame) : Prop where
  last : ∀ pipe, s.this.outpipe = some pipe →
    (pipe :: hiccups s.inbox).getLast? = some s.peer.inpipe
  peerLast : ∀ pipe, s.peer.outpipe = some pipe →
    (pipe :: hiccups s.sent).getLast? = some s.this.inpipe
  apart : (lane s.this s.peer s.inbox ++ lane s.peer s.this s.sent).Nodup
  exist : ∀ pipe,
    s.heap pipe ≠ none ↔ pipe ∈ lane s.this s.peer s.inbox ++ lane s.peer s.this s.sent
  fresh : ∀ pipe, s.heap pipe ≠ none → pipe < s.allocated
  whole : ∀ pipe content, s.heap pipe = some content →
    content.incomplete.all PipeItem.more = true

structure Sound (s : PipePair Frame) : Prop where
  this : Half s.this s.peer s.sent
  peer : Half s.peer s.this s.inbox
  memory : s.Memory
  alive : s.aborted = false

theorem Memory.swap {s : PipePair Frame} (memory : s.Memory) : s.swap.Memory where
  last := memory.peerLast
  peerLast := memory.last
  apart := List.nodup_append_comm.mp memory.apart
  exist := by
    intro pipe
    rw [List.mem_append, or_comm, ← List.mem_append]
    exact memory.exist pipe
  fresh := memory.fresh
  whole := memory.whole

theorem Sound.swap {s : PipePair Frame} (sound : s.Sound) : s.swap.Sound :=
  ⟨sound.peer, sound.this, sound.memory.swap, sound.alive⟩

section Quiet

structure Same (p q : Pipe) : Prop where
  sentTerm : q.sentTerm ↔ p.sentTerm
  gotTerm : q.gotTerm ↔ p.gotTerm
  sentAck : q.sentAck ↔ p.sentAck
  alive : q.alive = p.alive
  inpipe : q.inpipe = p.inpipe
  outpipe : q.outpipe = p.outpipe
  todo : q.todo ≠ .nothing → ¬p.sentAck
  told : q.sink.count .pipeTerminated = p.sink.count .pipeTerminated

theorem Half.this_same {this peer next : Pipe} {sent : List PipeCommand} (half : Half this peer sent)
    (same : Same this next) : Half next peer sent where
  order := half.order
  term := by rw [same.sentTerm]; exact half.term
  ack := by rw [same.sentAck]; exact half.ack
  hiccup := half.hiccup
  asked := by rw [same.sentTerm]; exact half.asked
  gone := by rw [same.sentAck]; exact half.gone
  released := by rw [same.outpipe, same.sentAck]; exact half.released
  todo := by rw [same.sentAck]; exact same.todo
  told := by rw [same.told, same.alive]; exact half.told

theorem Half.peer_same {this peer next : Pipe} {sent : List PipeCommand} (half : Half this peer sent)
    (same : Same peer next) : Half this next sent where
  order := half.order
  term := by rw [same.gotTerm]; exact half.term
  ack := by rw [same.alive]; exact half.ack
  hiccup := by rw [same.gotTerm]; exact half.hiccup
  asked := by rw [same.gotTerm]; exact half.asked
  gone := by rw [same.alive]; exact half.gone
  released := half.released
  todo := half.todo
  told := half.told

theorem lane_this_same {this next : Pipe} (same : Same this next) (peer : Pipe)
    (inbox : List PipeCommand) : lane next peer inbox = lane this peer inbox := by
  rw [lane, lane, same.outpipe]

theorem lane_peer_same {peer next : Pipe} (same : Same peer next) (this : Pipe)
    (inbox : List PipeCommand) : lane this next inbox = lane this peer inbox := by
  rw [lane, lane, same.alive, same.inpipe]

/-- A step that changes nothing the protocol depends on, but for what is in a lock-free pipe. -/
theorem Sound.quiet {s : PipePair Frame} (sound : s.Sound) {next : Pipe}
    {heap : Nat → Option (Upipe (PipeItem Frame))} (same : Same s.this next)
    (exist : ∀ pipe, heap pipe = none ↔ s.heap pipe = none)
    (whole : ∀ pipe content, heap pipe = some content →
      content.incomplete.all PipeItem.more = true) :
    { s with this := next, heap := heap }.Sound where
  this := sound.this.this_same same
  peer := sound.peer.peer_same same
  memory :=
    { last := by simpa only [same.outpipe] using sound.memory.last
      peerLast := by simpa only [same.inpipe] using sound.memory.peerLast
      apart := by
        simpa only [lane_this_same same, lane_peer_same same] using sound.memory.apart
      exist := by
        simpa only [lane_this_same same, lane_peer_same same, ne_eq, exist] using sound.memory.exist
      fresh := by simpa only [ne_eq, exist] using sound.memory.fresh
      whole := whole }
  alive := sound.alive

end Quiet

section Commands

-- The commands that either end may send at any time of its life.
def Plain (command : PipeCommand) : Prop :=
  command ≠ .pipeTerm ∧ command ≠ .pipeTermAck ∧ ∀ pipe, command ≠ .hiccup pipe

theorem plain_activateRead : Plain .activateRead := ⟨by simp, by simp, by simp⟩

theorem plain_activateWrite (msgsRead : Nat) : Plain (.activateWrite msgsRead) :=
  ⟨by simp, by simp, by simp⟩

theorem hiccups_append (first second : List PipeCommand) :
    hiccups (first ++ second) = hiccups first ++ hiccups second := by
  simp [hiccups]

theorem hiccups_cons (first : PipeCommand) (rest : List PipeCommand) :
    hiccups (first :: rest) = hiccups [first] ++ hiccups rest :=
  hiccups_append [first] rest

theorem hiccups_nil {commands : List PipeCommand}
    (none : ∀ pipe, .hiccup pipe ∉ commands) : hiccups commands = [] := by
  rw [hiccups, List.filterMap_eq_nil_iff]
  intro command member
  cases command with
  | hiccup pipe => exact absurd member (none pipe)
  | activateRead => rfl
  | activateWrite => rfl
  | pipeTerm => rfl
  | pipeTermAck => rfl

theorem Plain.no_hiccups {command : PipeCommand} (plain : Plain command) : hiccups [command] = [] := by
  apply hiccups_nil
  intro pipe member
  exact plain.2.2 pipe (List.mem_singleton.mp member).symm

theorem Half.unacked {this peer : Pipe} {sent : List PipeCommand} (half : Half this peer sent)
    (open_ : ¬this.sentAck) : .pipeTermAck ∉ sent ∧ peer.alive = true := by
  refine ⟨fun member => open_ (half.ack.mp member).1, ?_⟩
  cases alive : peer.alive with
  | true => rfl
  | false => exact absurd (half.gone alive).1 open_

-- An end that has not given its last answer may append to what it has sent.
theorem Half.order_append {this peer : Pipe} {sent : List PipeCommand} (half : Half this peer sent)
    (open_ : ¬this.sentAck) {command : PipeCommand}
    (later : .pipeTerm ∈ sent → command ≠ .pipeTerm ∧ ∀ pipe, command ≠ .hiccup pipe) :
    (sent ++ [command]).Pairwise Before := by
  rw [List.pairwise_append]
  refine ⟨half.order, List.pairwise_singleton _ _, ?_⟩
  intro first member second last
  rw [List.mem_singleton.mp last]
  refine ⟨?_, ?_⟩
  · rintro rfl
    exact (half.unacked open_).1 member
  · rintro rfl
    exact later member

theorem send_open {s : PipePair Frame} (sound : s.Sound) (open_ : ¬s.this.sentAck)
    (command : PipeCommand) : s.send command = { s with sent := s.sent ++ [command] } := by
  simp [send, (sound.this.unacked open_).2]

theorem sendAck_open {s : PipePair Frame} (sound : s.Sound) (open_ : ¬s.this.sentAck)
    (state : PipeState) : s.sendAck state =
      { s with
        this := { s.this with state := state, outpipe := none }
        sent := s.sent ++ [PipeCommand.pipeTermAck] } := by
  simp [sendAck, send, (sound.this.unacked open_).2]

theorem Half.send_plain {this peer : Pipe} {sent : List PipeCommand} (half : Half this peer sent)
    (open_ : ¬this.sentAck) {command : PipeCommand} (plain : Plain command) :
    Half this peer (sent ++ [command]) := by
  have alive := (half.unacked open_).2
  have noTerm : PipeCommand.pipeTerm ≠ command := fun same => plain.1 same.symm
  have noAck : PipeCommand.pipeTermAck ≠ command := fun same => plain.2.1 same.symm
  constructor
  · exact half.order_append open_ fun _ => ⟨plain.1, plain.2.2⟩
  · simpa [noTerm] using half.term
  · simpa [noAck] using half.ack
  · intro got
    rw [hiccups_append, half.hiccup got, plain.no_hiccups, List.append_nil]
  · exact half.asked
  · simp [alive]
  · exact half.released
  · exact half.todo
  · exact half.told

theorem Sound.send_plain {s : PipePair Frame} (sound : s.Sound) (open_ : ¬s.this.sentAck)
    {command : PipeCommand} (plain : Plain command) : (s.send command).Sound := by
  have kept : hiccups (s.sent ++ [command]) = hiccups s.sent := by
    rw [hiccups_append, plain.no_hiccups, List.append_nil]
  have lanes : lane s.peer s.this (s.sent ++ [command]) = lane s.peer s.this s.sent := by
    simp only [lane, kept]
  rw [send_open sound open_]
  exact
    { this := sound.this.send_plain open_ plain
      peer := sound.peer
      memory :=
        { last := sound.memory.last
          peerLast := by simpa only [kept] using sound.memory.peerLast
          apart := by simpa only [lanes] using sound.memory.apart
          exist := by simpa only [lanes] using sound.memory.exist
          fresh := sound.memory.fresh
          whole := sound.memory.whole }
      alive := sound.alive }

-- The request to terminate: neither end has asked before, or only the other one.
theorem Half.sendTerm {this peer : Pipe} {sent : List PipeCommand} (half : Half this peer sent)
    (alive : this.alive = true) (state : this.state = .active ∨ this.state = .delimiterReceived) :
    Half { this with state := .termReqSent1 } peer (sent ++ [.pipeTerm]) := by
  have open_ : ¬this.sentAck := by rcases state with state | state <;> simp [Pipe.sentAck, alive, state]
  have unsent : ¬this.sentTerm := by rcases state with state | state <;> simp [Pipe.sentTerm, state]
  have unasked : ¬peer.gotTerm := fun got => unsent (half.asked got)
  have requests : .pipeTerm ∉ sent := fun member => unsent (half.term.mp member).1
  have still : ¬{ this with state := .termReqSent1 : Pipe }.sentAck := by simp [Pipe.sentAck, alive]
  constructor
  · exact half.order_append open_ fun member => absurd member requests
  · simp [Pipe.sentTerm, unasked]
  · have acks := (half.unacked open_).1
    simp [acks, still]
  · exact fun got => absurd got unasked
  · exact fun got => absurd got unasked
  · simp [(half.unacked open_).2]
  · simp only [still, iff_false]
    exact fun none => open_ (half.released.mp none)
  · exact fun _ => still
  · exact half.told

theorem Sound.sendTerm {s : PipePair Frame} (sound : s.Sound) (alive : s.this.alive = true)
    (state : s.this.state = .active ∨ s.this.state = .delimiterReceived) : s.sendTerm.Sound := by
  have open_ : ¬s.this.sentAck := by
    rcases state with state | state <;> simp [Pipe.sentAck, alive, state]
  have got : { s.this with state := .termReqSent1 : Pipe }.gotTerm ↔ s.this.gotTerm := by
    rcases state with state | state <;> simp [Pipe.gotTerm, state]
  have kept : hiccups (s.sent ++ [.pipeTerm]) = hiccups s.sent := by simp [hiccups]
  have lanes : lane s.peer { s.this with state := .termReqSent1 } (s.sent ++ [.pipeTerm]) =
      lane s.peer s.this s.sent := by
    simp only [lane, kept]
  have own : lane { s.this with state := .termReqSent1 } s.peer s.inbox =
      lane s.this s.peer s.inbox := rfl
  have peerAlive := (sound.this.unacked open_).2
  rw [PipePair.sendTerm, send]
  exact
    { this := sound.this.sendTerm alive state
      peer :=
        { sound.peer with
          term := by rw [got]; exact sound.peer.term
          hiccup := by rw [got]; exact sound.peer.hiccup
          asked := by rw [got]; exact sound.peer.asked }
      memory :=
        { last := sound.memory.last
          peerLast := by simpa only [kept] using sound.memory.peerLast
          apart := by simpa only [own, lanes] using sound.memory.apart
          exist := by simpa only [own, lanes] using sound.memory.exist
          fresh := sound.memory.fresh
          whole := sound.memory.whole }
      alive := by simp [sound.alive, peerAlive] }

theorem Half.pop_plain {this peer : Pipe} {command : PipeCommand} {rest : List PipeCommand}
    (half : Half this peer (command :: rest)) (plain : Plain command) : Half this peer rest where
  order := half.order.of_cons
  term := by
    have same : PipeCommand.pipeTerm ≠ command := fun same => plain.1 same.symm
    simpa [same] using half.term
  ack := by
    have same : PipeCommand.pipeTermAck ≠ command := fun same => plain.2.1 same.symm
    simpa [same] using half.ack
  hiccup := by
    intro got
    have none := half.hiccup got
    rw [hiccups_cons, plain.no_hiccups] at none
    exact none
  asked := half.asked
  gone := fun gone => by cases (half.gone gone).2
  released := half.released
  todo := half.todo
  told := half.told

theorem Sound.pop_plain {s : PipePair Frame} (sound : s.Sound) {command : PipeCommand}
    {rest : List PipeCommand} (inbox : s.inbox = command :: rest) (plain : Plain command) :
    { s with inbox := rest }.Sound := by
  have kept : hiccups s.inbox = hiccups rest := by
    rw [inbox, hiccups_cons, plain.no_hiccups, List.nil_append]
  have lanes : lane s.this s.peer rest = lane s.this s.peer s.inbox := by
    simp only [lane, kept]
  have peer := sound.peer
  rw [inbox] at peer
  exact
    { this := sound.this
      peer := peer.pop_plain plain
      memory :=
        { last := by simpa only [kept] using sound.memory.last
          peerLast := sound.memory.peerLast
          apart := by simpa only [lanes] using sound.memory.apart
          exist := by simpa only [lanes] using sound.memory.exist
          fresh := sound.memory.fresh
          whole := sound.memory.whole }
      alive := sound.alive }

theorem Half.behind_term {this peer : Pipe} {rest : List PipeCommand}
    (half : Half this peer (.pipeTerm :: rest)) : .pipeTerm ∉ rest ∧ hiccups rest = [] := by
  have first := (List.pairwise_cons.mp half.order).1
  exact ⟨fun member => ((first _ member).2 rfl).1 rfl,
    hiccups_nil fun pipe member => ((first _ member).2 rfl).2 pipe rfl⟩

-- The peer's request is taken from the inbox, and this end answers it now or later.
theorem Half.pop_term {this peer next : Pipe} {rest : List PipeCommand}
    (half : Half this peer (.pipeTerm :: rest)) (got : next.gotTerm) (alive : next.alive = peer.alive) :
    Half this next rest := by
  obtain ⟨noTerm, noHiccup⟩ := half.behind_term
  have asked := (half.term.mp (by simp)).1
  refine
    { order := half.order.of_cons
      term := by simp [noTerm, got]
      ack := ?_
      hiccup := fun _ => noHiccup
      asked := fun _ => asked
      gone := ?_
      released := half.released
      todo := half.todo
      told := half.told }
  · rw [alive]
    simpa using half.ack
  · intro gone
    cases (half.gone (alive.symm.trans gone)).2

theorem Sound.pop_term {s : PipePair Frame} (sound : s.Sound) {rest : List PipeCommand}
    (inbox : s.inbox = .pipeTerm :: rest)
    (state : s.this.state = .active ∨ s.this.state = .delimiterReceived) :
    { s with inbox := rest, this := { s.this with state := .waitingForDelimiter } }.Sound := by
  have kept : hiccups s.inbox = hiccups rest := by
    rw [inbox]
    rfl
  have own : lane { s.this with state := .waitingForDelimiter } s.peer rest =
      lane s.this s.peer s.inbox := by
    simp only [lane, kept]
  have lanes : lane s.peer { s.this with state := .waitingForDelimiter } s.sent =
      lane s.peer s.this s.sent := rfl
  have sentTerm : { s.this with state := .waitingForDelimiter : Pipe }.sentTerm ↔ s.this.sentTerm := by
    rcases state with state | state <;> simp [Pipe.sentTerm, state]
  have sentAck : { s.this with state := .waitingForDelimiter : Pipe }.sentAck ↔ s.this.sentAck := by
    rcases state with state | state <;> simp [Pipe.sentAck, state]
  have peer := sound.peer
  rw [inbox] at peer
  exact
    { this :=
        { sound.this with
          term := by rw [sentTerm]; exact sound.this.term
          ack := by rw [sentAck]; exact sound.this.ack
          asked := by rw [sentTerm]; exact sound.this.asked
          gone := by rw [sentAck]; exact sound.this.gone
          released := by rw [sentAck]; exact sound.this.released
          todo := by rw [sentAck]; exact sound.this.todo }
      peer := peer.pop_term (.inl rfl) rfl
      memory :=
        { last := by simpa only [kept] using sound.memory.last
          peerLast := sound.memory.peerLast
          apart := by simpa only [own, lanes] using sound.memory.apart
          exist := by simpa only [own, lanes] using sound.memory.exist
          fresh := sound.memory.fresh
          whole := sound.memory.whole }
      alive := sound.alive }

-- The last answer of an end, which gives up the pipe it writes to.
theorem Half.sendAck {this peer : Pipe} {sent : List PipeCommand} (half : Half this peer sent)
    (open_ : ¬this.sentAck) (idle : this.todo = .nothing) {state : PipeState}
    (acked : state = .termAckSent ∨ state = .termReqSent2)
    (same : { this with state := state, outpipe := none : Pipe }.sentTerm ↔ this.sentTerm) :
    Half { this with state := state, outpipe := none } peer (sent ++ [.pipeTermAck]) := by
  have alive := (half.unacked open_).2
  have closed : { this with state := state, outpipe := none : Pipe }.sentAck := .inr acked
  constructor
  · exact half.order_append open_ fun _ => ⟨by simp, by simp⟩
  · rw [same]
    simpa using half.term
  · simp [closed, alive]
  · intro got
    rw [hiccups_append, half.hiccup got]
    rfl
  · rw [same]
    exact half.asked
  · simp [alive]
  · exact ⟨fun _ => closed, fun _ => rfl⟩
  · exact fun todo => absurd idle todo
  · exact half.told

-- With no hiccup on its way the pipe an end writes to is the one its peer reads.
theorem lane_released {s : PipePair Frame} (sound : s.Sound) (open_ : ¬s.this.sentAck)
    (none_coming : hiccups s.inbox = []) : lane s.this s.peer s.inbox = [s.peer.inpipe] := by
  obtain ⟨pipe, writes⟩ := Option.ne_none_iff_exists'.mp fun none =>
    open_ (sound.this.released.mp none)
  have last := sound.memory.last pipe writes
  rw [none_coming] at last
  cases last
  rw [lane, writes, none_coming]

-- The lanes stay as they are when an end gives up the pipe that its peer reads.
theorem Sound.memory_sendAck {s : PipePair Frame} (sound : s.Sound) (open_ : ¬s.this.sentAck)
    (none_coming : hiccups s.inbox = []) (state : PipeState) {rest : List PipeCommand} :
    { s with
      this := { s.this with state := state, outpipe := none }
      inbox := rest
      sent := s.sent ++ [PipeCommand.pipeTermAck] : PipePair Frame }.Memory := by
  have peerAlive := (sound.this.unacked open_).2
  have own : lane { s.this with state := state, outpipe := none } s.peer rest =
      lane s.this s.peer s.inbox := by
    rw [lane_released sound open_ none_coming, lane]
    simp [peerAlive]
  have kept : hiccups (s.sent ++ [.pipeTermAck]) = hiccups s.sent := by simp [hiccups]
  have lanes : lane s.peer { s.this with state := state, outpipe := none }
      (s.sent ++ [.pipeTermAck]) = lane s.peer s.this s.sent := by
    simp only [lane, kept]
  exact
    { last := by simp
      peerLast := by simpa only [kept] using sound.memory.peerLast
      apart := by simpa only [own, lanes] using sound.memory.apart
      exist := by simpa only [own, lanes] using sound.memory.exist
      fresh := sound.memory.fresh
      whole := sound.memory.whole }

theorem Sound.sendAck {s : PipePair Frame} (sound : s.Sound) (alive : s.this.alive = true)
    (idle : s.this.todo = .nothing) (state : s.this.state = .waitingForDelimiter) :
    (s.sendAck .termAckSent).Sound := by
  have open_ : ¬s.this.sentAck := by simp [Pipe.sentAck, alive, state]
  have got : s.this.gotTerm := .inl state
  have got' : { s.this with state := .termAckSent, outpipe := none : Pipe }.gotTerm := .inr (.inl rfl)
  have same : { s.this with state := .termAckSent, outpipe := none : Pipe }.sentTerm ↔
      s.this.sentTerm := by simp [Pipe.sentTerm, state]
  have coming := sound.peer.hiccup got
  rw [sendAck_open sound open_]
  exact
    { this := sound.this.sendAck open_ idle (.inl rfl) same
      peer :=
        { sound.peer with
          term := by simpa [got, got'] using sound.peer.term
          hiccup := fun _ => coming
          asked := fun _ => sound.peer.asked got }
      memory := sound.memory_sendAck open_ coming .termAckSent
      alive := sound.alive }

theorem Sound.sendAck_asked {s : PipePair Frame} (sound : s.Sound) (alive : s.this.alive = true)
    (idle : s.this.todo = .nothing) (state : s.this.state = .termReqSent1) {rest : List PipeCommand}
    (inbox : s.inbox = .pipeTerm :: rest) :
    ({ s with inbox := rest }.sendAck .termReqSent2).Sound := by
  have open_ : ¬s.this.sentAck := by simp [Pipe.sentAck, alive, state]
  have same : { s.this with state := .termReqSent2, outpipe := none : Pipe }.sentTerm ↔
      s.this.sentTerm := by simp [Pipe.sentTerm, state]
  have peer := sound.peer
  rw [inbox] at peer
  have coming : hiccups s.inbox = [] := by
    rw [inbox, hiccups_cons, peer.behind_term.2]
    rfl
  have answers : { s with inbox := rest }.sendAck .termReqSent2 =
      { s with
        this := { s.this with state := .termReqSent2, outpipe := none }
        inbox := rest
        sent := s.sent ++ [PipeCommand.pipeTermAck] } := by
    simp [PipePair.sendAck, send, (sound.this.unacked open_).2]
  rw [answers]
  exact
    { this := sound.this.sendAck open_ idle (.inr rfl) same
      peer := peer.pop_term (.inr (.inr rfl)) rfl
      memory := sound.memory_sendAck open_ coming .termReqSent2
      alive := sound.alive }

-- An end that is still active has a peer that writes to it.
theorem Half.active_peer {this peer : Pipe} {sent inbox : List PipeCommand}
    (half : Half this peer sent) (other : Half peer this inbox) (alive : this.alive = true)
    (state : this.state = .active) : ∃ pipe, peer.outpipe = some pipe := by
  have open_ : ¬this.sentAck := by simp [Pipe.sentAck, alive, state]
  have unsent : ¬this.sentTerm := by simp [Pipe.sentTerm, state]
  apply Option.ne_none_iff_exists'.mp
  intro none
  rcases other.released.mp none with gone | acked
  · exact open_ (half.gone gone).1
  · exact unsent (half.asked (.inr acked))

theorem Sound.unallocated {s : PipePair Frame} (sound : s.Sound) : s.heap s.allocated = none := by
  by_contra some_there
  exact Nat.lt_irrefl _ (sound.memory.fresh _ some_there)

theorem Half.send_hiccup {this peer : Pipe} {sent : List PipeCommand} (half : Half this peer sent)
    (alive : this.alive = true) (state : this.state = .active) (pipe : Nat) :
    Half { this with inpipe := pipe, inActive := true } peer (sent ++ [.hiccup pipe]) := by
  have open_ : ¬this.sentAck := by simp [Pipe.sentAck, alive, state]
  have unsent : ¬this.sentTerm := by simp [Pipe.sentTerm, state]
  have requests : .pipeTerm ∉ sent := fun member => unsent (half.term.mp member).1
  have acks := half.unacked open_
  constructor
  · exact half.order_append open_ fun member => absurd member requests
  · exact Iff.trans (by simp) half.term
  · exact Iff.trans (by simp) half.ack
  · exact fun got => absurd (half.asked got) unsent
  · exact half.asked
  · simp [acks.2]
  · exact half.released
  · exact half.todo
  · exact half.told

theorem Sound.memory_hiccup {s : PipePair Frame} (sound : s.Sound) (alive : s.this.alive = true)
    (state : s.this.state = .active) :
    { s with
      this := { s.this with inpipe := s.allocated, inActive := true }
      sent := s.sent ++ [PipeCommand.hiccup s.allocated]
      heap := Function.update s.heap s.allocated (some {})
      allocated := s.allocated + 1 : PipePair Frame }.Memory := by
  have memory := sound.memory
  obtain ⟨pipe, writes⟩ := sound.this.active_peer sound.peer alive state
  have unused : s.allocated ∉ lane s.this s.peer s.inbox ++ lane s.peer s.this s.sent := by
    intro member
    exact (memory.exist _).mpr member sound.unallocated
  have grown : hiccups (s.sent ++ [.hiccup s.allocated]) = hiccups s.sent ++ [s.allocated] := by
    simp [hiccups]
  have lanes : lane s.peer { s.this with inpipe := s.allocated, inActive := true }
      (s.sent ++ [.hiccup s.allocated]) = lane s.peer s.this s.sent ++ [s.allocated] := by
    simp only [lane, writes, grown, List.cons_append]
  have own : lane { s.this with inpipe := s.allocated, inActive := true } s.peer s.inbox =
      lane s.this s.peer s.inbox := rfl
  refine
    { last := memory.last, peerLast := ?_, apart := ?_, exist := ?_, fresh := ?_, whole := ?_ }
  · intro other _
    rw [grown, ← List.cons_append, List.getLast?_append_of_ne_nil _ (by simp)]
    rfl
  · rw [lanes, own, ← List.append_assoc, List.nodup_append]
    refine ⟨memory.apart, by simp, ?_⟩
    rintro first member second last rfl
    rw [List.mem_singleton.mp last] at member
    exact unused member
  · intro other
    rw [lanes, own, ← List.append_assoc, List.mem_append, List.mem_singleton]
    by_cases same : other = s.allocated
    · simp [same]
    · simpa [same] using memory.exist other
  · intro other there
    by_cases same : other = s.allocated
    · rw [same]
      exact Nat.lt_succ_self _
    · have below := memory.fresh other (by simpa [same] using there)
      exact Nat.lt_succ_of_lt below
  · intro other content stored
    by_cases same : other = s.allocated
    · subst same
      simp only [Function.update_self, Option.some.injEq] at stored
      subst stored
      rfl
    · exact memory.whole other content (by simpa [same] using stored)

theorem Sound.hiccup {s : PipePair Frame} (sound : s.Sound) (alive : s.this.alive = true) :
    s.hiccup.Sound := by
  unfold PipePair.hiccup
  split
  next state =>
    have open_ : ¬s.this.sentAck := by simp [Pipe.sentAck, alive, state]
    simp only [send, store, (sound.this.unacked open_).2, Bool.not_true, Bool.or_false]
    exact
      { this := sound.this.send_hiccup alive state s.allocated
        peer := { sound.peer with }
        memory := sound.memory_hiccup alive state
        alive := sound.alive }
  next => exact sound

theorem Half.pop_hiccup {this peer next : Pipe} {pipe : Nat} {rest : List PipeCommand}
    (half : Half this peer (.hiccup pipe :: rest)) (got : next.gotTerm ↔ peer.gotTerm)
    (alive : next.alive = peer.alive) : Half this next rest where
  order := half.order.of_cons
  term := by simpa [got] using half.term
  ack := by simpa [alive] using half.ack
  hiccup := fun gotTerm => by cases half.hiccup (got.mp gotTerm)
  asked := fun gotTerm => half.asked (got.mp gotTerm)
  gone := fun gone => by cases (half.gone (alive.symm.trans gone)).2
  released := half.released
  todo := half.todo
  told := half.told

-- The peer sends hiccups to an end that still writes.
theorem Half.hiccuped {this peer : Pipe} {pipe : Nat} {rest inbox : List PipeCommand}
    (half : Half this peer (.hiccup pipe :: rest)) (other : Half peer this inbox)
    (alive : peer.alive = true) : ∃ former, peer.outpipe = some former := by
  apply Option.ne_none_iff_exists'.mp
  intro none
  rcases other.released.mp none with gone | acked
  · cases alive.symm.trans gone
  · cases half.hiccup (.inr acked)

theorem Sound.memory_hiccuped {s : PipePair Frame} (sound : s.Sound) {pipe former : Nat}
    {rest : List PipeCommand} (inbox : s.inbox = .hiccup pipe :: rest)
    (writes : s.this.outpipe = some former) {next : Pipe} (rewired : next.outpipe = some pipe)
    (inpipe : next.inpipe = s.this.inpipe) (alive : next.alive = s.this.alive) :
    { s with
      this := next
      inbox := rest
      heap := Function.update s.heap former none : PipePair Frame }.Memory := by
  have memory := sound.memory
  have own : lane s.this s.peer s.inbox = former :: lane next s.peer rest := by
    rw [lane, lane, writes, rewired, inbox]
    rfl
  have lanes : lane s.peer next s.sent = lane s.peer s.this s.sent := by
    simp only [lane, inpipe, alive]
  have apart := memory.apart
  have exist := memory.exist
  rw [own, ← lanes, List.cons_append] at apart exist
  have unused := (List.nodup_cons.mp apart).1
  refine
    { last := ?_, peerLast := ?_, apart := (List.nodup_cons.mp apart).2, exist := ?_, fresh := ?_,
      whole := ?_ }
  · intro other same
    cases rewired.symm.trans same
    have last := memory.last former writes
    rw [inbox] at last
    exact last
  · intro other same
    rw [inpipe]
    exact memory.peerLast other same
  · intro other
    by_cases same : other = former
    · simpa [same] using unused
    · simpa [same] using exist other
  · intro other there
    by_cases same : other = former
    · simp [same] at there
    · exact memory.fresh other (by simpa [same] using there)
  · intro other content stored
    by_cases same : other = former
    · simp [same] at stored
    · exact memory.whole other content (by simpa [same] using stored)

theorem Sound.processHiccup {s : PipePair Frame} (sound : s.Sound) {pipe : Nat}
    {rest : List PipeCommand} (inbox : s.inbox = .hiccup pipe :: rest)
    (alive : s.this.alive = true) : ({ s with inbox := rest }.processHiccup pipe).Sound := by
  have memory := sound.memory
  have peer := sound.peer
  rw [inbox] at peer
  obtain ⟨former, writes⟩ := peer.hiccuped sound.this alive
  have there : s.heap former ≠ none := by
    apply (memory.exist former).mpr
    simp [lane, writes]
  obtain ⟨content, stored⟩ := Option.ne_none_iff_exists'.mp there
  have open_ : ¬s.this.sentAck := by
    intro acked
    cases writes.symm.trans (sound.this.released.mpr acked)
  have told : (if s.this.state = .active then s.this.sink ++ [.hiccuped] else s.this.sink).count
      .pipeTerminated = if s.this.alive then 0 else 1 := by
    rw [← sound.this.told]
    split <;> simp
  simp only [PipePair.processHiccup, writes, stored, delete]
  exact
    { this :=
        { sound.this with
          released :=
            ⟨fun none => absurd none (Option.some_ne_none _), fun acked => absurd acked open_⟩
          told := told }
      peer := peer.pop_hiccup Iff.rfl rfl
      memory := sound.memory_hiccuped inbox writes rfl rfl rfl
      alive := sound.alive }

-- An acknowledgement finds an end that has asked or has answered.
theorem Half.acknowledged {this peer : Pipe} {rest sent : List PipeCommand}
    (half : Half this peer (.pipeTermAck :: rest)) (other : Half peer this sent)
    (alive : peer.alive = true) : rest = [] ∧ (peer.sentTerm ∨ peer.state = .termAckSent) := by
  constructor
  · cases rest with
    | nil => rfl
    | cons second rest =>
        have first := (List.pairwise_cons.mp half.order).1 second (by simp)
        exact absurd rfl first.1
  · rcases (half.ack.mp (by simp)).1 with gone | acked
    · rcases (other.gone gone).1 with dead | acked | acked
      · cases alive.symm.trans dead
      · exact .inr acked
      · exact .inl (.inr acked)
    · exact .inl (other.asked (.inr acked))

-- The end that is deleted had been read from by its peer alone.
theorem Sound.memory_deleted {s : PipePair Frame} (sound : s.Sound)
    (inbox : s.inbox = [.pipeTermAck]) (alive : s.this.alive = true) {next : Pipe}
    {sent : List PipeCommand} (outpipe : next.outpipe = none) (dead : next.alive = false) :
    { s with
      this := next
      sent := sent
      inbox := []
      heap := Function.update s.heap s.this.inpipe none : PipePair Frame }.Memory := by
  have memory := sound.memory
  have peer := sound.peer
  rw [inbox] at peer
  have closed : s.peer.outpipe = none := sound.peer.released.mpr (peer.ack.mp (by simp)).1
  have lanes : lane s.peer s.this s.sent = [s.this.inpipe] := by simp [lane, closed, alive]
  have none_left : lane s.peer next sent = [] := by simp [lane, closed, dead]
  have own : lane next s.peer [] = lane s.this s.peer s.inbox := by
    cases writes : s.this.outpipe with
    | none => simp [lane, outpipe, writes]
    | some pipe =>
        have open_ : ¬s.this.sentAck := by
          intro acked
          cases writes.symm.trans (sound.this.released.mpr acked)
        rw [lane_released sound open_ (by rw [inbox]; rfl)]
        simp [lane, outpipe, (sound.this.unacked open_).2]
  have apart := memory.apart
  have exist := memory.exist
  rw [← own, lanes] at apart exist
  have unused : s.this.inpipe ∉ lane next s.peer [] := by
    intro member
    exact (List.nodup_append.mp apart).2.2 _ member _ (by simp) rfl
  refine
    { last := by simp [outpipe], peerLast := by simp [closed], apart := ?_, exist := ?_, fresh := ?_,
      whole := ?_ }
  · rw [none_left, List.append_nil]
    exact (List.nodup_append.mp apart).1
  · intro other
    rw [none_left, List.append_nil]
    by_cases same : other = s.this.inpipe
    · simpa [same] using unused
    · simpa [same] using exist other
  · intro other there
    by_cases same : other = s.this.inpipe
    · simp [same] at there
    · exact memory.fresh other (by simpa [same] using there)
  · intro other content stored
    by_cases same : other = s.this.inpipe
    · simp [same] at stored
    · exact memory.whole other content (by simpa [same] using stored)

theorem Half.deleted {this peer next : Pipe} {sent : List PipeCommand} (half : Half this peer sent)
    (sentTerm : next.sentTerm ↔ this.sentTerm) (acked : this.sentAck) (outpipe : next.outpipe = none)
    (dead : next.alive = false) (idle : next.todo = .nothing)
    (told : next.sink.count .pipeTerminated = 1) : Half next peer sent where
  order := half.order
  term := by rw [sentTerm]; exact half.term
  ack := by
    have closed : next.sentAck := .inl dead
    simpa [closed, acked] using half.ack
  hiccup := half.hiccup
  asked := by rw [sentTerm]; exact half.asked
  gone := fun gone => ⟨.inl dead, (half.gone gone).2⟩
  released := ⟨fun _ => .inl dead, fun _ => outpipe⟩
  todo := fun todo => absurd idle todo
  told := by simpa [dead] using told

theorem Half.peer_deleted {this peer next : Pipe} (half : Half this peer [.pipeTermAck])
    (gotTerm : next.gotTerm ↔ peer.gotTerm) (dead : next.alive = false) : Half this next [] where
  order := List.Pairwise.nil
  term := by simpa [gotTerm] using half.term
  ack := by simp [dead]
  hiccup := fun _ => rfl
  asked := fun got => half.asked (gotTerm.mp got)
  gone := fun _ => ⟨(half.ack.mp (by simp)).1, rfl⟩
  released := half.released
  todo := half.todo
  told := half.told

theorem Half.ack_append {this peer : Pipe} {sent : List PipeCommand} (half : Half this peer sent)
    (open_ : ¬this.sentAck) : (sent ++ [PipeCommand.pipeTermAck]).Pairwise Before ∧
      (.pipeTerm ∈ sent ++ [PipeCommand.pipeTermAck] ↔ .pipeTerm ∈ sent) ∧
      hiccups (sent ++ [PipeCommand.pipeTermAck]) = hiccups sent :=
  ⟨half.order_append open_ fun _ => ⟨by simp, by simp⟩, by simp, by simp [hiccups]⟩

theorem Sound.processPipeTermAck {s : PipePair Frame} (sound : s.Sound) {rest : List PipeCommand}
    (inbox : s.inbox = .pipeTermAck :: rest) (alive : s.this.alive = true)
    (idle : s.this.todo = .nothing) : ({ s with inbox := rest }.processPipeTermAck).Sound := by
  have peer := sound.peer
  rw [inbox] at peer
  obtain ⟨rfl, position⟩ := peer.acknowledged sound.this alive
  have there : s.heap s.this.inpipe ≠ none := by
    have closed : s.peer.outpipe = none := sound.peer.released.mpr (peer.ack.mp (by simp)).1
    apply (sound.memory.exist _).mpr
    simp [lane, closed, alive]
  obtain ⟨content, stored⟩ := Option.ne_none_iff_exists'.mp there
  have told : (s.this.sink ++ [SinkEvent.pipeTerminated]).count .pipeTerminated = 1 := by
    rw [List.count_append, sound.this.told]
    simp [alive]
  -- An end that has answered before is deleted; one that has not answers first.
  by_cases state : s.this.state = .termReqSent1
  · have open_ : ¬s.this.sentAck := by simp [Pipe.sentAck, alive, state]
    have peerAlive := (sound.this.unacked open_).2
    obtain ⟨order, term, hiccup⟩ := sound.this.ack_append open_
    simp only [PipePair.processPipeTermAck, state, PipePair.sendAck, send, peerAlive, delete, stored,
      Bool.not_true, Bool.or_false]
    exact
      { this :=
          { order
            term := by
              rw [term, sound.this.term]
              simp [Pipe.sentTerm, state]
            ack := by simp [Pipe.sentAck, peerAlive]
            hiccup := fun got => hiccup.trans (sound.this.hiccup got)
            asked := fun _ => .inl rfl
            gone := fun gone => by cases peerAlive.symm.trans gone
            released := by simp [Pipe.sentAck]
            todo := fun todo => absurd idle todo
            told := told }
        peer := peer.peer_deleted (by simp [Pipe.gotTerm, state]) rfl
        memory := sound.memory_deleted inbox alive rfl rfl
        alive := sound.alive }
  · have acked : s.this.state = .termAckSent ∨ s.this.state = .termReqSent2 := by
      rcases position with (asked | asked) | answered
      · exact absurd asked state
      · exact .inr asked
      · exact .inl answered
    have closed : s.this.outpipe = none := sound.this.released.mpr (.inr acked)
    have same : { s with inbox := [] }.processPipeTermAck =
        { s with
          this := { s.this with
            sink := s.this.sink ++ [SinkEvent.pipeTerminated]
            alive := false }
          inbox := []
          heap := Function.update s.heap s.this.inpipe none } := by
      rcases acked with state | state <;> simp [PipePair.processPipeTermAck, state, delete, stored]
    rw [same]
    exact
      { this := sound.this.deleted Iff.rfl (.inr acked) closed rfl idle told
        peer := peer.peer_deleted Iff.rfl rfl
        memory := sound.memory_deleted inbox alive closed rfl
        alive := sound.alive }

end Commands

section Calls

theorem Same.of_eq {p q : Pipe} (state : q.state = p.state) (alive : q.alive = p.alive)
    (inpipe : q.inpipe = p.inpipe) (outpipe : q.outpipe = p.outpipe)
    (todo : q.todo ≠ .nothing → ¬p.sentAck)
    (told : q.sink.count .pipeTerminated = p.sink.count .pipeTerminated) : Same p q where
  sentTerm := by simp only [Pipe.sentTerm, state]
  gotTerm := by simp only [Pipe.gotTerm, state]
  sentAck := by simp only [Pipe.sentAck, state, alive]
  alive := alive
  inpipe := inpipe
  outpipe := outpipe
  todo := todo
  told := told

theorem Sound.local {s : PipePair Frame} (sound : s.Sound) {next : Pipe}
    (same : Same s.this next) : { s with this := next }.Sound :=
  sound.quiet same (fun _ => Iff.rfl) sound.memory.whole

theorem Sound.store {s : PipePair Frame} (sound : s.Sound) {pipe : Nat}
    {content after : Upipe (PipeItem Frame)} (there : s.heap pipe = some content)
    (whole : after.incomplete.all PipeItem.more = true) : (s.store pipe after).Sound := by
  have todo := sound.this.todo
  refine sound.quiet (Same.of_eq rfl rfl rfl rfl todo rfl) ?_ ?_
  · intro other
    by_cases same : other = pipe
    · simp [same, there]
    · simp [same]
  · intro other stored found
    by_cases same : other = pipe
    · subst same
      simp only [Function.update_self, Option.some.injEq] at found
      rw [← found]
      exact whole
    · exact sound.memory.whole other stored (by simpa [same] using found)

theorem Sound.inpipe_there {s : PipePair Frame} (sound : s.Sound) (alive : s.this.alive = true) :
    ∃ content, s.heap s.this.inpipe = some content := by
  apply Option.ne_none_iff_exists'.mp
  apply (sound.memory.exist _).mpr
  cases writes : s.peer.outpipe with
  | none => simp [lane, writes, alive]
  | some pipe =>
      have member := List.mem_of_getLast? (sound.memory.peerLast pipe writes)
      rw [List.mem_append]
      exact .inr (by simpa [lane, writes] using member)

theorem Sound.outpipe_there {s : PipePair Frame} (sound : s.Sound) {pipe : Nat}
    (writes : s.this.outpipe = some pipe) : ∃ content, s.heap pipe = some content := by
  apply Option.ne_none_iff_exists'.mp
  apply (sound.memory.exist _).mpr
  simp [lane, writes]

theorem Sound.open_ {s : PipePair Frame} (sound : s.Sound) {pipe : Nat}
    (writes : s.this.outpipe = some pipe) : ¬s.this.sentAck := by
  intro acked
  cases writes.symm.trans (sound.this.released.mpr acked)

theorem Sound.checkWrite {s : PipePair Frame} (sound : s.Sound) : s.checkWrite.1.Sound := by
  unfold PipePair.checkWrite
  split
  next => exact sound
  next =>
    split
    next => exact sound.local (Same.of_eq rfl rfl rfl rfl sound.this.todo rfl)
    next => exact sound

theorem Sound.write {s : PipePair Frame} (sound : s.Sound) (alive : s.this.alive = true)
    (body : Frame) (more identity : Bool) : (s.write body more identity).Sound := by
  unfold PipePair.write
  split
  next writable =>
    have active : s.this.state = .active := by
      unfold PipePair.checkWrite at writable
      split at writable
      next => cases writable
      next other => simpa using (by simpa using other : _ ∧ s.this.state = .active).2
    have open_ : ¬s.this.sentAck := by simp [Pipe.sentAck, alive, active]
    obtain ⟨pipe, writes⟩ := Option.ne_none_iff_exists'.mp fun none =>
      open_ (sound.this.released.mp none)
    obtain ⟨content, there⟩ := sound.outpipe_there writes
    have whole := sound.memory.whole pipe content there
    have written : (s.onPipe s.this.outpipe fun pipe =>
        pipe.write (.frame body more identity) more).Sound := by
      simp only [onPipe, writes, there]
      refine sound.store there ?_
      cases more with
      | true => simpa [Upipe.write, PipeItem.more] using whole
      | false => rfl
    have this_kept : (s.onPipe s.this.outpipe fun pipe =>
        pipe.write (.frame body more identity) more).this = s.this := by
      simp only [onPipe, writes, there, PipePair.store]
    dsimp only
    split
    next =>
      refine written.local (Same.of_eq ?_ ?_ ?_ ?_ ?_ ?_) <;> rw [this_kept]
      exact sound.this.todo
    next => exact written
  next => exact sound.checkWrite

theorem Sound.rollback {s : PipePair Frame} (sound : s.Sound) : s.rollback.Sound := by
  unfold PipePair.rollback
  split
  next => exact sound
  next pipe writes =>
    obtain ⟨content, there⟩ := sound.outpipe_there writes
    have whole := sound.memory.whole pipe content there
    simp only [there, whole, if_true]
    exact sound.store there rfl

theorem flush_incomplete (content : Upipe (PipeItem Frame)) :
    content.flush.1.incomplete = content.incomplete := by
  unfold Upipe.flush
  split <;> rfl

theorem Sound.flush {s : PipePair Frame} (sound : s.Sound) : s.flush.Sound := by
  unfold PipePair.flush
  split
  next => exact sound
  next =>
    split
    next => exact sound
    next pipe writes =>
      obtain ⟨content, there⟩ := sound.outpipe_there writes
      have whole := sound.memory.whole pipe content there
      rw [← flush_incomplete] at whole
      have flushed := sound.store there whole
      simp only [there]
      split
      next => exact flushed
      next =>
        refine flushed.local (Same.of_eq rfl rfl rfl rfl (fun _ => ?_) rfl)
        exact sound.open_ writes

theorem Sound.processDelimiter {s : PipePair Frame} (sound : s.Sound) (alive : s.this.alive = true)
    (idle : s.this.todo = .nothing)
    (reads : s.this.state = .active ∨ s.this.state = .waitingForDelimiter) :
    s.processDelimiter.Sound := by
  unfold PipePair.processDelimiter
  split
  next active =>
    refine sound.local ⟨?_, ?_, ?_, rfl, rfl, rfl, fun todo => absurd idle todo, rfl⟩
    · simp [Pipe.sentTerm, active]
    · simp [Pipe.gotTerm, active]
    · simp [Pipe.sentAck, active]
  next other =>
    rcases reads with active | waiting
    · exact absurd active other
    · exact sound.sendAck alive idle waiting

theorem Sound.count {s : PipePair Frame} (sound : s.Sound) (open_ : ¬s.this.sentAck)
    (item : PipeItem Frame) : (s.count item).Sound := by
  unfold PipePair.count
  have counted (msgsRead : Nat) : { s with this := { s.this with msgsRead } }.Sound :=
    sound.local (Same.of_eq rfl rfl rfl rfl sound.this.todo rfl)
  generalize (if item.counted = true then s.this.msgsRead + 1 else s.this.msgsRead) = msgsRead
  dsimp only
  split
  next => exact (counted msgsRead).send_plain open_ (plain_activateWrite msgsRead)
  next => exact counted _

theorem Sound.sleep {s : PipePair Frame} (sound : s.Sound) : s.sleep.Sound :=
  sound.local (Same.of_eq rfl rfl rfl rfl sound.this.todo rfl)

theorem read_incomplete (content : Upipe (PipeItem Frame)) :
    content.read.1.incomplete = content.incomplete := by
  unfold Upipe.read
  split <;> rfl

theorem reads_state {p : Pipe} (reads : p.reads = true) :
    p.state = .active ∨ p.state = .waitingForDelimiter := by
  simp only [Pipe.reads, Bool.and_eq_true, Bool.or_eq_true, decide_eq_true_eq] at reads
  exact reads.2

theorem Sound.read {s : PipePair Frame} (sound : s.Sound) (alive : s.this.alive = true)
    (idle : s.this.todo = .nothing) : s.read.Sound := by
  unfold PipePair.read
  split
  next reads =>
    have state := reads_state reads
    have open_ : ¬s.this.sentAck := by
      rcases state with state | state <;> simp [Pipe.sentAck, alive, state]
    obtain ⟨content, there⟩ := sound.inpipe_there alive
    have whole := sound.memory.whole _ content there
    rw [← read_incomplete] at whole
    have taken := sound.store there whole
    simp only [there]
    split
    next => exact taken.sleep
    next => exact taken.processDelimiter alive idle state
    next => exact taken.count open_ _
  next => exact sound

theorem Sound.checkRead {s : PipePair Frame} (sound : s.Sound) (alive : s.this.alive = true)
    (idle : s.this.todo = .nothing) : s.checkRead.Sound := by
  unfold PipePair.checkRead
  split
  next reads =>
    obtain ⟨content, there⟩ := sound.inpipe_there alive
    have whole := sound.memory.whole _ content there
    simp only [there]
    split
    next empty =>
      refine (sound.store there ?_).sleep
      rw [Upipe.checkRead, if_pos empty]
      exact whole
    next =>
      rw [← read_incomplete] at whole
      exact (sound.store there whole).processDelimiter alive idle (reads_state reads)
    next => exact sound
  next => exact sound

-- The end stops writing, and has the delimiter still to write when there is a pipe to write it to.
theorem Sound.stop {s : PipePair Frame} (sound : s.Sound) :
    { s with
      this := { s.this with
        outActive := false
        todo := if s.this.outpipe = none then .nothing else .delimiter } }.Sound := by
  refine sound.local (Same.of_eq rfl rfl rfl rfl ?_ rfl)
  intro todo acked
  exact todo (if_pos (sound.this.released.mpr acked))

theorem Sound.terminate {s : PipePair Frame} (sound : s.Sound) (alive : s.this.alive = true)
    (idle : s.this.todo = .nothing) (delay : Bool) : (s.terminate delay).Sound := by
  have asked : { s with this := { s.this with delay } }.Sound :=
    sound.local (Same.of_eq rfl rfl rfl rfl sound.this.todo rfl)
  unfold PipePair.terminate
  split
  next => exact asked
  next => exact asked
  next => exact asked
  next active => exact (asked.sendTerm alive (.inl active)).stop
  next received => exact (asked.sendTerm alive (.inr received)).stop
  next waiting =>
    dsimp only
    split
    next => exact asked.stop
    next => exact (asked.sendAck alive idle waiting).stop

theorem rollback_this (s : PipePair Frame) : s.rollback.this = s.this := by
  unfold PipePair.rollback
  split
  next => rfl
  next =>
    split
    next => rfl
    next => split <;> rfl

theorem Sound.writeDelimiter {s : PipePair Frame} (sound : s.Sound) (open_ : ¬s.this.sentAck) :
    s.writeDelimiter.Sound := by
  obtain ⟨pipe, writes⟩ := Option.ne_none_iff_exists'.mp fun none =>
    open_ (sound.this.released.mp none)
  have back := sound.rollback
  have still : s.rollback.this.outpipe = some pipe := by rw [rollback_this, writes]
  obtain ⟨content, there⟩ := back.outpipe_there still
  have written : (s.rollback.onPipe s.this.outpipe fun pipe => pipe.write .delimiter false).Sound := by
    simp only [onPipe, writes, there]
    exact back.store there rfl
  exact written.flush

theorem Sound.go {s next : PipePair Frame} (sound : s.Sound) (taken : s.go = some next) :
    next.Sound := by
  have rested : { s with this := { s.this with todo := .nothing } }.Sound :=
    sound.local (Same.of_eq rfl rfl rfl rfl (by simp) rfl)
  unfold PipePair.go at taken
  split at taken
  next => cases taken
  next todo =>
    cases taken
    exact rested.writeDelimiter (sound.this.todo (by simp [todo]))
  next todo =>
    cases taken
    exact rested.send_plain (sound.this.todo (by simp [todo])) plain_activateRead

theorem Sound.call {s next : PipePair Frame} (sound : s.Sound) (alive : s.this.alive = true)
    (idle : s.this.todo = .nothing) {action : Action Frame} (taken : s.call action = some next) :
    next.Sound := by
  cases action with
  | checkRead =>
      cases taken
      exact sound.checkRead alive idle
  | read =>
      cases taken
      exact sound.read alive idle
  | checkWrite =>
      cases taken
      exact sound.checkWrite
  | write body more identity =>
      cases taken
      exact sound.write alive body more identity
  | rollback =>
      cases taken
      exact sound.rollback
  | flush =>
      cases taken
      exact sound.flush
  | terminate delay =>
      cases taken
      exact sound.terminate alive idle delay
  | hiccup =>
      cases taken
      exact sound.hiccup alive
  | setNodelay =>
      cases taken
      exact sound.local (Same.of_eq rfl rfl rfl rfl sound.this.todo rfl)
  | process => cases taken
  | go => cases taken

-- A request to terminate finds an end that has not answered one.
theorem Sound.processPipeTerm {s : PipePair Frame} (sound : s.Sound) {rest : List PipeCommand}
    (inbox : s.inbox = .pipeTerm :: rest) (alive : s.this.alive = true)
    (idle : s.this.todo = .nothing) : ({ s with inbox := rest }.processPipeTerm).Sound := by
  have peer := sound.peer
  rw [inbox] at peer
  have unanswered : ¬s.this.gotTerm := (peer.term.mp (by simp)).2
  cases state : s.this.state with
  | active =>
      have waiting := sound.pop_term inbox (.inl state)
      simp only [PipePair.processPipeTerm, state]
      split
      next => exact waiting
      next => exact waiting.sendAck alive idle rfl
  | delimiterReceived =>
      have waiting := sound.pop_term inbox (.inr state)
      simp only [PipePair.processPipeTerm, state]
      exact waiting.sendAck alive idle rfl
  | termReqSent1 =>
      simp only [PipePair.processPipeTerm, state]
      exact sound.sendAck_asked alive idle state inbox
  | waitingForDelimiter => exact absurd (.inl state) unanswered
  | termAckSent => exact absurd (.inr (.inl state)) unanswered
  | termReqSent2 => exact absurd (.inr (.inr state)) unanswered

theorem Sound.process {s : PipePair Frame} (sound : s.Sound) {command : PipeCommand}
    {rest : List PipeCommand} (inbox : s.inbox = command :: rest) (alive : s.this.alive = true)
    (idle : s.this.todo = .nothing) : ({ s with inbox := rest }.processCommand command).Sound := by
  have todo := sound.this.todo
  cases command with
  | activateRead =>
      have popped := sound.pop_plain inbox plain_activateRead
      simp only [processCommand]
      split
      next => exact popped.local (Same.of_eq rfl rfl rfl rfl todo (by simp))
      next => exact popped
  | activateWrite msgsRead =>
      have popped := sound.pop_plain inbox (plain_activateWrite msgsRead)
      simp only [processCommand]
      split <;> exact popped.local (Same.of_eq rfl rfl rfl rfl todo (by simp))
  | hiccup pipe => exact sound.processHiccup inbox alive
  | pipeTerm => exact sound.processPipeTerm inbox alive idle
  | pipeTermAck => exact sound.processPipeTermAck inbox alive idle

theorem Sound.act {s next : PipePair Frame} (sound : s.Sound) {action : Action Frame}
    (taken : s.act action = some next) : next.Sound := by
  unfold PipePair.act at taken
  split at taken
  next => exact sound.go taken
  next =>
    split at taken
    next => cases taken
    next command rest inbox =>
      obtain ⟨idle, taken⟩ := Option.ite_none_left_eq_some.mp taken
      split at taken
      next dead =>
        have gone := (sound.peer.gone (by simpa using dead)).2
        cases inbox.symm.trans gone
      next alive =>
        cases taken
        exact sound.process inbox (by simpa using alive) (by simpa using idle)
  next =>
    obtain ⟨guard, taken⟩ := Option.ite_none_right_eq_some.mp taken
    simp only [Bool.and_eq_true, decide_eq_true_eq] at guard
    exact sound.call guard.1 guard.2 taken

theorem Sound.step {s next : PipePair Frame} (sound : s.Sound) {action : Side × Action Frame}
    (taken : s.step action = some next) : next.Sound := by
  obtain ⟨side, action⟩ := action
  cases side with
  | this => exact sound.act taken
  | peer =>
      obtain ⟨other, moved, same⟩ := Option.map_eq_some_iff.mp taken
      subst same
      exact (sound.swap.act moved).swap

end Calls

theorem sound_initial (hwms : Nat × Nat) : (initial hwms : PipePair Frame).Sound where
  this := by constructor <;> simp [initial, Pipe.sentTerm, Pipe.gotTerm, Pipe.sentAck, hiccups]
  peer := by constructor <;> simp [initial, Pipe.sentTerm, Pipe.gotTerm, Pipe.sentAck, hiccups]
  memory :=
    { last := by simp [initial, hiccups]
      peerLast := by simp [initial, hiccups]
      apart := by simp [initial, lane, hiccups]
      exist := by
        intro pipe
        simp only [initial, lane, hiccups]
        simp
        omega
      fresh := by simp [initial]
      whole := by
        intro pipe content there
        simp only [initial, Option.ite_none_right_eq_some, Option.some.injEq] at there
        rw [← there.2]
        rfl }
  alive := rfl

theorem reached_sound {hwms : Nat × Nat} {actions : List (Side × Action Frame)}
    {final : PipePair Frame} (reached : run step (initial hwms) actions = some final) :
    final.Sound :=
  run_invariant Sound (fun _ _ _ sound _ taken => sound.step taken) (sound_initial hwms)
    (along_true _ actions) reached

/-- Each command of either end meets a living peer in a state that expects it, an end is reported
closed when it is deleted and once, and the ends leave neither a lock-free pipe nor a command
behind. -/
theorem closes_cleanly {hwms : Nat × Nat} {actions : List (Side × Action Frame)}
    {final : PipePair Frame} (reached : run step (initial hwms) actions = some final) :
    final.aborted = false ∧
      final.this.sink.count .pipeTerminated = (if final.this.alive then 0 else 1) ∧
      final.peer.sink.count .pipeTerminated = (if final.peer.alive then 0 else 1) ∧
      (final.this.alive = true → final.heap final.this.inpipe ≠ none) ∧
      (final.peer.alive = true → final.heap final.peer.inpipe ≠ none) ∧
      (final.this.alive = false → final.peer.alive = false →
        final.sent = [] ∧ final.inbox = [] ∧ ∀ pipe, final.heap pipe = none) := by
  have sound := reached_sound reached
  refine ⟨sound.alive, sound.this.told, sound.peer.told, ?_, ?_, ?_⟩
  · intro alive
    exact Option.ne_none_iff_exists'.mpr (sound.inpipe_there alive)
  · intro alive
    exact Option.ne_none_iff_exists'.mpr (sound.swap.inpipe_there alive)
  · intro gone peerGone
    refine ⟨(sound.this.gone peerGone).2, (sound.peer.gone gone).2, fun pipe => ?_⟩
    have closed : final.this.outpipe = none := sound.this.released.mpr (.inl gone)
    have peerClosed : final.peer.outpipe = none := sound.peer.released.mpr (.inl peerGone)
    have exist := sound.memory.exist pipe
    simpa [lane, closed, peerClosed, gone, peerGone] using exist

-- Both ends ask at once, and each answers the other's request.
def crossing : List (Side × Action Nat) :=
  [(.this, .write 7 false false), (.this, .terminate true), (.peer, .terminate true), (.this, .go),
    (.peer, .go), (.this, .process), (.peer, .process), (.peer, .process), (.this, .process)]

theorem closes_cleanly_crossing : ∃ final, run step (initial (2, 2)) crossing = some final ∧
    ∀ pipe, final.heap pipe = none := by
  have reached : ∃ final, run step (initial (2, 2)) crossing = some final ∧
      final.this.alive = false ∧ final.peer.alive = false := ⟨_, rfl, rfl, rfl⟩
  obtain ⟨final, reached, gone, peerGone⟩ := reached
  exact ⟨final, reached, ((closes_cleanly reached).2.2.2.2.2 gone peerGone).2.2⟩

section Progress

-- An end has asked, both ends have done what they were told, and not both of them are gone.
theorem Sound.settled {s : PipePair Frame} (sound : s.Sound) (asked : s.this.sentTerm)
    (sent : s.sent = []) (inbox : s.inbox = [])
    (left : ¬(s.this.alive = false ∧ s.peer.alive = false)) :
    s.this.state = .termReqSent1 ∧ s.peer.state = .waitingForDelimiter ∧
      s.this.alive = true ∧ s.peer.alive = true := by
  have this := sound.this
  have peer := sound.peer
  rw [sent] at this
  rw [inbox] at peer
  have got : s.peer.gotTerm := by
    by_contra unasked
    cases this.term.mpr ⟨asked, unasked⟩
  have answered (acked : s.this.sentAck) : s.peer.alive = false := by
    cases alive : s.peer.alive with
    | false => rfl
    | true => cases this.ack.mpr ⟨acked, alive⟩
  have peerAnswered (acked : s.peer.sentAck) : s.this.alive = false := by
    cases alive : s.this.alive with
    | false => rfl
    | true => cases peer.ack.mpr ⟨acked, alive⟩
  have open_ : ¬s.peer.sentAck := by
    intro acked
    have gone := peerAnswered acked
    exact left ⟨gone, answered (.inl gone)⟩
  have peerAlive : s.peer.alive = true := by
    cases alive : s.peer.alive with
    | true => rfl
    | false => exact absurd (.inl alive) open_
  have unacked : ¬s.this.sentAck := by
    intro acked
    cases peerAlive.symm.trans (answered acked)
  refine ⟨?_, ?_, (peer.unacked open_).2, peerAlive⟩
  · rcases asked with once | twice
    · exact once
    · exact absurd (.inr (.inr twice)) unacked
  · rcases got with waiting | acked | twice
    · exact waiting
    · exact absurd (.inr (.inl acked)) open_
    · exact absurd (.inr (.inr twice)) open_

theorem delete_peer (s : PipePair Frame) (pipe : Nat) : (s.delete pipe).peer = s.peer := by
  unfold delete
  split <;> rfl

theorem delete_sent (s : PipePair Frame) (pipe : Nat) : (s.delete pipe).sent = s.sent := by
  unfold delete
  split <;> rfl

theorem Sound.closes {s : PipePair Frame} (sound : s.Sound) (asked : s.this.sentTerm)
    (sent : s.sent = []) (inbox : s.inbox = []) (idle : s.this.todo = .nothing)
    (peerIdle : s.peer.todo = .nothing) :
    (s.this.alive = false ∧ s.peer.alive = false) ∨
      (s.peer.state = .waitingForDelimiter ∧
        ∃ next, run PipePair.step s
            [(.peer, .terminate false), (.this, .process), (.peer, .process)] = some next ∧
          next.this.alive = false ∧ next.peer.alive = false) := by
  by_cases left : s.this.alive = false ∧ s.peer.alive = false
  · exact .inl left
  obtain ⟨state, waits, alive, peerAlive⟩ := sound.settled asked sent inbox left
  refine .inr ⟨waits, ?_⟩
  simp [run, PipePair.step, PipePair.act, PipePair.call, PipePair.terminate, PipePair.swap, waits,
    peerAlive, peerIdle, idle, alive, PipePair.sendAck, PipePair.send, inbox, sent, processCommand,
    PipePair.processPipeTermAck, state, delete_peer, delete_sent]

def facing (s : PipePair Frame) : Side → PipePair Frame
  | .this => s
  | .peer => s.swap

end Progress

end PipePair

end Zmqcpp
