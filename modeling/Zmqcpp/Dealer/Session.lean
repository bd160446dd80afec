import Zmqcpp.Client.OpenSession
import Zmqcpp.Client.Threads
import Zmqcpp.Dealer.Forward
import Zmqcpp.Dealer.SendDataAndCommand
import Zmqcpp.Shared.Interleaving

set_option autoImplicit false

namespace Zmqcpp

open Multipart ZmqClientBase

namespace ZmqClientDealer

-- SendData(data, 0) and SendDataAndCommand(message, command), on strings.
inductive SenderCall
  | sendData (data : Bytes)
  | sendDataAndCommand (message command : Bytes)
  deriving DecidableEq, Repr

def SenderCall.frames : SenderCall → List Bytes
  | .sendData data => [data]
  | .sendDataAndCommand message command => [command, message]

/-- The SendData a thread's call is in: SendData(data, 0), or the first or the second one of
SendDataAndCommand. -/
inductive Sending
  | sendData (data : Bytes)
  | sendCommand (message command : Bytes)
  | sendMessage (message command : Bytes)
  deriving DecidableEq, Repr

def SenderCall.first : SenderCall → Sending
  | .sendData data => .sendData data
  | .sendDataAndCommand message command => .sendCommand message command

namespace Sending

def call : Sending → SenderCall
  | .sendData data => .sendData data
  | .sendCommand message command | .sendMessage message command => .sendDataAndCommand message command

def buf : Sending → Bytes
  | .sendData data => data
  | .sendCommand _ command => command
  | .sendMessage message _ => message

def flags : Sending → UInt32
  | .sendCommand _ _ => zmqSndmore
  | .sendData _ | .sendMessage _ _ => 0

def before : Sending → List Bytes
  | .sendData _ | .sendCommand _ _ => []
  | .sendMessage _ command => [command]

def after : Sending → List Bytes
  | .sendCommand _ command => [command]
  | .sendData _ | .sendMessage _ _ => []

def finished : Sending → List (List Bytes)
  | .sendCommand _ _ => []
  | .sendData data => [[data]]
  | .sendMessage message command => [[command, message]]

end Sending

structure Session where
  client : ZmqClientBase
  -- Of each front socket the message begun, and those in its pipe to the back socket.
  pipe : FrontSocket → Outbox Bytes
  sockets : Sockets Bytes
  work : Tid → Option Sending
  sendSize : Tid → Int
  completed : Tid → List SenderCall

namespace Session

/-- `front` is the socket zmq_recviov reads a message from, if there is one to read; `answers` are
those of the sends that follow. -/
inductive Action
  | call (thread : Tid) (call : SenderCall)
  | task (thread : Tid) (env : Env) (outcome : SendOutcome)
  | recvPoll (env : Env) (front : Option FrontSocket) (answers : Nat → Answer)

-- Nothing has been sent when the poll thread enters its loop.
def begun (client : ZmqClientBase) : Session where
  client := client
  pipe := fun _ => {}
  sockets := {}
  work := fun _ => none
  sendSize := fun _ => 0
  completed := fun _ => []

def sendData (s : Session) (thread : Tid) (sending : Sending) : Option Session :=
  (s.client.step (.call thread .sendData)).map fun client =>
    { s with
      client := client
      work := Function.update s.work thread (some sending)
      sendSize := Function.update s.sendSize thread 0 }

def finish (s : Session) (thread : Tid) (sending : Sending) : Session :=
  { s with
    work := Function.update s.work thread none
    completed := Function.update s.completed thread (s.completed thread ++ [sending.call]) }

def afterSend (s : Session) (thread : Tid) (rc : Bool) : Sending → Option Session
  | .sendCommand message command =>
      if rc then s.sendData thread (.sendMessage message command)
      else some (s.finish thread (.sendCommand message command))
  | sending => some (s.finish thread sending)

def taskStep (s : Session) (thread : Tid) (env : Env) (outcome : SendOutcome) : Option Session :=
  match s.work thread, s.client.task thread with
  | some sending, .send (.sending socket) =>
      let sent := Socket.send (s.pipe socket) sending.buf sending.flags outcome 0
      (s.client.step (.task thread { env with ok := sent.2.1 })).map fun client =>
        { s with
          client := client
          pipe := Function.update s.pipe socket sent.1
          sendSize := Function.update s.sendSize thread sent.2.2 }
  | some sending, .send (.result value) =>
      (s.client.step (.task thread env)).bind fun client =>
        { s with client := client }.afterSend thread
          (value && decide (s.sendSize thread = sending.buf.length)) sending
  | _, _ => (s.client.step (.task thread env)).map fun client => { s with client := client }

-- The pipe of the front socket ends at the back socket of the session.
def connected (s : Session) (session : Nat) (front : FrontSocket) : Bool :=
  (s.client.backAddress session).isSome &&
    decide (s.client.frontAddress front = s.client.backAddress session)

def arrive (s : Session) (session : Nat) : Option FrontSocket → Option Session
  | none => some s
  | some front =>
      if s.connected session front then
        match (s.pipe front).sent with
        | (first :: others) :: waiting =>
            (s.sockets.step (.arrive ⟨first, others⟩)).map fun sockets =>
              { s with
                pipe := Function.update s.pipe front { frames := (s.pipe front).frames, sent := waiting }
                sockets := sockets }
        | _ => none
      else none

-- Between the poll thread's reads and sends no other thread touches its sockets.
def recvPoll (s : Session) (session : Nat) (env : Env) (front : Option FrontSocket)
    (answers : Nat → Answer) : Option Session :=
  (s.client.step (.recvPoll session env)).bind fun client =>
    match s.client.poll session with
    | .backSocketRecv _ _ =>
        (s.arrive session front).bind fun read =>
          (read.sockets.step (.backSocketRecv answers)).map fun sockets =>
            { read with client := client, sockets := sockets }
    | _ => some { s with client := client }

def step (session : Nat) (s : Session) : Action → Option Session
  | .call thread call => if s.work thread = none then s.sendData thread call.first else none
  | .task thread env outcome => s.taskStep thread env outcome
  | .recvPoll env front answers => s.recvPoll session env front answers

def pending (s : Session) (thread : Tid) : Outbox Bytes := (s.client.front thread).elim {} s.pipe

-- The messages of a thread that the poll thread has not read.
def queued (s : Session) (thread : Tid) : List (List Bytes) := (s.pending thread).sent

-- The zmq_send of the SendData the thread is in has been.
def past (s : Session) (thread : Tid) : Bool :=
  match s.client.task thread with
  | .send pc => pc.past
  | _ => false

/-- The messages of the thread's calls: one for each call that has returned, and the one of a call
that has sent its last frame. -/
def made (s : Session) (thread : Tid) : List (List Bytes) :=
  (s.completed thread).map SenderCall.frames ++
    match s.work thread with
    | some sending => if s.past thread then sending.finished else []
    | none => []

/-- The messages sent and those still queued are those of the threads' calls, whole, each once, and
those of each thread in its order. -/
structure Interleaved (s : Session) : Prop where
  closed : s.sockets.clisock.outbox.frames = []
  sent : ∃ sentBy : Tid → List (List Bytes), Interleaving sentBy s.sockets.clisock.outbox.sent ∧
    ∀ thread, s.made thread = sentBy thread ++ s.queued thread
  elsewhere : ∀ socket, s.client.front socket.owner ≠ some socket → (s.pipe socket).sent = []

end Session

/-- No libzmq call of the step fails or times out, and the connection is not lost: a zmq_send that
succeeds returns the size of its frame. -/
structure Lasts (s : Session) (action : Session.Action) : Prop where
  ok : ∀ thread env outcome, action = .task thread env outcome → env.ok = true
  sends : ∀ thread env outcome sending, action = .task thread env outcome →
    s.work thread = some sending → zmqSend sending.buf.length outcome = sending.buf.length
  event : ∀ env front answers, action = .recvPoll env front answers →
    env.event ≠ some .closed ∧ env.event ≠ some .disconnected
  answers : ∀ env front answers, action = .recvPoll env front answers → ∀ i, answers i = {}

theorem Sending.send (sending : Sending) {sock : Outbox Bytes} {outcome : SendOutcome}
    (begun : sock.frames = sending.before)
    (succeeds : zmqSend sending.buf.length outcome = sending.buf.length) :
    Socket.send sock sending.buf sending.flags outcome 0 =
      ({ frames := sending.after, sent := sock.sent ++ sending.finished }, true,
        (sending.buf.length : Int)) := by
  obtain ⟨frames, sent⟩ := sock
  dsimp only at begun
  subst begun
  have nonneg : (0 : Int) ≤ sending.buf.length := Int.natCast_nonneg _
  cases outcome with
  | refused errno =>
      have negative : (-1 : Int) = sending.buf.length := succeeds
      omega
  | accepted errno =>
      simp only [Socket.send, succeeds, nonneg, if_true]
      cases sending with
      | sendCommand =>
          simp only [Sending.flags, sndmore_more, Outbox.put_more]
          simp [Sending.before, Sending.after, Sending.finished, Sending.buf]
      | sendData | sendMessage =>
          simp only [Sending.flags, sndmore_last, Outbox.put_last]
          simp [Sending.before, Sending.after, Sending.finished, Sending.buf]

theorem Sending.finished_short (sending : Sending) {frames : List Bytes}
    (member : frames ∈ sending.finished) : frames.length ≤ iovetSize := by
  cases sending <;> simp [Sending.finished] at member <;> simp [member, iovetSize]

-- A message that is alone on the back socket is sent on as a whole.
theorem recv_alone {sockets : Sockets Bytes} {answers : Nat → Answer} {message : Message Bytes}
    (between : sockets.clisock.Between) (alone : sockets.backsock = { waiting := [message] })
    (short : message.frames.length ≤ iovetSize) (accepted : ∀ i, answers i = {}) :
    sockets.backSocketRecv answers =
      { sockets with
        backsock := {}
        clisock := { outbox := { sent := sockets.clisock.outbox.sent ++ [message.frames] } } } := by
  have all : answers = fun _ => {} := funext accepted
  have taken : sockets.backsock.read iovetSize = some (message.frames, {}) := by
    rw [alone]
    simp [Inbox.read, List.take_of_length_le short, List.drop_of_length_le short]
  have whole : completed answers 0 message.frames = some message.frames := by
    rw [all]
    simp [Message.frames, completed, cutOff]
  rw [sent_of_recv between answers taken, whole]
  rfl

namespace Session

variable {s next : Session} {session : Nat} {action : Action} {thread other : Tid}

def opened (s : Session) (thread : Tid) : List Bytes :=
  match s.work thread with
  | some sending => if s.past thread then sending.after else sending.before
  | none => []

-- A thread's messages are in the pipe of its entry in the map only.
structure OwnPipe (s : Session) (thread : Tid) : Prop where
  owned : ∀ socket, s.client.front thread = some socket → socket.owner = thread
  elsewhere : ∀ socket, socket.owner = thread → s.client.front thread ≠ some socket →
    s.pipe socket = {}

/-- A thread between its steps, `sent` being those of its messages that have been sent on. -/
structure Sender (s : Session) (thread : Tid) (sent : List (List Bytes)) : Prop where
  own : s.OwnPipe thread
  quiet : s.work thread = none → (s.client.task thread).quiet = true
  sends : ∀ sending, s.work thread = some sending → ∃ pc, s.client.task thread = .send pc ∧
    s.client.SendHolds thread pc ∧ (pc.past = true → s.sendSize thread = sending.buf.length)
  frames : (s.pending thread).frames = s.opened thread
  made : s.made thread = sent ++ s.queued thread

structure Leaves (s next : Session) (other : Tid) : Prop where
  front : next.client.front other = s.client.front other
  task : next.client.task other = s.client.task other
  holds : ∀ pc, s.client.SendHolds other pc → next.client.SendHolds other pc
  pipe : ∀ socket, socket.owner = other → next.pipe socket = s.pipe socket
  work : next.work other = s.work other
  sendSize : next.sendSize other = s.sendSize other
  completed : next.completed other = s.completed other

theorem opened_of_send {sending : Sending} {pc : SendPc} (busy : s.work thread = some sending)
    (here : s.client.task thread = .send pc) :
    s.opened thread = if pc.past then sending.after else sending.before := by
  simp [opened, past, busy, here]

theorem made_of_send {sending : Sending} {pc : SendPc} (busy : s.work thread = some sending)
    (here : s.client.task thread = .send pc) :
    s.made thread = (s.completed thread).map SenderCall.frames ++
      if pc.past then sending.finished else [] := by
  simp [made, past, busy, here]

theorem made_of_quiet (free : s.work thread = none) :
    s.made thread = (s.completed thread).map SenderCall.frames := by
  simp [made, free]

theorem sender_of_send {sending : Sending} {pc : SendPc} {sent : List (List Bytes)}
    (own : s.OwnPipe thread) (busy : s.work thread = some sending)
    (here : s.client.task thread = .send pc) (holds : s.client.SendHolds thread pc)
    (size : pc.past = true → s.sendSize thread = sending.buf.length)
    (frames : (s.pending thread).frames = if pc.past then sending.after else sending.before)
    (made : (s.completed thread).map SenderCall.frames ++
      (if pc.past then sending.finished else []) = sent ++ s.queued thread) :
    s.Sender thread sent where
  own := own
  quiet := by simp [busy]
  sends := by
    intro other same
    rw [busy] at same
    cases same
    exact ⟨pc, here, holds, size⟩
  frames := by rw [opened_of_send busy here, frames]
  made := by rw [made_of_send busy here, made]

theorem sender_of_quiet {sent : List (List Bytes)} (own : s.OwnPipe thread)
    (free : s.work thread = none) (quiet : (s.client.task thread).quiet = true)
    (frames : (s.pending thread).frames = [])
    (made : (s.completed thread).map SenderCall.frames = sent ++ s.queued thread) :
    s.Sender thread sent where
  own := own
  quiet := fun _ => quiet
  sends := by simp [free]
  frames := by simp [opened, free, frames]
  made := by rw [made_of_quiet free, made]

theorem pending_of_held {socket : FrontSocket} (held : s.client.front thread = some socket) :
    s.pending thread = s.pipe socket := by
  rw [Session.pending, held]
  rfl

theorem OwnPipe.pending (own : s.OwnPipe thread)
    (front : next.client.front thread = s.client.front thread)
    (pipe : ∀ socket, socket.owner = thread → next.pipe socket = s.pipe socket) :
    next.pending thread = s.pending thread := by
  unfold Session.pending
  rw [front]
  cases held : s.client.front thread with
  | none => rfl
  | some socket => exact pipe socket (own.owned socket held)

theorem Sender.leaves {sent : List (List Bytes)} (sender : s.Sender other sent)
    (leaves : Leaves s next other) : next.Sender other sent := by
  have pending := sender.own.pending leaves.front leaves.pipe
  have past : next.past other = s.past other := by rw [Session.past, leaves.task, ← Session.past]
  refine ⟨⟨?_, ?_⟩, ?_, ?_, ?_, ?_⟩
  · rw [leaves.front]
    exact sender.own.owned
  · intro socket owner apart
    rw [leaves.front] at apart
    rw [leaves.pipe socket owner]
    exact sender.own.elsewhere socket owner apart
  · rw [leaves.work, leaves.task]
    exact sender.quiet
  · intro sending busy
    rw [leaves.work] at busy
    obtain ⟨pc, here, holds, size⟩ := sender.sends sending busy
    refine ⟨pc, ?_, leaves.holds pc holds, ?_⟩
    · rw [leaves.task]
      exact here
    · rw [leaves.sendSize]
      exact size
  · rw [pending, Session.opened, leaves.work, past]
    exact sender.frames
  · rw [Session.made, leaves.completed, leaves.work, past, Session.queued, pending]
    exact sender.made

theorem leaves_client {client : ZmqClientBase} {after : Task} (step : FrontStep s.client client thread)
    (task : client.task = Function.update s.client.task thread after) (apart : other ≠ thread) :
    Leaves s { s with client := client } other where
  front := step.others other apart
  task := by simp [task, apart]
  holds := fun _ holds => sendHolds_other holds step apart
  pipe := fun _ _ => rfl
  work := rfl
  sendSize := rfl
  completed := rfl

-- A socket that enters the map has an empty pipe.
theorem OwnPipe.client {client : ZmqClientBase} (own : s.OwnPipe thread)
    (step : FrontStep s.client client thread) :
    OwnPipe { s with client := client } thread ∧
      ({ s with client := client } : Session).pending thread = s.pending thread := by
  rcases step.own with same | ⟨none_yet, socket, held, owner⟩
  · refine ⟨⟨?_, ?_⟩, ?_⟩
    · rw [same]
      exact own.owned
    · rw [same]
      exact own.elsewhere
    · rw [Session.pending, same, ← Session.pending]
  · refine ⟨⟨?_, ?_⟩, ?_⟩
    · intro other found
      rw [held] at found
      cases found
      exact owner
    · intro other mine _
      exact own.elsewhere other mine (by rw [none_yet]; simp)
    · rw [Session.pending, Session.pending, held, none_yet]
      exact own.elsewhere socket owner (by rw [none_yet]; simp)

theorem sendData_eq {sending : Sending} (taken : s.sendData thread sending = some next) :
    next = { s with
      client := s.client.setTask thread (.send .testState)
      work := Function.update s.work thread (some sending)
      sendSize := Function.update s.sendSize thread 0 } := by
  simp only [sendData, Option.map_eq_some_iff] at taken
  obtain ⟨client, called, rfl⟩ := taken
  cases step_moves called with
  | call => rfl

theorem sender_sendData {sending : Sending} {sent : List (List Bytes)} (own : s.OwnPipe thread)
    (frames : (s.pending thread).frames = sending.before)
    (made : (s.completed thread).map SenderCall.frames = sent ++ s.queued thread)
    (taken : s.sendData thread sending = some next) : next.Sender thread sent := by
  rw [sendData_eq taken]
  have busy := Function.update_self thread (some sending) s.work
  have here := Function.update_self thread (Task.send .testState) s.client.task
  refine sender_of_send ⟨own.owned, own.elsewhere⟩ busy here trivial ?_ frames ?_
  · intro past
    cases past
  · exact (List.append_nil _).trans made

theorem sender_finish {sending : Sending} {sent : List (List Bytes)} (own : s.OwnPipe thread)
    (quiet : (s.client.task thread).quiet = true) (frames : (s.pending thread).frames = [])
    (made : (s.completed thread).map SenderCall.frames ++ [sending.call.frames] =
      sent ++ s.queued thread) : (s.finish thread sending).Sender thread sent := by
  apply sender_of_quiet
  · exact ⟨own.owned, own.elsewhere⟩
  · simp [finish]
  · exact quiet
  · exact frames
  · simp only [finish, Function.update_self, List.map_append, List.map_cons, List.map_nil]
    exact made

theorem leaves_sendData {sending : Sending} (taken : s.sendData thread sending = some next)
    (apart : other ≠ thread) : Leaves s next other := by
  rw [sendData_eq taken]
  constructor <;> simp [apart, front, setTask, SendHolds]

theorem leaves_finish {sending : Sending} (apart : other ≠ thread) :
    Leaves s (s.finish thread sending) other := by
  constructor <;> simp [apart, finish]

structure ThreadStep (s next : Session) (thread : Tid) : Prop where
  sender : ∀ sent, s.Sender thread sent → next.Sender thread sent
  leaves : ∀ other, other ≠ thread → Leaves s next other
  sockets : next.sockets = s.sockets
  transportState : next.client.transportState = s.client.transportState
  bRun : next.client.bRun = s.client.bRun
  poll : next.client.poll = s.client.poll

theorem Leaves.trans {middle : Session} (first : Leaves s middle other)
    (second : Leaves middle next other) : Leaves s next other where
  front := second.front.trans first.front
  task := second.task.trans first.task
  holds := fun pc holds => second.holds pc (first.holds pc holds)
  pipe := fun socket owner => (second.pipe socket owner).trans (first.pipe socket owner)
  work := second.work.trans first.work
  sendSize := second.sendSize.trans first.sendSize
  completed := second.completed.trans first.completed

theorem Sender.of_send {sending : Sending} {pc : SendPc} {sent : List (List Bytes)}
    (sender : s.Sender thread sent) (busy : s.work thread = some sending)
    (here : s.client.task thread = .send pc) :
    (s.pending thread).frames = (if pc.past then sending.after else sending.before) ∧
      ((s.completed thread).map SenderCall.frames ++ if pc.past then sending.finished else []) =
        sent ++ s.queued thread := by
  have frames := sender.frames
  have made := sender.made
  rw [opened_of_send busy here] at frames
  rw [made_of_send busy here] at made
  exact ⟨frames, made⟩

theorem threadStep_call {call : SenderCall} (free : s.work thread = none)
    (taken : s.sendData thread call.first = some next) : ThreadStep s next thread := by
  have same := sendData_eq taken
  refine
    { sender := ?_
      leaves := fun other apart => leaves_sendData taken apart
      sockets := by rw [same]
      transportState := by rw [same]; rfl
      bRun := by rw [same]; rfl
      poll := by rw [same]; rfl }
  intro sent sender
  have made := sender.made
  rw [made_of_quiet free] at made
  refine sender_sendData sender.own ?_ made taken
  rw [sender.frames, opened, free]
  cases call <;> rfl

theorem threadStep_client {client : ZmqClientBase} {after : Task}
    (step : FrontStep s.client client thread)
    (task : client.task = Function.update s.client.task thread after)
    (sender : ∀ sent, s.Sender thread sent → ({ s with client := client } : Session).Sender thread sent) :
    ThreadStep s { s with client := client } thread where
  sender := sender
  leaves := fun _ apart => leaves_client step task apart
  sockets := rfl
  transportState := step.transportState
  bRun := step.bRun
  poll := step.poll

theorem threadStep_quiet {env : Env} {outcome : SendOutcome} (free : s.work thread = none)
    (quiet : (s.client.task thread).quiet = true)
    (taken : s.taskStep thread env outcome = some next) : ThreadStep s next thread := by
  simp only [taskStep, free, Option.map_eq_some_iff] at taken
  obtain ⟨client, moved, rfl⟩ := taken
  obtain ⟨step, front, after, task, still⟩ := step_quiet quiet moved
  apply threadStep_client step task
  intro sent sender
  obtain ⟨own, pending⟩ := sender.own.client step
  refine sender_of_quiet own free ?_ ?_ ?_
  · simpa [task] using still
  · rw [pending, sender.frames, opened, free]
  · have made := sender.made
    rw [made_of_quiet free] at made
    rw [queued, pending]
    exact made

theorem threadStep_plain {client : ZmqClientBase} {env : Env} {sending : Sending} {pc : SendPc}
    (up : ¬s.client.transportState < .transporting) (ok : env.ok = true)
    (busy : s.work thread = some sending) (here : s.client.task thread = .send pc)
    (holds : s.client.SendHolds thread pc) (unsent : ∀ socket, pc ≠ .sending socket)
    (inside : ∀ value, pc ≠ .result value)
    (moved : s.client.step (.task thread env) = some client) :
    ThreadStep s { s with client := client } thread := by
  have step := step_frontStep here holds moved
  cases step_sendMoves up ok here holds moved with
  | returns ends => exact absurd ends (inside true)
  | goes after task holds past =>
      apply threadStep_client step task
      intro sent sender
      obtain ⟨own, pending⟩ := sender.own.client step
      have there : client.task thread = .send after := by simp [task]
      have same : after.past = pc.past := by
        rw [Bool.eq_iff_iff, past]
        simp [unsent]
      obtain ⟨frames, made⟩ := sender.of_send busy here
      refine sender_of_send own busy there holds ?_ ?_ ?_
      · obtain ⟨also, same_pc, -, size⟩ := sender.sends sending busy
        rw [here] at same_pc
        cases same_pc
        rw [same]
        exact size
      · rw [pending, same]
        exact frames
      · rw [same, queued, pending]
        exact made

-- The pipe of a front socket that has taken the thread's frame.
def taking (s : Session) (client : ZmqClientBase) (thread : Tid) (socket : FrontSocket)
    (sending : Sending) : Session :=
  { s with
    client := client
    pipe := Function.update s.pipe socket
      { frames := sending.after, sent := (s.pipe socket).sent ++ sending.finished }
    sendSize := Function.update s.sendSize thread sending.buf.length }

theorem sender_taking {client : ZmqClientBase} {sending : Sending} {socket : FrontSocket}
    {after : SendPc} {sent : List (List Bytes)} (busy : s.work thread = some sending)
    (here : s.client.task thread = .send (.sending socket))
    (held : s.client.front thread = some socket) (still : client.front thread = some socket)
    (there : client.task thread = .send after) (holds : client.SendHolds thread after)
    (beyond : after.past = true) (sender : s.Sender thread sent) :
    (s.taking client thread socket sending).Sender thread sent := by
  have made := (sender.of_send busy here).2
  rw [queued, pending_of_held held] at made
  refine sender_of_send ⟨?_, ?_⟩ busy there holds ?_ ?_ ?_
  · intro other found
    apply sender.own.owned other
    rw [held, ← still]
    exact found
  · intro other mine apart
    have distinct : other ≠ socket := by
      rintro rfl
      exact apart still
    have empty := sender.own.elsewhere other mine (by rw [held, ← still]; exact apart)
    exact (Function.update_of_ne distinct _ _).trans empty
  · intro _
    simp [taking]
  · simp [Session.pending, taking, still, beyond]
  · have before : (SendPc.sending socket).past = false := rfl
    rw [before] at made
    simp only [beyond, if_true, queued, Session.pending, taking, still, Option.elim_some,
      Function.update_self, ← List.append_assoc]
    rw [← made]
    simp

theorem threadStep_sending {env : Env} {outcome : SendOutcome} {sending : Sending}
    {socket : FrontSocket} {sent : List (List Bytes)}
    (up : ¬s.client.transportState < .transporting) (busy : s.work thread = some sending)
    (here : s.client.task thread = .send (.sending socket)) (sender : s.Sender thread sent)
    (succeeds : zmqSend sending.buf.length outcome = sending.buf.length)
    (taken : s.taskStep thread env outcome = some next) : ThreadStep s next thread := by
  obtain ⟨pc, same_pc, front, -⟩ := sender.sends sending busy
  rw [here] at same_pc
  cases same_pc
  have held : s.client.front thread = some socket := front
  have begun := (sender.of_send busy here).1
  rw [pending_of_held held] at begun
  have takes := sending.send begun succeeds
  simp only [taskStep, busy, here, takes, Option.map_eq_some_iff] at taken
  obtain ⟨client, moved, rfl⟩ := taken
  have step := step_frontStep here front moved
  cases step_sendMoves up rfl here front moved with
  | returns ends => cases ends
  | goes after task holds past =>
      have still : client.front thread = some socket := by
        rcases step.own with same | ⟨none_yet, -⟩
        · rw [same, held]
        · rw [held] at none_yet
          cases none_yet
      have there : client.task thread = .send after := by simp [task]
      refine
        { sender := fun _ sender => sender_taking busy here held still there holds
            (past.mpr (.inr ⟨socket, rfl⟩)) sender
          leaves := ?_
          sockets := rfl
          transportState := step.transportState
          bRun := step.bRun
          poll := step.poll }
      intro other apart
      have leaves := leaves_client step task apart
      refine ⟨leaves.front, leaves.task, leaves.holds, ?_, rfl, ?_, rfl⟩
      · intro another mine
        have distinct : another ≠ socket := by
          rintro rfl
          exact apart (mine.symm.trans (sender.own.owned another held))
        simp [distinct]
      · simp [apart]

theorem threadStep_finish {client : ZmqClientBase} {sending : Sending} {value : Bool} {after : Task}
    (step : FrontStep s.client client thread)
    (task : client.task = Function.update s.client.task thread after) (quiet : after.quiet = true)
    (busy : s.work thread = some sending) (here : s.client.task thread = .send (.result value))
    (closed : sending.after = []) (finished : sending.finished = [sending.call.frames]) :
    ThreadStep s (Session.finish { s with client := client } thread sending) thread := by
  refine
    { sender := ?_
      leaves := fun other apart => (leaves_client step task apart).trans (leaves_finish apart)
      sockets := rfl
      transportState := step.transportState
      bRun := step.bRun
      poll := step.poll }
  intro sent sender
  obtain ⟨own, pending⟩ := sender.own.client step
  obtain ⟨frames, made⟩ := sender.of_send busy here
  rw [closed] at frames
  rw [finished] at made
  refine sender_finish own ?_ ?_ ?_
  · simpa [task] using quiet
  · rw [pending, frames]
    rfl
  · rw [queued, pending]
    exact made

-- The return of SendDataAndCommand's first SendData, which its second follows.
theorem threadStep_command {client : ZmqClientBase} {message command : Bytes} {value : Bool}
    {after : Task} (step : FrontStep s.client client thread)
    (task : client.task = Function.update s.client.task thread after)
    (busy : s.work thread = some (.sendCommand message command))
    (here : s.client.task thread = .send (.result value))
    (taken : ({ s with client := client } : Session).sendData thread (.sendMessage message command) =
      some next) : ThreadStep s next thread := by
  have same := sendData_eq taken
  refine
    { sender := ?_
      leaves := fun other apart => (leaves_client step task apart).trans (leaves_sendData taken apart)
      sockets := by rw [same]
      transportState := by rw [same]; exact step.transportState
      bRun := by rw [same]; exact step.bRun
      poll := by rw [same]; exact step.poll }
  intro sent sender
  obtain ⟨own, pending⟩ := sender.own.client step
  obtain ⟨frames, made⟩ := sender.of_send busy here
  refine sender_sendData own ?_ ?_ taken
  · rw [pending, frames]
    rfl
  · rw [queued, pending]
    exact (List.append_nil _).symm.trans made

theorem threadStep_result {env : Env} {outcome : SendOutcome} {sending : Sending} {value : Bool}
    {sent : List (List Bytes)} (up : ¬s.client.transportState < .transporting)
    (ok : env.ok = true) (busy : s.work thread = some sending)
    (here : s.client.task thread = .send (.result value)) (sender : s.Sender thread sent)
    (taken : s.taskStep thread env outcome = some next) : ThreadStep s next thread := by
  obtain ⟨pc, same_pc, truth, size⟩ := sender.sends sending busy
  rw [here] at same_pc
  cases same_pc
  cases truth
  simp only [taskStep, busy, here, Option.bind_eq_some_iff] at taken
  obtain ⟨client, moved, taken⟩ := taken
  simp only [size rfl, decide_true, Bool.and_true] at taken
  have holds : s.client.SendHolds thread (.result true) := rfl
  have step := step_frontStep here holds moved
  cases step_sendMoves up ok here holds moved with
  | goes after task holds past inside => exact absurd rfl (inside true)
  | returns ends task =>
      cases sending with
      | sendData | sendMessage =>
          simp only [afterSend, Option.some.injEq] at taken
          rw [← taken]
          exact threadStep_finish step task rfl busy here rfl rfl
      | sendCommand message command =>
          simp only [afterSend, if_true] at taken
          exact threadStep_command step task busy here taken

theorem taskStep_threadStep {env : Env} {outcome : SendOutcome} {sent : List (List Bytes)}
    (up : ¬s.client.transportState < .transporting) (ok : env.ok = true)
    (succeeds : ∀ sending, s.work thread = some sending →
      zmqSend sending.buf.length outcome = sending.buf.length)
    (sender : s.Sender thread sent) (taken : s.taskStep thread env outcome = some next) :
    ThreadStep s next thread := by
  cases busy : s.work thread with
  | none => exact threadStep_quiet busy (sender.quiet busy) taken
  | some sending =>
      obtain ⟨pc, here, holds, -⟩ := sender.sends sending busy
      cases pc with
      | sending socket =>
          exact threadStep_sending up busy here sender (succeeds sending busy) taken
      | result value => exact threadStep_result up ok busy here sender taken
      | _ =>
          simp only [taskStep, busy, here, Option.map_eq_some_iff] at taken
          obtain ⟨client, moved, rfl⟩ := taken
          exact threadStep_plain up ok busy here holds (by simp) (by simp) moved

theorem made_short {frames : List Bytes} (member : frames ∈ s.made thread) :
    frames.length ≤ iovetSize := by
  unfold made at member
  rcases List.mem_append.mp member with returned | current
  · obtain ⟨call, -, rfl⟩ := List.mem_map.mp returned
    cases call <;> simp [SenderCall.frames, iovetSize]
  · cases busy : s.work thread with
    | none => simp [busy] at current
    | some sending =>
        cases past : s.past thread with
        | false => simp [busy, past] at current
        | true =>
            simp only [busy, past, if_true] at current
            exact sending.finished_short current

theorem leaves_recvPoll {client : ZmqClientBase} {env : Env}
    (moved : s.client.step (.recvPoll session env) = some client) (other : Tid) :
    Leaves s { s with client := client } other := by
  obtain ⟨polled, pc, -, stepped, rfl⟩ := step_recvPoll moved
  have frame := recvPollStep_frame stepped
  have map : (polled.setPoll session pc).frontsockets = s.client.frontsockets := frame.frontsockets
  constructor
  · rw [front, front, map]
  · exact congrFun frame.task other
  · intro pc' holds
    unfold SendHolds front at holds ⊢
    rw [map]
    exact holds
  · exact fun _ _ => rfl
  · rfl
  · rfl
  · rfl

theorem Sender.held {front : FrontSocket} {message : List Bytes} {waiting sent : List (List Bytes)}
    (sender : s.Sender front.owner sent) (queue : (s.pipe front).sent = message :: waiting) :
    s.client.front front.owner = some front := by
  by_contra absent
  rw [sender.own.elsewhere front rfl absent] at queue
  cases queue

theorem Sender.read {front : FrontSocket} {message : List Bytes} {waiting sent : List (List Bytes)}
    (sender : s.Sender front.owner sent) (queue : (s.pipe front).sent = message :: waiting)
    (sockets : Sockets Bytes) :
    ({ s with
      pipe := Function.update s.pipe front { frames := (s.pipe front).frames, sent := waiting }
      sockets := sockets } : Session).Sender front.owner (sent ++ [message]) := by
  have held := sender.held queue
  have frames := sender.frames
  have made := sender.made
  rw [pending_of_held held] at frames
  rw [queued, pending_of_held held, queue] at made
  have after : ({ s with
      pipe := Function.update s.pipe front { frames := (s.pipe front).frames, sent := waiting }
      sockets := sockets } : Session).pending front.owner =
      { frames := (s.pipe front).frames, sent := waiting } := by
    simp [Session.pending, held]
  refine ⟨⟨sender.own.owned, ?_⟩, sender.quiet, sender.sends, ?_, ?_⟩
  · intro socket owner apart
    have distinct : socket ≠ front := by
      rintro rfl
      exact apart held
    exact (Function.update_of_ne distinct _ _).trans (sender.own.elsewhere socket owner apart)
  · rw [after]
    exact frames
  · rw [queued, after]
    exact made.trans (List.append_assoc sent [message] waiting).symm

theorem leaves_read {front : FrontSocket} (outbox : Outbox Bytes) (sockets : Sockets Bytes)
    (apart : other ≠ front.owner) :
    Leaves s { s with
      pipe := Function.update s.pipe front outbox
      sockets := sockets } other where
  front := rfl
  task := rfl
  holds := fun _ holds => holds
  pipe := by
    intro socket owner
    have distinct : socket ≠ front := by
      rintro rfl
      exact apart owner.symm
    simp [distinct]
  work := rfl
  sendSize := rfl
  completed := rfl

structure Orderly (session : Nat) (s : Session) : Prop where
  up : s.client.Up session
  backsock : s.sockets.backsock = {}
  between : s.sockets.clisock.Between
  senders : ∃ sentBy : Tid → List (List Bytes), Interleaving sentBy s.sockets.clisock.outbox.sent ∧
    ∀ thread, s.Sender thread (sentBy thread)

theorem Orderly.threadStep (orderly : s.Orderly session) (moved : ThreadStep s next thread) :
    next.Orderly session := by
  obtain ⟨sentBy, merged, senders⟩ := orderly.senders
  refine ⟨orderly.up.same moved.transportState moved.bRun moved.poll, ?_, ?_, sentBy, ?_, ?_⟩
  · rw [moved.sockets]
    exact orderly.backsock
  · rw [moved.sockets]
    exact orderly.between
  · rw [moved.sockets]
    exact merged
  · intro other
    by_cases own : other = thread
    · rw [own]
      exact moved.sender _ (senders thread)
    · exact (senders other).leaves (moved.leaves other own)

theorem Orderly.forward {front : FrontSocket} {first : Bytes} {others : List Bytes}
    {waiting : List (List Bytes)} {answers : Nat → Answer} {arrived : Sockets Bytes}
    (orderly : s.Orderly session) (queue : (s.pipe front).sent = (first :: others) :: waiting)
    (accepted : ∀ i, answers i = {})
    (arrives : s.sockets.step (.arrive ⟨first, others⟩) = some arrived) :
    ({ s with
      pipe := Function.update s.pipe front { frames := (s.pipe front).frames, sent := waiting }
      sockets := arrived.backSocketRecv answers } : Session).Orderly session := by
  obtain ⟨sentBy, merged, senders⟩ := orderly.senders
  have member : first :: others ∈ s.made front.owner := by
    rw [(senders front.owner).made, queued, pending_of_held ((senders front.owner).held queue)]
    simp [queue]
  have clisock : arrived.clisock = s.sockets.clisock := by
    cases arrives
    rfl
  have alone : arrived.backsock = { waiting := [⟨first, others⟩] } := by
    cases arrives
    rw [orderly.backsock]
    rfl
  have between : arrived.clisock.Between := by
    rw [clisock]
    exact orderly.between
  rw [recv_alone between alone (made_short member) accepted, clisock]
  refine ⟨orderly.up, rfl, ⟨rfl, rfl, rfl⟩, _, merged.next front.owner (first :: others), ?_⟩
  intro thread
  by_cases own : thread = front.owner
  · subst own
    rw [Function.update_self]
    exact (senders front.owner).read queue _
  · rw [Function.update_of_ne own]
    exact (senders thread).leaves (leaves_read _ _ own)

theorem Orderly.recvPoll {env : Env} {front : Option FrontSocket} {answers : Nat → Answer}
    (orderly : s.Orderly session) (opened : env.event ≠ some .closed)
    (kept : env.event ≠ some .disconnected) (accepted : ∀ i, answers i = {})
    (taken : s.recvPoll session env front answers = some next) : next.Orderly session := by
  simp only [Session.recvPoll, Option.bind_eq_some_iff] at taken
  obtain ⟨client, moved, taken⟩ := taken
  obtain ⟨sentBy, merged, senders⟩ := orderly.senders
  have still : ({ s with client := client } : Session).Orderly session :=
    ⟨orderly.up.recvPoll opened kept moved, orderly.backsock, orderly.between, sentBy, merged,
      fun thread => (senders thread).leaves (leaves_recvPoll moved thread)⟩
  split at taken
  · simp only [Option.bind_eq_some_iff, Option.map_eq_some_iff] at taken
    obtain ⟨read, arrived, sockets, received, rfl⟩ := taken
    cases received
    cases front with
    | none =>
        cases arrived
        have unread : s.sockets.backSocketRecv answers = s.sockets := by
          rw [Sockets.backSocketRecv, orderly.backsock]
          rfl
        rw [unread]
        exact still
    | some front =>
        simp only [arrive] at arrived
        split_ifs at arrived
        split at arrived
        · next first others waiting queue =>
            simp only [Option.map_eq_some_iff] at arrived
            obtain ⟨sockets, arrives, rfl⟩ := arrived
            exact still.forward queue accepted arrives
        · cases arrived
  · cases taken
    exact still

theorem Orderly.step (orderly : s.Orderly session) (lasts : Lasts s action)
    (taken : s.step session action = some next) : next.Orderly session := by
  obtain ⟨sentBy, -, senders⟩ := orderly.senders
  cases action with
  | call thread call =>
      simp only [Session.step, Option.ite_none_right_eq_some] at taken
      exact orderly.threadStep (threadStep_call taken.1 taken.2)
  | task thread env outcome =>
      have succeeds (sending : Sending) (busy : s.work thread = some sending) :=
        lasts.sends thread env outcome sending rfl busy
      exact orderly.threadStep (taskStep_threadStep orderly.up.transportState
        (lasts.ok thread env outcome rfl) succeeds (senders thread) taken)
  | recvPoll env front answers =>
      obtain ⟨opened, kept⟩ := lasts.event env front answers rfl
      exact orderly.recvPoll opened kept (lasts.answers env front answers rfl) taken

theorem begun_orderly {client : ZmqClientBase} (starts : client.Opened session) :
    (begun client).Orderly session := by
  refine ⟨starts.up, rfl, ⟨rfl, rfl, rfl⟩, fun _ => [], Interleaving.empty, ?_⟩
  intro thread
  have pending : (begun client).pending thread = {} := by
    unfold Session.pending
    cases (begun client).client.front thread <;> rfl
  refine sender_of_quiet ⟨starts.owned thread, fun _ _ _ => rfl⟩ rfl (starts.quiet thread) ?_ ?_
  · rw [pending]
  · rw [queued, pending]
    rfl

theorem Orderly.interleaved (orderly : s.Orderly session) : s.Interleaved := by
  obtain ⟨sentBy, merged, senders⟩ := orderly.senders
  refine ⟨orderly.between.frames, ⟨sentBy, merged, fun thread => (senders thread).made⟩, ?_⟩
  intro socket absent
  rw [(senders socket.owner).own.elsewhere socket rfl absent]

/-- In every run of a session that lasts, of any threads and calls, the messages sent on the client
socket and those still queued are an interleaving of the messages of the threads' calls. -/
theorem messages_interleaved (session : Nat) (start : ZmqClientBase) (starts : start.Opened session)
    (actions : List Action) (reached : Session)
    (lasts : Transition.Along (step session) Lasts (begun start) actions)
    (run : Transition.run (step session) (begun start) actions = some reached) :
    reached.Interleaved :=
  (Transition.run_invariant (Orderly session)
    (fun _ _ _ orderly lasts taken => orderly.step lasts taken) (begun_orderly starts) lasts
    run).interleaved

def lastsCheck (s : Session) : Action → Bool
  | .call _ _ => true
  | .task thread env outcome =>
      env.ok && (s.work thread).all fun sending =>
        decide (zmqSend sending.buf.length outcome = sending.buf.length)
  | .recvPoll env _ _ => decide (env.event ≠ some .closed) && decide (env.event ≠ some .disconnected)

def Action.accepted : Action → Prop
  | .recvPoll _ _ answers => ∀ i, answers i = {}
  | _ => True

theorem lasts_of_check (checked : s.lastsCheck action = true) (accepted : action.accepted) :
    Lasts s action := by
  constructor
  · rintro thread env outcome rfl
    simp only [lastsCheck, Bool.and_eq_true] at checked
    exact checked.1
  · rintro thread env outcome sending rfl busy
    simp only [lastsCheck, busy, Option.all_some, Bool.and_eq_true, decide_eq_true_eq] at checked
    exact checked.2
  · rintro env front answers rfl
    simpa [lastsCheck] using checked
  · rintro env front answers rfl
    exact accepted

def senderSteps (thread : Tid) (count : Nat) : List Action :=
  List.replicate count (.task thread {} (.accepted .eagain))

def forwardSteps (front : FrontSocket) : List Action :=
  [.recvPoll { back := true } none fun _ => {}, .recvPoll {} (some front) fun _ => {},
    .recvPoll {} none fun _ => {}]

-- Thread 1 is between its two sends while thread 2 sends, and is overtaken.
def overtakenSteps : List Action :=
  [.call (.user 1) (.sendDataAndCommand [2] [1])] ++ senderSteps (.user 1) 19 ++
    [.call (.user 2) (.sendData [3])] ++ senderSteps (.user 2) 17 ++ senderSteps (.user 1) 6 ++
    forwardSteps ⟨.user 2, 1⟩ ++ forwardSteps ⟨.user 1, 0⟩ ++ senderSteps (.user 1) 2

theorem messages_interleaved_overtaken : ∃ start reached,
    Transition.run ZmqClientBase.step (constructed .other 0 false) connectedSteps = some start ∧
    Transition.run (step 0) (begun start) overtakenSteps = some reached ∧
    reached.Interleaved ∧ reached.sockets.clisock.outbox.sent = [[[3]], [[1], [2]]] ∧
    reached.completed (.user 1) = [.sendDataAndCommand [2] [1]] := by
  have accepted : (Transition.run ZmqClientBase.step (constructed .other 0 false)
      connectedSteps).any (fun start =>
        decide (start.transportState = .transporting ∧ start.bRun = true ∧
          start.poll 0 = .poll ∧ start.frontsockets = [] ∧ start.task (.user 0) = .idle) &&
        Transition.accepts (step 0) lastsCheck (begun start) overtakenSteps &&
        (Transition.run (step 0) (begun start) overtakenSteps).any fun reached =>
          decide (reached.sockets.clisock.outbox.sent = [[[3]], [[1], [2]]] ∧
            reached.completed (.user 1) = [.sendDataAndCommand [2] [1]])) = true := by
    decide +kernel
  obtain ⟨start, connected, accepted⟩ := Transition.reached_of_check accepted
  simp only [Bool.and_eq_true, decide_eq_true_eq, Option.any_eq_true] at accepted
  obtain ⟨⟨⟨state, run, looping, fronts, free⟩, checked⟩, reached, sending, sent, returned⟩ :=
    accepted
  have only := (constructed_only [.user 0] .other 0 false).run (by decide) connected
  have starts : start.Opened 0 := by
    refine ⟨⟨by rw [state]; decide, run, by rw [looping]; rfl⟩, ?_, ?_⟩
    · intro thread
      by_cases own : thread = .user 0
      · rw [own, free]
        rfl
      · rw [only thread (by simpa using own)]
        rfl
    · intro thread socket held
      rw [front, fronts] at held
      cases held
  have clear : ∀ action ∈ overtakenSteps, action.accepted := by
    simp [overtakenSteps, senderSteps, forwardSteps, Action.accepted]
  have lasts : Transition.Along (step 0) Lasts (begun start) overtakenSteps :=
    Transition.along_mono (fun _ _ both => lasts_of_check both.1 both.2)
      (Transition.along_and
        (Transition.along_of_accepts (fun _ => True) lastsCheck (fun _ _ _ _ _ _ => trivial)
          (fun _ _ _ checked => checked) trivial checked)
        (Transition.along_of_forall clear _))
  exact ⟨start, reached, connected, sending,
    messages_interleaved 0 start starts overtakenSteps reached lasts sending, sent, returned⟩

end Session

end ZmqClientDealer

end Zmqcpp
