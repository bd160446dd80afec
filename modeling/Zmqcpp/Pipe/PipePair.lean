import Zmqcpp.Pipe.Ypipe

set_option autoImplicit false

/-!
# A pair of pipes

The two ends of a connection. Each belongs to a thread of its own; they share two lock-free pipes
and send commands to each other.
-/

namespace Zmqcpp

/-- What passes through a lock-free pipe: a frame with its flags, or the mark at the end. -/
inductive PipeItem (Frame : Type)
  | frame (body : Frame) (more identity : Bool)
  | delimiter
  deriving DecidableEq, Repr

namespace PipeItem

variable {Frame : Type}

def more : PipeItem Frame → Bool
  | .frame _ more _ => more
  | .delimiter => false

-- A message is counted with its last frame; one that carries an identity is not.
def counted : PipeItem Frame → Bool
  | .frame _ more identity => !more && !identity
  | .delimiter => false

end PipeItem

inductive PipeState
  | active
  | delimiterReceived
  | waitingForDelimiter
  | termAckSent
  | termReqSent1
  | termReqSent2
  deriving DecidableEq, Repr

inductive PipeCommand
  | activateRead
  | activateWrite (msgsRead : Nat)
  | hiccup (pipe : Nat)
  | pipeTerm
  | pipeTermAck
  deriving DecidableEq, Repr

inductive SinkEvent
  | readActivated
  | writeActivated
  | hiccuped
  | pipeTerminated
  deriving DecidableEq, Repr

/-- What a call that the other end can see in part has still to do: to write the delimiter and flush
it, or to send the command that wakes the reader. -/
inductive PipeTodo
  | nothing
  | delimiter
  | activateRead
  deriving DecidableEq, Repr

/-- pipe_t. The counters count without end; where the source compares them they are reduced to 64
bits. -/
structure Pipe where
  state : PipeState := .active
  inpipe : Nat
  outpipe : Option Nat
  inActive : Bool := true
  outActive : Bool := true
  hwm : Nat
  lwm : Nat
  msgsRead : Nat := 0
  msgsWritten : Int := 0
  peersMsgsRead : Nat := 0
  delay : Bool := true
  todo : PipeTodo := .nothing
  sink : List SinkEvent := []
  alive : Bool := true
  deriving DecidableEq, Repr

namespace Pipe

def maxWmDelta : Nat := 1024

def computeLwm (hwm : Nat) : Nat := if hwm > maxWmDelta * 2 then hwm - maxWmDelta else (hwm + 1) / 2

-- The states in which an end reads.
def reads (p : Pipe) : Bool := p.inActive && (p.state = .active || p.state = .waitingForDelimiter)

def full (p : Pipe) : Bool := 0 < p.hwm && (p.msgsWritten - p.peersMsgsRead) % UInt64.size = p.hwm

end Pipe

/-- Two ends as seen from one of them: `sent` are its commands that the other has yet to process,
`inbox` the other's. A deleted lock-free pipe is gone from the heap. -/
structure PipePair (Frame : Type) where
  this : Pipe
  peer : Pipe
  sent : List PipeCommand := []
  inbox : List PipeCommand := []
  heap : Nat → Option (Upipe (PipeItem Frame))
  allocated : Nat
  -- An assertion has failed, or deleted memory was used.
  aborted : Bool := false

namespace PipePair

variable {Frame : Type}

-- pipepair
def initial (hwms : Nat × Nat) : PipePair Frame where
  this := { inpipe := 0, outpipe := some 1, hwm := hwms.1, lwm := Pipe.computeLwm hwms.2 }
  peer := { inpipe := 1, outpipe := some 0, hwm := hwms.2, lwm := Pipe.computeLwm hwms.1 }
  heap := fun pipe => if pipe < 2 then some {} else none
  allocated := 2

def swap (s : PipePair Frame) : PipePair Frame :=
  { s with this := s.peer, peer := s.this, sent := s.inbox, inbox := s.sent }

def abort (s : PipePair Frame) : PipePair Frame := { s with aborted := true }

-- To send a command the address of the peer's mailbox is read from the peer.
def send (s : PipePair Frame) (command : PipeCommand) : PipePair Frame :=
  { s with sent := s.sent ++ [command], aborted := s.aborted || !s.peer.alive }

def store (s : PipePair Frame) (pipe : Nat) (content : Upipe (PipeItem Frame)) : PipePair Frame :=
  { s with heap := Function.update s.heap pipe (some content) }

-- A call on a lock-free pipe.
def onPipe (s : PipePair Frame) (pipe : Option Nat)
    (call : Upipe (PipeItem Frame) → Upipe (PipeItem Frame)) : PipePair Frame :=
  match pipe with
  | none => s.abort
  | some pipe =>
      match s.heap pipe with
      | none => s.abort
      | some content => s.store pipe (call content)

def delete (s : PipePair Frame) (pipe : Nat) : PipePair Frame :=
  match s.heap pipe with
  | none => s.abort
  | some _ => { s with heap := Function.update s.heap pipe none }

-- The outgoing pipe is given up with the answer to the peer's request.
def sendAck (s : PipePair Frame) (state : PipeState) : PipePair Frame :=
  { s with this := { s.this with outpipe := none, state := state } }.send .pipeTermAck

def sendTerm (s : PipePair Frame) : PipePair Frame :=
  { s with this := { s.this with state := .termReqSent1 } }.send .pipeTerm

def checkWrite (s : PipePair Frame) : PipePair Frame × Bool :=
  if !s.this.outActive || s.this.state ≠ .active then (s, false)
  else if s.this.full then ({ s with this := { s.this with outActive := false } }, false)
  else (s, true)

def write (s : PipePair Frame) (body : Frame) (more identity : Bool) : PipePair Frame :=
  if s.checkWrite.2 then
    let written := s.onPipe s.this.outpipe fun pipe => pipe.write (.frame body more identity) more
    if !more && !identity then
      { written with this := { s.this with msgsWritten := s.this.msgsWritten + 1 } }
    else written
  else s.checkWrite.1

-- The loop takes back what is not complete, and asserts that every item is to be continued.
def rollback (s : PipePair Frame) : PipePair Frame :=
  match s.this.outpipe with
  | none => s
  | some pipe =>
      match s.heap pipe with
      | none => s.abort
      | some content =>
          if content.incomplete.all PipeItem.more then
            s.store pipe { content with incomplete := [] }
          else s.abort

def flush (s : PipePair Frame) : PipePair Frame :=
  if s.this.state = .termAckSent then s
  else
    match s.this.outpipe with
    | none => s
    | some pipe =>
        match s.heap pipe with
        | none => s.abort
        | some content =>
            let flushed := s.store pipe content.flush.1
            if content.flush.2 then flushed
            else { flushed with this := { s.this with todo := .activateRead } }

def processDelimiter (s : PipePair Frame) : PipePair Frame :=
  if s.this.state = .active then { s with this := { s.this with state := .delimiterReceived } }
  else s.sendAck .termAckSent

-- A frame has been read.
def count (s : PipePair Frame) (item : PipeItem Frame) : PipePair Frame :=
  let msgsRead := if item.counted then s.this.msgsRead + 1 else s.this.msgsRead
  let counted := { s with this := { s.this with msgsRead } }
  if 0 < s.this.lwm && msgsRead % UInt64.size % s.this.lwm = 0 then
    counted.send (.activateWrite msgsRead)
  else counted

def sleep (s : PipePair Frame) : PipePair Frame :=
  { s with this := { s.this with inActive := false } }

def read (s : PipePair Frame) : PipePair Frame :=
  if s.this.reads then
    match s.heap s.this.inpipe with
    | none => s.abort
    | some content =>
        let taken := s.store s.this.inpipe content.read.1
        match content.read.2 with
        | none => taken.sleep
        | some .delimiter => taken.processDelimiter
        | some item => taken.count item
  else s

def checkRead (s : PipePair Frame) : PipePair Frame :=
  if s.this.reads then
    match s.heap s.this.inpipe with
    | none => s.abort
    | some content =>
        match content.flushed with
        | [] => (s.store s.this.inpipe content.checkRead.1).sleep
        | .delimiter :: _ => (s.store s.this.inpipe content.read.1).processDelimiter
        | _ :: _ => s
  else s

/-- terminate up to its delimiter, which is written when there is an outgoing pipe left. -/
def terminate (s : PipePair Frame) (delay : Bool) : PipePair Frame :=
  let asked := { s with this := { s.this with delay } }
  let stop (s : PipePair Frame) : PipePair Frame :=
    { s with
      this := { s.this with
        outActive := false
        todo := if s.this.outpipe = none then .nothing else .delimiter } }
  match s.this.state with
  | .termReqSent1 | .termReqSent2 | .termAckSent => asked
  | .active | .delimiterReceived => stop asked.sendTerm
  | .waitingForDelimiter => stop (if delay then asked else asked.sendAck .termAckSent)

def writeDelimiter (s : PipePair Frame) : PipePair Frame :=
  (s.rollback.onPipe s.this.outpipe fun pipe => pipe.write .delimiter false).flush

def hiccup (s : PipePair Frame) : PipePair Frame :=
  if s.this.state = .active then
    { s.store s.allocated {} with
      allocated := s.allocated + 1
      this := { s.this with inpipe := s.allocated, inActive := true } }.send (.hiccup s.allocated)
  else s

def processHiccup (s : PipePair Frame) (pipe : Nat) : PipePair Frame :=
  match s.this.outpipe with
  | none => s.abort
  | some former =>
      match s.heap former with
      | none => s.abort
      | some content =>
          let dropped := content.flush.1.flushed.filter fun item => !item.more
          let sink := if s.this.state = .active then s.this.sink ++ [.hiccuped] else s.this.sink
          { s.delete former with
            this := { s.this with
              outpipe := some pipe
              outActive := true
              msgsWritten := s.this.msgsWritten - dropped.length
              sink } }

def processPipeTerm (s : PipePair Frame) : PipePair Frame :=
  match s.this.state with
  | .active =>
      if s.this.delay then { s with this := { s.this with state := .waitingForDelimiter } }
      else s.sendAck .termAckSent
  | .delimiterReceived => s.sendAck .termAckSent
  | .termReqSent1 => s.sendAck .termReqSent2
  | _ => s.abort

def processPipeTermAck (s : PipePair Frame) : PipePair Frame :=
  let told := { s with this := { s.this with sink := s.this.sink ++ [SinkEvent.pipeTerminated] } }
  let acked :=
    match s.this.state with
    | .termReqSent1 => told.sendAck .termReqSent1
    | .termAckSent | .termReqSent2 => told
    | _ => told.abort
  let freed := acked.delete s.this.inpipe
  { freed with this := { acked.this with alive := false } }

def processCommand (s : PipePair Frame) : PipeCommand → PipePair Frame
  | .activateRead =>
      if !s.this.inActive && (s.this.state = .active || s.this.state = .waitingForDelimiter) then
        { s with this := { s.this with inActive := true, sink := s.this.sink ++ [.readActivated] } }
      else s
  | .activateWrite msgsRead =>
      let told := { s with this := { s.this with peersMsgsRead := msgsRead } }
      if !s.this.outActive && s.this.state = .active then
        { told with
          this := { told.this with
            outActive := true
            sink := s.this.sink ++ [.writeActivated] } }
      else told
  | .hiccup pipe => s.processHiccup pipe
  | .pipeTerm => s.processPipeTerm
  | .pipeTermAck => s.processPipeTermAck

/-- What the thread of an end does next: a call of the end's owner, the next command of its mailbox,
or the rest of the call that it is in. -/
inductive Action (Frame : Type)
  | checkRead
  | read
  | checkWrite
  | write (body : Frame) (more identity : Bool)
  | rollback
  | flush
  | terminate (delay : Bool)
  | hiccup
  | setNodelay
  | process
  | go
  deriving DecidableEq, Repr

def call (s : PipePair Frame) : Action Frame → Option (PipePair Frame)
  | .checkRead => some s.checkRead
  | .read => some s.read
  | .checkWrite => some s.checkWrite.1
  | .write body more identity => some (s.write body more identity)
  | .rollback => some s.rollback
  | .flush => some s.flush
  | .terminate delay => some (s.terminate delay)
  | .hiccup => some s.hiccup
  | .setNodelay => some { s with this := { s.this with delay := false } }
  | .process | .go => none

def go (s : PipePair Frame) : Option (PipePair Frame) :=
  match s.this.todo with
  | .nothing => none
  | .delimiter => some { s with this := { s.this with todo := .nothing } }.writeDelimiter
  | .activateRead => some ({ s with this := { s.this with todo := .nothing } }.send .activateRead)

-- A step of `this` end.
def act (s : PipePair Frame) : Action Frame → Option (PipePair Frame)
  | .go => s.go
  | .process =>
      match s.inbox with
      | [] => none
      | command :: rest =>
          if s.this.todo ≠ .nothing then none
          -- The command is handed to an object that no longer exists.
          else if !s.this.alive then some s.abort
          else some ({ s with inbox := rest }.processCommand command)
  | action => if s.this.alive && s.this.todo = .nothing then s.call action else none

inductive Side
  | this
  | peer
  deriving DecidableEq, Repr

def step (s : PipePair Frame) : Side × Action Frame → Option (PipePair Frame)
  | (.this, action) => s.act action
  | (.peer, action) => (s.swap.act action).map swap

end PipePair

end Zmqcpp
