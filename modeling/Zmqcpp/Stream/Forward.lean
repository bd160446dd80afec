import Zmqcpp.Client.State
import Zmqcpp.Shared.Multipart
import Zmqcpp.Shared.Transition
import Zmqcpp.Socket.StreamSocket

set_option autoImplicit false

namespace Zmqcpp

open Multipart ZmqClientBase

namespace ZmqClientStream

structure Sockets where
  backsock : Inbox Bytes := {}
  clisock : StreamSocket
  deriving DecidableEq, Repr

inductive Action
  | arrive (message : Message Bytes)
  | attach
  | detach (peer : Bytes)
  | backSocketRecv (room : Bool)
  deriving DecidableEq, Repr

namespace Sockets

-- The client socket once SetClientSocket has set its identity; no peer is attached yet.
def connecting (identity : Bytes) (nextPeerId : UInt32) : Sockets where
  clisock := { identity, nextPeerId }

-- ZMQ_IDENTITY is at most 255 bytes long, so that reading it into 256 bytes succeeds.
def backSocketRecv (s : Sockets) (room : Bool) : Sockets :=
  match s.backsock.read iovetSize with
  | none => s
  | some (vec, backsock) =>
      { backsock
        clisock := ((s.clisock.xsend s.clisock.identity true room).1.sendiov room vec).1 }

def step (s : Sockets) : Action → Option Sockets
  | .arrive message => some { s with backsock := s.backsock.arrive message }
  | .attach =>
      if 0 :: putUint32 s.clisock.nextPeerId ∈ s.clisock.outpipes then none
      else some { s with clisock := s.clisock.identifyPeer }
  | .detach peer => some { s with clisock := s.clisock.xpipeTerminated peer }
  | .backSocketRecv room => some (s.backSocketRecv room)

def Attached (s : Sockets) : Prop := s.clisock.identity ∈ s.clisock.outpipes

instance (s : Sockets) : Decidable s.Attached := inferInstanceAs (Decidable (_ ∈ _))

def frames (s : Sockets) : List Bytes := s.backsock.current.take iovetSize

-- What a step ought to write: every frame it takes up while the peer is attached.
def owed (s : Sockets) : Action → List (Bytes × Bytes)
  | .backSocketRecv _ =>
      if s.Attached then s.frames.map fun frame => (s.clisock.identity, frame) else []
  | _ => []

/-- The STREAM socket waits for an identity before and after the step, and the frames taken up
with a peer attached are written to it. -/
def KeepsAlignment (s : Sockets) (action : Action) : Prop :=
  s.clisock.moreOut = false ∧ ∀ next, s.step action = some next →
    next.clisock.moreOut = false ∧
      next.clisock.written = s.clisock.written ++ s.owed action

/-- With a peer attached a call takes up one frame that is not empty, and without one an even
number. -/
def InStep (s : Sockets) : Action → Prop
  | .backSocketRecv room =>
      if s.Attached then
        s.frames = [] ∨ s.clisock.checkWrite room s.clisock.identity = true ∧
          ∃ frame, frame ≠ [] ∧ s.frames = [frame]
      else s.frames.length % 2 = 0
  | _ => True

variable {s next : Sockets} {action : Action}

structure Waiting (s : Sockets) : Prop where
  moreOut : s.clisock.moreOut = false
  currentOut : s.clisock.currentOut = none

theorem frames_of_read {vec : List Bytes} {after : Inbox Bytes}
    (taken : s.backsock.read iovetSize = some (vec, after)) : s.frames = vec :=
  (Inbox.read_chunk taken).symm

theorem frames_of_empty (empty : s.backsock.read iovetSize = none) : s.frames = [] := by
  rw [frames, Inbox.read_none empty]
  rfl

theorem recv_refused {room : Bool} (waiting : s.Waiting)
    (refused : s.Attached → s.clisock.checkWrite room s.clisock.identity = false) :
    (s.backSocketRecv room).clisock =
      { s.clisock with moreOut := decide (s.frames.length % 2 = 1) } := by
  cases read : s.backsock.read iovetSize with
  | none =>
      rw [backSocketRecv, read, frames_of_empty read]
      simp [← waiting.moreOut]
  | some taken =>
      obtain ⟨vec, after⟩ := taken
      have still := s.clisock.xsend_refused s.clisock.identity room waiting.moreOut
        waiting.currentOut refused
      rw [backSocketRecv, read, frames_of_read read]
      dsimp only
      rw [still, StreamSocket.sendiov_unaddressed _ _ _ waiting.currentOut, waiting.moreOut,
        Bool.false_xor]

theorem recv_accepted {room : Bool} {frame : Bytes} {rest : List Bytes} (waiting : s.Waiting)
    (attached : s.Attached) (writable : s.clisock.checkWrite room s.clisock.identity = true)
    (frames : s.frames = frame :: rest) :
    (s.backSocketRecv room).clisock.moreOut = decide (rest.length % 2 = 1) ∧
    (s.backSocketRecv room).clisock.currentOut = none ∧
    (s.backSocketRecv room).clisock.written =
      s.clisock.written ++ if frame = [] then [] else [(s.clisock.identity, frame)] := by
  cases read : s.backsock.read iovetSize with
  | none => simp [frames_of_empty read] at frames
  | some taken =>
      obtain ⟨vec, after⟩ := taken
      rw [frames_of_read read] at frames
      subst frames
      have addressed := s.clisock.xsend_identity s.clisock.identity room waiting.moreOut attached
        writable
      rw [backSocketRecv, read]
      dsimp only
      rw [addressed, StreamSocket.sendiov]
      by_cases empty : frame = []
      · simp [StreamSocket.xsend, empty, StreamSocket.sendiov_unaddressed]
      · simp [StreamSocket.xsend, empty, StreamSocket.sendiov_unaddressed]

theorem keepsAlignment_recv (waiting : s.Waiting) (room : Bool) :
    s.KeepsAlignment (.backSocketRecv room) ↔ s.InStep (.backSocketRecv room) := by
  simp only [KeepsAlignment, InStep, Sockets.step, Option.some.injEq, forall_eq', owed,
    waiting.moreOut, true_and]
  by_cases attached : s.Attached
  · rw [if_pos attached, if_pos attached]
    cases writable : s.clisock.checkWrite room s.clisock.identity with
    | false =>
        rw [recv_refused waiting (fun _ => writable)]
        cases frames : s.frames <;> simp
    | true =>
        cases frames : s.frames with
        | nil =>
            have still : (s.backSocketRecv room).clisock = s.clisock := by
              cases read : s.backsock.read iovetSize with
              | none => rw [backSocketRecv, read]
              | some taken =>
                  have nonempty := Inbox.read_ne_nil (by decide) read
                  rw [frames_of_read read] at frames
                  exact absurd frames nonempty
            simp [still, waiting.moreOut]
        | cons frame rest =>
            obtain ⟨position, -, written⟩ := recv_accepted waiting attached writable frames
            rw [position, written, List.append_cancel_left_eq]
            cases rest with
            | nil => by_cases empty : frame = [] <;> simp [empty]
            | cons second others => by_cases empty : frame = [] <;> simp [empty]
  · rw [if_neg attached, if_neg attached, recv_refused waiting (fun also => absurd also attached)]
    simp

theorem keepsAlignment_iff (waiting : s.Waiting) (action : Action) :
    s.KeepsAlignment action ↔ s.InStep action := by
  cases action with
  | backSocketRecv room => exact keepsAlignment_recv waiting room
  | attach =>
      refine ⟨fun _ => trivial, fun _ => ⟨waiting.moreOut, fun next taken => ?_⟩⟩
      simp only [Sockets.step, Option.ite_none_left_eq_some] at taken
      obtain ⟨-, taken⟩ := taken
      cases taken
      exact ⟨waiting.moreOut, (List.append_nil _).symm⟩
  | arrive | detach =>
      refine ⟨fun _ => trivial, fun _ => ⟨waiting.moreOut, fun next taken => ?_⟩⟩
      cases taken
      exact ⟨waiting.moreOut, (List.append_nil _).symm⟩

theorem Waiting.step (waiting : s.Waiting) (keeps : s.KeepsAlignment action)
    (taken : s.step action = some next) : next.Waiting := by
  refine ⟨(keeps.2 next taken).1, ?_⟩
  cases action with
  | arrive message =>
      cases taken
      exact waiting.currentOut
  | attach =>
      simp only [Sockets.step, Option.ite_none_left_eq_some] at taken
      obtain ⟨-, taken⟩ := taken
      cases taken
      exact waiting.currentOut
  | detach peer =>
      cases taken
      simp [StreamSocket.xpipeTerminated, waiting.currentOut]
  | backSocketRecv room =>
      cases taken
      by_cases accepted : s.Attached ∧ s.clisock.checkWrite room s.clisock.identity = true
      · cases frames : s.frames with
        | nil =>
            cases read : s.backsock.read iovetSize with
            | none =>
                rw [backSocketRecv, read]
                exact waiting.currentOut
            | some taken =>
                rw [frames_of_read read] at frames
                exact absurd frames (Inbox.read_ne_nil (by decide) read)
        | cons frame rest => exact (recv_accepted waiting accepted.1 accepted.2 frames).2.1
      · rw [recv_refused waiting (fun attached => by simpa [attached] using accepted)]
        exact waiting.currentOut

/-- Every call finds and leaves the client socket waiting for an identity, and writes what it
takes up with a peer attached, if and only if every call is in step. -/
theorem keeps_alignment (identity : Bytes) (nextPeerId : UInt32) (actions : List Action) :
    Transition.Along Sockets.step KeepsAlignment (connecting identity nextPeerId) actions ↔
      Transition.Along Sockets.step InStep (connecting identity nextPeerId) actions :=
  Transition.along_iff Waiting (fun _ _ _ waiting keeps taken => waiting.step keeps taken)
    (fun _ action waiting => keepsAlignment_iff waiting action) ⟨rfl, rfl⟩

example :
    (Transition.run Sockets.step (connecting [1] 0)
      [.attach, .arrive ⟨[10], []⟩, .backSocketRecv true, .arrive ⟨[20], []⟩,
        .backSocketRecv true]).map (fun reached => reached.clisock.written) =
      some [([0, 0, 0, 0, 0], [10]), ([0, 0, 0, 0, 0], [20])] := by
  decide

-- A message taken up before the peer is attached loses the first one after it.
theorem message_lost : ∃ reached,
    Transition.run Sockets.step (connecting [1] 0)
      [.arrive ⟨[10], []⟩, .backSocketRecv true, .attach, .arrive ⟨[20], []⟩,
        .backSocketRecv true] = some reached ∧
    reached.Attached ∧ reached.clisock.written = [] ∧
    ¬Transition.Along Sockets.step KeepsAlignment (connecting [1] 0)
      [.arrive ⟨[10], []⟩, .backSocketRecv true, .attach, .arrive ⟨[20], []⟩,
        .backSocketRecv true] := by
  refine ⟨_, rfl, by decide, by decide, fun along => ?_⟩
  have lost := ((along.2 _ rfl).2 _ rfl).1
  exact absurd lost.1 (by decide)

end Sockets

end ZmqClientStream

end Zmqcpp
