import Zmqcpp.Client.State
import Zmqcpp.Shared.Multipart
import Zmqcpp.Shared.Transition

set_option autoImplicit false

namespace Zmqcpp

open Multipart

namespace ZmqClientBase

variable {Frame : Type}

structure Inbound (Frame : Type) where
  arrived : List (Message Frame) := []
  clisock : Inbox Frame := {}
  delivered : List (List Frame) := []
  deriving DecidableEq, Repr

-- A read that fails has taken the number of frames in `failure`.
inductive InboundAction (Frame : Type)
  | arrive (message : Message Frame)
  | clientSocketRecv (failure : Option Nat)
  deriving DecidableEq, Repr

/-- Recviov; an empty socket times out. -/
def recviov (clisock : Inbox Frame) : Option Nat → Option (List Frame) × Inbox Frame
  | none =>
      match clisock.read iovetSize with
      | none => (none, clisock)
      | some (vec, after) => (some vec, after)
  | some 0 => (none, clisock)
  | some (count + 1) =>
      match clisock.read (min (count + 1) iovetSize) with
      | none => (none, clisock)
      | some (_, after) => (none, after)

namespace Inbound

def clientSocketRecv (s : Inbound Frame) (failure : Option Nat) : Inbound Frame :=
  { s with
    clisock := (recviov s.clisock failure).2
    delivered := s.delivered ++ (recviov s.clisock failure).1.toList }

def step (s : Inbound Frame) : InboundAction Frame → Option (Inbound Frame)
  | .arrive message =>
      some { s with arrived := s.arrived ++ [message], clisock := s.clisock.arrive message }
  | .clientSocketRecv failure => some (s.clientSocketRecv failure)

end Inbound

def DeliversWhole (s : Inbound Frame) (action : InboundAction Frame) : Prop :=
  ∀ next, s.step action = some next →
    next.delivered = s.delivered ∨
      s.clisock.rest = [] ∧ ∃ message, s.clisock.waiting.head? = some message ∧
        next.delivered = s.delivered ++ [message.frames]

/-- A read that succeeds begins with a message, and the message fits the vector. -/
def ReadsWhole (s : Inbound Frame) : InboundAction Frame → Prop
  | .arrive _ | .clientSocketRecv (some _) => True
  | .clientSocketRecv none => s.clisock.rest = [] ∧ s.clisock.current.length ≤ iovetSize

variable {s next : Inbound Frame} {action : InboundAction Frame}

theorem recviov_failing (clisock : Inbox Frame) (taken : Nat) :
    (recviov clisock (some taken)).1 = none ∧
      ((recviov clisock (some taken)).2 = clisock ∨
        ∃ limit chunk, clisock.read limit = some (chunk, (recviov clisock (some taken)).2)) := by
  cases taken with
  | zero => exact ⟨rfl, .inl rfl⟩
  | succ count =>
      cases read : clisock.read (min (count + 1) iovetSize) with
      | none => simp [recviov, read]
      | some result =>
          simp only [recviov, read]
          exact ⟨trivial, .inr ⟨_, _, read⟩⟩

theorem recv_empty (empty : s.clisock.read iovetSize = none) : s.clientSocketRecv none = s := by
  simp [Inbound.clientSocketRecv, recviov, empty]

theorem recv_read {vec : List Frame} {after : Inbox Frame}
    (read : s.clisock.read iovetSize = some (vec, after)) :
    s.clientSocketRecv none =
      { s with clisock := after, delivered := s.delivered ++ [vec] } := by
  simp [Inbound.clientSocketRecv, recviov, read]

theorem deliversWhole_iff (s : Inbound Frame) (action : InboundAction Frame) :
    DeliversWhole s action ↔ ReadsWhole s action := by
  cases action with
  | arrive message => simp [DeliversWhole, ReadsWhole, Inbound.step]
  | clientSocketRecv failure =>
      cases failure with
      | some taken =>
          simp [DeliversWhole, ReadsWhole, Inbound.step, Inbound.clientSocketRecv,
            (recviov_failing s.clisock taken).1]
      | none =>
          cases read : s.clisock.read iovetSize with
          | none =>
              have empty := Inbox.read_none read
              simp [DeliversWhole, ReadsWhole, Inbound.step, recv_empty read, empty, Inbox.current]
          | some result =>
              obtain ⟨vec, after⟩ := result
              have chunk := Inbox.read_chunk read
              have grown : s.delivered ++ [vec] ≠ s.delivered := by simp
              simp only [DeliversWhole, ReadsWhole, Inbound.step, recv_read read, grown, false_or,
                Option.some.injEq, forall_eq', List.append_cancel_left_eq, List.cons.injEq, and_true]
              constructor
              · rintro ⟨none_begun, message, head, same⟩
                refine ⟨none_begun, ?_⟩
                have current := Inbox.current_of_head none_begun head
                rw [same, current] at chunk
                rw [current]
                exact (List.take_eq_self_iff _).mp chunk.symm
              · rintro ⟨none_begun, fits⟩
                rcases Inbox.read_cases read with ⟨-, message, waiting, -⟩ | ⟨begun, -⟩
                · have head : s.clisock.waiting.head? = some message := by rw [waiting]; rfl
                  refine ⟨none_begun, message, head, ?_⟩
                  rw [chunk, List.take_of_length_le fits, Inbox.current_of_head none_begun head]
                · exact absurd none_begun begun

-- What has been delivered is some of what has been read, as long as each call delivers whole.
theorem gives_step (gives : s.clisock.Gives s.arrived s.delivered) (whole : DeliversWhole s action)
    (taken : s.step action = some next) : next.clisock.Gives next.arrived next.delivered := by
  have delivered := whole next taken
  cases action with
  | arrive message =>
      cases taken
      exact gives.arrive message
  | clientSocketRecv failure =>
      cases taken
      cases failure with
      | some count =>
          obtain ⟨nothing, same | ⟨limit, chunk, read⟩⟩ := recviov_failing s.clisock count
          · simpa [Inbound.clientSocketRecv, nothing, same] using gives
          · simpa [Inbound.clientSocketRecv, nothing] using gives.keep read
      | none =>
          cases read : s.clisock.read iovetSize with
          | none =>
              rw [recv_empty read]
              exact gives
          | some result =>
              obtain ⟨vec, after⟩ := result
              rw [recv_read read] at delivered ⊢
              exact gives.keep_or_give read delivered

/-- Every call delivers whole if and only if every read that succeeds is of a whole message, and
then the messages delivered are some of those that came in, in their order. -/
theorem delivered_whole (actions : List (InboundAction Frame)) (reached : Inbound Frame)
    (run : Transition.run Inbound.step {} actions = some reached) :
    (Transition.Along Inbound.step DeliversWhole {} actions ↔
      Transition.Along Inbound.step ReadsWhole {} actions) ∧
    (Transition.Along Inbound.step ReadsWhole {} actions →
      reached.delivered.Sublist (reached.arrived.map Message.frames)) := by
  have same : Transition.Along Inbound.step DeliversWhole ({} : Inbound Frame) actions ↔
      Transition.Along Inbound.step ReadsWhole {} actions :=
    Transition.along_iff (fun _ => True) (fun _ _ _ _ _ _ => trivial)
      (fun state action _ => deliversWhole_iff state action) trivial
  refine ⟨same, fun reads => ?_⟩
  have initial : ({} : Inbound Frame).clisock.Gives [] [] := ⟨[], rfl, List.Sublist.refl _⟩
  have gives := Transition.run_invariant (fun state => state.clisock.Gives state.arrived state.delivered)
    (fun _ _ _ gives whole taken => gives_step gives whole taken) initial (same.mpr reads) run
  exact gives.sublist

-- A read that fails before it has taken a frame, and then succeeds.
theorem delivered_whole_retried : ∃ reached,
    Transition.run Inbound.step ({} : Inbound Nat)
      [.arrive ⟨0, [1]⟩, .clientSocketRecv (some 0), .clientSocketRecv none] = some reached ∧
    reached.delivered = [[0, 1]] ∧
    reached.delivered.Sublist (reached.arrived.map Message.frames) := by
  have reads : Transition.Along Inbound.step ReadsWhole ({} : Inbound Nat)
      [.arrive ⟨0, [1]⟩, .clientSocketRecv (some 0), .clientSocketRecv none] := by
    refine ⟨trivial, fun _ arrived => ⟨trivial, fun _ failed => ⟨?_, fun _ _ => trivial⟩⟩⟩
    cases arrived
    cases failed
    exact ⟨rfl, by decide⟩
  exact ⟨_, rfl, rfl, (delivered_whole _ _ rfl).2 reads⟩

-- A message of nine frames is delivered as two, and a read that fails behind the first of two
-- frames leaves the second to be delivered as a message.
theorem delivered_in_pieces :
    (∃ reached, Transition.run Inbound.step ({} : Inbound Nat)
      [.arrive ⟨0, [1, 2, 3, 4, 5, 6, 7, 8]⟩, .clientSocketRecv none, .clientSocketRecv none] =
        some reached ∧
      reached.delivered = [[0, 1, 2, 3, 4, 5, 6, 7], [8]] ∧
      ¬reached.delivered.Sublist (reached.arrived.map Message.frames)) ∧
    ∃ reached, Transition.run Inbound.step ({} : Inbound Nat)
      [.arrive ⟨0, [1]⟩, .clientSocketRecv (some 1), .clientSocketRecv none] = some reached ∧
      reached.delivered = [[1]] ∧
      ¬reached.delivered.Sublist (reached.arrived.map Message.frames) := by
  exact ⟨⟨_, rfl, by decide, by decide⟩, ⟨_, rfl, by decide, by decide⟩⟩

end ZmqClientBase

end Zmqcpp
