import Zmqcpp.Shared.Handles
import Zmqcpp.Socket.Socket

set_option autoImplicit false

namespace Zmqcpp

open Handles

def ZmqCall.event : ZmqCall → Option (Event Nat)
  | .socket _ result => result.map .issued
  | .on handle .close _ => some (.closed handle)
  | .on handle _ _ => some (.used handle)

def SocketOp.closes : SocketOp → Bool
  | .close | .destructor => true
  | _ => false

namespace Socket

def events (s : Socket) : List (Event Nat) := s.calls.filterMap ZmqCall.event

/-- Every call so far was given a socket that was open, at most one was open at a time, and none is
left behind; a Close or a destructor with nothing to close has opened nothing. -/
structure Kept (s next : Socket) (op : SocketOp) : Prop where
  balanced : Balanced next.events
  ended : op = .destructor → ∀ handle, .issued handle ∈ next.events →
    next.events.count (.closed (some handle)) = 1
  quiet : op.closes = true → (∀ handle, ¬Open s.events handle) →
    ∀ handle, .issued handle ∈ next.events → .issued handle ∈ s.events

def KeepsHandles (s : Socket) (action : SocketOp × ZmqAnswer) : Prop :=
  ∀ next, s.step action = some next → s.Kept next action.1

/-- Close and the destructor find an open socket, or zmq_socket fails there. -/
def ClosesHeld (s : Socket) (action : SocketOp × ZmqAnswer) : Prop :=
  s.destroyed = false → action.1.closes = true → s.pSocket = none → action.2.created = false

-- The account of the calls so far has m_pSocket as its open handle.
def Owned (s : Socket) : Prop :=
  ∃ issued, Accepted s.events ⟨s.pSocket, issued⟩ ∧ ∀ handle ∈ issued, handle < s.created

variable {s next : Socket} {action : SocketOp × ZmqAnswer}

theorem call_events (s : Socket) {request : ZmqRequest} (other : request ≠ .close) (rc : Int) :
    (s.call request rc).events = s.events ++ [.used s.pSocket] := by
  cases request <;> first | exact absurd rfl other | simp [events, call, ZmqCall.event]

theorem Owned.open_iff (owned : s.Owned) (handle : Nat) :
    Open s.events handle ↔ s.pSocket = some handle := by
  obtain ⟨issued, accepted, -⟩ := owned
  exact accepted.tally.open_iff handle

theorem Owned.newSocket (owned : s.Owned) (answer : ZmqAnswer) : (s.newSocket answer).1.Owned := by
  obtain ⟨issued, accepted, below⟩ := owned
  cases held : s.pSocket with
  | some socket =>
      rw [newSocket_held (by simp [held])]
      exact ⟨issued, accepted, below⟩
  | none =>
      rw [held] at accepted
      simp only [Socket.newSocket, held]
      split_ifs with created
      · refine ⟨s.created :: issued, ?_, ?_⟩
        · have fresh : s.created ∉ issued := fun member => Nat.lt_irrefl _ (below _ member)
          have after : Accepted (s.events ++ [.issued s.created])
              ⟨some s.created, s.created :: issued⟩ := accepted.snoc (if_pos ⟨rfl, fresh⟩)
          simpa [events, ZmqCall.event] using after
        · intro handle member
          rcases List.mem_cons.mp member with rfl | earlier
          · exact Nat.lt_succ_self _
          · exact Nat.lt_succ_of_lt (below handle earlier)
      · refine ⟨issued, ?_, below⟩
        simpa [events, ZmqCall.event, List.filterMap_cons, held] using accepted

theorem Owned.use (owned : s.Owned) (held : s.pSocket ≠ none) {request : ZmqRequest}
    (other : request ≠ .close) (rc : Int) : (s.call request rc).Owned := by
  obtain ⟨issued, accepted, below⟩ := owned
  refine ⟨issued, ?_, below⟩
  rw [call_events s other]
  exact accepted.snoc (if_pos ⟨held, rfl⟩)

theorem Owned.finish (owned : s.Owned) (held : s.pSocket ≠ none) (rc : Int) :
    Owned { s.call .close rc with pSocket := none } := by
  obtain ⟨issued, accepted, below⟩ := owned
  refine ⟨issued, ?_, below⟩
  have after : Accepted (s.events ++ [.closed s.pSocket]) ⟨none, issued⟩ :=
    accepted.snoc (if_pos ⟨held, rfl⟩)
  simpa [events, call, ZmqCall.event] using after

theorem Owned.guarded (owned : s.Owned) {Result : Type} {answer : ZmqAnswer} {failed : Result}
    {rest : Socket → Socket × Result}
    (keeps : ∀ held : Socket, held.Owned → held.pSocket ≠ none → (rest held).1.Owned) :
    (s.guarded answer failed rest).1.Owned := by
  rw [guarded_eq]
  split_ifs with nothing
  · exact owned.newSocket answer
  · exact keeps _ (owned.newSocket answer) nothing

theorem Owned.close (owned : s.Owned) (answer : ZmqAnswer) : (s.close answer).1.Owned := by
  apply owned.guarded
  intro s owned held
  rw [if_neg held]
  exact owned.finish held answer.rc

theorem Owned.endpoint (owned : s.Owned) (answer : ZmqAnswer) (op : EndpointOp) :
    (s.endpoint answer op).1.Owned := by
  cases op with
  | unbindLast | disconnectLast =>
      apply owned.guarded
      intro s owned held
      exact owned.use held (by simp) answer.rc
  | bind addr | unbind addr | connect addr | disconnect addr =>
      apply owned.guarded
      intro s owned held
      have moved : Owned { s with address := addr } := owned
      exact moved.use held (by simp) answer.rc

theorem Owned.perform (owned : s.Owned) (answer : ZmqAnswer) (op : SocketOp) :
    (s.perform answer op).Owned := by
  cases op with
  | endpoint op => exact owned.endpoint answer op
  | close => exact owned.close answer
  | destructor => exact owned.close answer
  | newSocket => exact owned.newSocket answer
  | getSocket =>
      simp only [Socket.perform, getSocket_eq]
      exact owned.newSocket answer
  | setSocketOptionValue | getSocketOptionValue =>
      apply owned.guarded
      intro s owned held
      apply owned.guarded
      intro s owned held
      exact owned.use held (by simp) answer.rc
  | send | sendiov | recv | recviov | setSocketOption | getSocketOption =>
      apply owned.guarded
      intro s owned held
      exact owned.use held (by simp) answer.rc

theorem step_eq (taken : s.step action = some next) : next = s.perform action.2 action.1 := by
  simp only [step, Option.ite_none_left_eq_some, Option.some.injEq] at taken
  exact taken.2.symm

theorem step_alive (taken : s.step action = some next) : s.destroyed = false := by
  simp only [step, Option.ite_none_left_eq_some] at taken
  simpa using taken.1

theorem Owned.step (owned : s.Owned) (taken : s.step action = some next) : next.Owned := by
  rw [step_eq taken]
  exact owned.perform action.2 action.1

theorem close_pSocket (s : Socket) (answer : ZmqAnswer) : (s.close answer).1.pSocket = none := by
  rw [close, guarded_eq]
  split_ifs with nothing
  · exact nothing
  · rfl

theorem close_events (nothing : s.pSocket = none) (answer : ZmqAnswer) :
    (s.close answer).1.events = if answer.created then
      s.events ++ [.issued s.created, .closed (some s.created)] else s.events := by
  rw [close, guarded_eq]
  cases created : answer.created <;>
    simp [Socket.newSocket, nothing, created, events, call, ZmqCall.event, List.filterMap_cons]

theorem Owned.issued_below (owned : s.Owned) {handle : Nat} (issued : .issued handle ∈ s.events) :
    handle < s.created := by
  obtain ⟨all, accepted, below⟩ := owned
  exact below handle ((accepted.tally.issued handle).mpr issued)

theorem Owned.balanced (owned : s.Owned) : Balanced s.events := by
  obtain ⟨all, accepted, -⟩ := owned
  exact accepted.balanced

theorem Owned.closed_once (owned : s.Owned) (nothing : s.pSocket = none) {handle : Nat}
    (issued : .issued handle ∈ s.events) : s.events.count (.closed (some handle)) = 1 := by
  obtain ⟨all, accepted, -⟩ := owned
  exact accepted.closed_once nothing issued

theorem Owned.nothing_iff (owned : s.Owned) :
    (∀ handle, ¬Open s.events handle) ↔ s.pSocket = none := by
  simp only [owned.open_iff, Option.eq_none_iff_forall_ne_some, ne_eq]

theorem perform_closes (s : Socket) (answer : ZmqAnswer) {op : SocketOp}
    (closes : op.closes = true) : (s.perform answer op).events = (s.close answer).1.events := by
  cases op with
  | close | destructor => rfl
  | _ => cases closes

/-- The sockets of every sequence of operations are balanced, and a Close or destructor opens none,
if and only if each Close and each destructor finds a socket or fails to open one. -/
theorem handles_balanced (type : EnumSocketType) (actions : List (SocketOp × ZmqAnswer)) :
    Transition.Along step KeepsHandles { type } actions ↔
      Transition.Along step ClosesHeld { type } actions := by
  have initial : Owned { type } := ⟨[], rfl, by simp⟩
  refine Transition.along_iff Owned (fun s action next owned _ taken => owned.step taken) ?_ initial
  intro s action owned
  constructor
  · intro keeps alive closes nothing
    by_contra created
    have taken : s.step action = some (s.perform action.2 action.1) := if_neg (by simp [alive])
    have kept := keeps _ taken
    have issued : .issued s.created ∈ (s.perform action.2 action.1).events := by
      rw [perform_closes s action.2 closes, close_events nothing, if_pos (by simpa using created)]
      simp
    have earlier := kept.quiet closes (owned.nothing_iff.mpr nothing) s.created issued
    exact Nat.lt_irrefl _ (owned.issued_below earlier)
  · intro held next taken
    have after := owned.step taken
    refine ⟨after.balanced, fun last handle issued => ?_, fun closes nothing handle issued => ?_⟩
    · refine after.closed_once ?_ issued
      rw [step_eq taken, last]
      exact close_pSocket s action.2
    · have empty := owned.nothing_iff.mp nothing
      have refused := held (step_alive taken) closes empty
      rw [step_eq taken, perform_closes s action.2 closes, close_events empty, refused] at issued
      exact issued

-- A socket is used, closed and destroyed: the destructor opens a second one and closes it.
theorem destructor_opens : ∃ reached,
    Transition.run step { type := .dealer } [(.endpoint (.bind "tcp://*:1"), {}), (.close, {})] =
      some reached ∧
    reached.pSocket = none ∧
    (reached.perform {} .destructor).calls =
      reached.calls ++ [.socket .dealer (some 1), .on (some 1) .close 0] ∧
    ¬Transition.Along step KeepsHandles { type := .dealer }
      [(.endpoint (.bind "tcp://*:1"), {}), (.close, {}), (.destructor, {})] := by
  refine ⟨_, rfl, rfl, rfl, fun along => ?_⟩
  have kept := ((along.2 _ rfl).2 _ rfl).1 _ rfl
  have nothing : ∀ handle, ¬Open [.issued 0, .used (some 0), .closed (some 0)] handle := by
    rintro handle ⟨issued, unclosed⟩
    have first : handle = 0 := by simpa using issued
    simp [first] at unclosed
  have issued := kept.quiet rfl nothing 1 (by decide)
  revert issued
  decide

end Socket

end Zmqcpp
