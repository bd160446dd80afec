import Zmqcpp.Socket.Socket

set_option autoImplicit false

namespace Zmqcpp

inductive EndpointSide
  | bound
  | connected
  deriving DecidableEq, Repr

def ZmqRequest.makes : ZmqRequest → Option (EndpointSide × String)
  | .bind addr => some (.bound, addr)
  | .connect addr => some (.connected, addr)
  | _ => none

def ZmqRequest.undoes : ZmqRequest → Option (EndpointSide × String)
  | .unbind addr => some (.bound, addr)
  | .disconnect addr => some (.connected, addr)
  | _ => none

-- The endpoints of a side after a call, the latest first. term_endpoint, which both calls come to,
-- knows no sides: the account by sides is what zmq_unbind and zmq_disconnect are to undo.
def ZmqCall.endpoints (side : EndpointSide) (before : List String) : ZmqCall → List String
  | .socket _ _ => before
  | .on _ request rc =>
      if rc = 0 then
        match request.makes, request.undoes with
        | some (made, addr), _ => if made = side then addr :: before else before
        | none, some (undone, addr) =>
            if undone = side then before.filter fun other => other ≠ addr else before
        | none, none => before
      else before

namespace EndpointOp

def addr : EndpointOp → Option String
  | .bind addr | .unbind addr | .connect addr | .disconnect addr => some addr
  | .unbindLast | .disconnectLast => none

def last : EndpointOp → Option EndpointSide
  | .unbindLast => some .bound
  | .disconnectLast => some .connected
  | _ => none

def request (address : String) : EndpointOp → ZmqRequest
  | .bind addr => .bind addr
  | .unbind addr => .unbind addr
  | .unbindLast => .unbind address
  | .connect addr => .connect addr
  | .disconnectLast => .disconnect address
  | .disconnect addr => .disconnect addr

end EndpointOp

namespace Socket

def latest (s : Socket) (side : EndpointSide) : Option String :=
  (s.calls.foldl (ZmqCall.endpoints side) []).head?

-- m_address is what a later Unbind() or Disconnect() is applied to.
structure Undoes (s next : Socket) (op : EndpointOp) (result : Bool) : Prop where
  applied : ∀ side, op.last = some side → ∀ addr, s.latest side = some addr →
    ∀ handle request rc, .on handle request rc ∈ next.calls.drop s.calls.length →
      request.undoes = some (side, addr)
  kept : result = false → next.address = s.address

end Socket

structure EndpointHistory where
  sock : Socket
  past : List (EndpointOp × ZmqAnswer) := []

namespace EndpointHistory

def hasSocket (past : List (EndpointOp × ZmqAnswer)) : Bool := past.any fun done => done.2.created

-- The address given to the latest operation with an argument, of those that had a socket.
def given : List (EndpointOp × ZmqAnswer) → String
  | [] => ""
  | done :: past => if hasSocket (done :: past) then done.1.addr.getD (given past) else given past

def step (s : EndpointHistory) (action : EndpointOp × ZmqAnswer) : Option EndpointHistory :=
  some { sock := (s.sock.endpoint action.2 action.1).1, past := action :: s.past }

def UndoesLatest (s : EndpointHistory) (action : EndpointOp × ZmqAnswer) : Prop :=
  s.sock.Undoes (s.sock.endpoint action.2 action.1).1 action.1
    (s.sock.endpoint action.2 action.1).2

/-- Where there is a socket, Unbind() and Disconnect() come when the endpoint they ought to undo is
also the one that was given last, and an operation that fails was given that one again. -/
def GivenLatest (s : EndpointHistory) (action : EndpointOp × ZmqAnswer) : Prop :=
  hasSocket (action :: s.past) = true →
    (∀ side, action.1.last = some side → ∀ addr, s.sock.latest side = some addr →
      given s.past = addr) ∧
    (action.2.rc ≠ 0 → ∀ addr, action.1.addr = some addr → given s.past = addr)

structure Recorded (s : EndpointHistory) : Prop where
  address : s.sock.address = given s.past
  socket : s.sock.pSocket.isSome = hasSocket s.past

end EndpointHistory

namespace Socket

variable (s : Socket) (answer : ZmqAnswer)

theorem endpoint_eq (op : EndpointOp) :
    s.endpoint answer op = s.guarded answer false fun s =>
      ({ s with address := op.addr.getD s.address }.call (op.request s.address) answer.rc,
        answer.rc = 0) := by
  cases op <;> rfl

theorem newSocket_address : (s.newSocket answer).1.address = s.address := by
  unfold newSocket
  split
  · rfl
  · split_ifs <;> rfl

theorem newSocket_pSocket :
    (s.newSocket answer).1.pSocket.isSome = (answer.created || s.pSocket.isSome) := by
  cases held : s.pSocket with
  | some socket => simp [newSocket, held]
  | none => cases created : answer.created <;> simp [newSocket, held, created]

theorem newSocket_calls : ∃ opened, (s.newSocket answer).1.calls = s.calls ++ opened ∧
    ∀ handle request rc, .on handle request rc ∉ opened := by
  cases held : s.pSocket with
  | some socket => exact ⟨[], by simp [newSocket, held], by simp⟩
  | none =>
      cases created : answer.created with
      | true => exact ⟨[.socket s.type (some s.created)], by simp [newSocket, held, created], by simp⟩
      | false => exact ⟨[.socket s.type none], by simp [newSocket, held, created], by simp⟩

theorem endpoint_refused (op : EndpointOp) (refused : (s.newSocket answer).1.pSocket = none) :
    s.endpoint answer op = ((s.newSocket answer).1, false) := by
  rw [endpoint_eq, guarded_eq, if_pos refused]

theorem endpoint_called (op : EndpointOp) (held : (s.newSocket answer).1.pSocket ≠ none) :
    s.endpoint answer op =
      ({ (s.newSocket answer).1 with address := op.addr.getD s.address }.call
        (op.request s.address) answer.rc, decide (answer.rc = 0)) := by
  rw [endpoint_eq, guarded_eq, if_neg held, newSocket_address]

theorem endpoint_calls {op : EndpointOp} (held : (s.newSocket answer).1.pSocket ≠ none)
    {handle : Option Nat} {request : ZmqRequest} {rc : Int} :
    .on handle request rc ∈ (s.endpoint answer op).1.calls.drop s.calls.length ↔
      handle = (s.newSocket answer).1.pSocket ∧ request = op.request s.address ∧
        rc = answer.rc := by
  obtain ⟨opened, calls, none_on⟩ := s.newSocket_calls answer
  rw [endpoint_called s answer op held]
  simp [call, calls, List.append_assoc, none_on]

theorem request_undoes {op : EndpointOp} {side : EndpointSide} (last : op.last = some side)
    (address : String) : (op.request address).undoes = some (side, address) := by
  cases op <;> cases last <;> rfl

end Socket

namespace EndpointHistory

variable {s : EndpointHistory} {action : EndpointOp × ZmqAnswer}

theorem Recorded.socket_iff (recorded : s.Recorded) :
    hasSocket (action :: s.past) = (s.sock.newSocket action.2).1.pSocket.isSome := by
  rw [Socket.newSocket_pSocket, recorded.socket]
  rfl

theorem Recorded.step (recorded : s.Recorded) :
    Recorded { sock := (s.sock.endpoint action.2 action.1).1, past := action :: s.past } := by
  have has_socket : hasSocket (action :: s.past) = _ := recorded.socket_iff
  cases socket : (s.sock.newSocket action.2).1.pSocket with
  | none =>
      rw [socket] at has_socket
      rw [Socket.endpoint_refused _ _ _ socket]
      refine ⟨?_, ?_⟩
      · rw [given, has_socket, Socket.newSocket_address, recorded.address]
        rfl
      · rw [socket, has_socket]
  | some handle =>
      rw [socket] at has_socket
      rw [Socket.endpoint_called _ _ _ (by simp [socket])]
      refine ⟨?_, ?_⟩
      · simp only [given, has_socket, Socket.call, recorded.address, Option.isSome_some, if_true]
      · simp only [Socket.call, socket, has_socket]

theorem Recorded.undoes_iff (recorded : s.Recorded) :
    s.UndoesLatest action ↔ s.GivenLatest action := by
  have has_socket : hasSocket (action :: s.past) = _ := recorded.socket_iff
  cases socket : (s.sock.newSocket action.2).1.pSocket with
  | none =>
      rw [socket] at has_socket
      have refused := s.sock.endpoint_refused action.2 action.1 socket
      refine ⟨fun _ had => ?_, fun _ => ⟨fun side _ addr _ handle request rc made => ?_, fun _ => ?_⟩⟩
      · rw [has_socket] at had
        cases had
      · obtain ⟨opened, calls, none_on⟩ := s.sock.newSocket_calls action.2
        rw [refused, calls, List.drop_left] at made
        exact absurd made (none_on handle request rc)
      · rw [refused, Socket.newSocket_address]
  | some handle =>
      rw [socket] at has_socket
      have held : (s.sock.newSocket action.2).1.pSocket ≠ none := by simp [socket]
      have called := s.sock.endpoint_called action.2 action.1 held
      constructor
      · intro undoes _
        refine ⟨fun side last addr latest => ?_, fun failed addr carries => ?_⟩
        · have applied := undoes.applied side last addr latest _ _ _
            ((s.sock.endpoint_calls action.2 held).mpr ⟨rfl, rfl, rfl⟩)
          rw [Socket.request_undoes last] at applied
          cases applied
          exact recorded.address.symm
        · have kept := undoes.kept (by simp [called, failed])
          rw [called] at kept
          simp only [Socket.call, carries, Option.getD_some] at kept
          rw [kept, recorded.address]
      · intro latest_given
        obtain ⟨same_last, same_failed⟩ := latest_given has_socket
        refine ⟨fun side last addr latest => ?_, fun failed => ?_⟩
        · intro handle request rc made
          obtain ⟨-, rfl, -⟩ := (s.sock.endpoint_calls action.2 held).mp made
          rw [Socket.request_undoes last, recorded.address, same_last side last addr latest]
        · rw [called] at failed ⊢
          simp only [decide_eq_false_iff_not] at failed
          cases carries : action.1.addr with
          | none => simp [Socket.call]
          | some addr =>
              simp only [Socket.call, Option.getD_some]
              rw [recorded.address, same_failed failed addr carries]

/-- In every sequence of the six operations the right endpoint is undone and a failure changes no
target if and only if each operation meets `GivenLatest`. -/
theorem endpoints_undone (type : EnumSocketType) (actions : List (EndpointOp × ZmqAnswer)) :
    Transition.Along step UndoesLatest { sock := { type } } actions ↔
      Transition.Along step GivenLatest { sock := { type } } actions := by
  have initial : Recorded { sock := { type } } := ⟨rfl, rfl⟩
  refine Transition.along_iff Recorded ?_ (fun s action recorded => recorded.undoes_iff) initial
  intro s action next recorded _ taken
  cases taken
  exact recorded.step

-- After a Bind and a Connect, Unbind() is applied to the endpoint connected to; a Connect that fails
-- makes its endpoint the one that Disconnect() is applied to.
theorem other_endpoint_undone :
    (((({ type := .dealer } : Socket).bind {} "a").1.connect {} "b").1.unbindLast {}).1.calls =
        [.socket .dealer (some 0), .on (some 0) (.bind "a") 0, .on (some 0) (.connect "b") 0,
          .on (some 0) (.unbind "b") 0] ∧
      ¬Transition.Along step UndoesLatest { sock := { type := .dealer } }
        [(.bind "a", {}), (.connect "b", {}), (.unbindLast, {})] ∧
      ¬Transition.Along step UndoesLatest { sock := { type := .dealer } }
        [(.connect "a", {}), (.connect "b", { rc := -1 })] := by
  refine ⟨rfl, fun along => ?_, fun along => ?_⟩
  · have undoes := ((along.2 _ rfl).2 _ rfl).1
    have applied := undoes.applied .bound rfl "a" rfl (some 0) (.unbind "b") 0 (by decide)
    revert applied
    decide
  · have undoes := (along.2 _ rfl).1
    have kept := undoes.kept rfl
    revert kept
    decide

end EndpointHistory

end Zmqcpp
