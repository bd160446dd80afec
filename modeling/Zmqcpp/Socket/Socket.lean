import Zmqcpp.Socket.Send
import Zmqcpp.Shared.Transition

set_option autoImplicit false

namespace Zmqcpp

open Multipart

inductive EnumSocketType
  | req
  | rep
  | dealer
  | router
  | pub
  | sub
  | xpub
  | xsub
  | push
  | pull
  | pair
  | stream
  deriving DecidableEq, Repr

inductive ZmqRequest
  | close
  | bind (addr : String)
  | unbind (addr : String)
  | connect (addr : String)
  | disconnect (addr : String)
  | send (buf : Bytes) (flags : UInt32)
  | sendiov (iov : List Bytes) (flags : UInt32)
  | recv (len : Nat) (flags : UInt32)
  | recviov (iovSize : Nat) (flags : UInt32)
  | setsockopt (option : Int) (optval : Bytes)
  | getsockopt (option : Int) (optvallen : Nat)
  deriving DecidableEq, Repr

inductive ZmqCall
  | socket (type : EnumSocketType) (result : Option Nat)
  | on (socket : Option Nat) (request : ZmqRequest) (rc : Int)
  deriving DecidableEq, Repr

/-- Whether zmq_socket returns a socket, and what the call after it returns. -/
structure ZmqAnswer where
  created : Bool := true
  rc : Int := 0
  errno : Errno := .eagain
  deriving DecidableEq, Repr

structure Socket where
  type : EnumSocketType
  address : String := ""
  pSocket : Option Nat := none
  -- The sockets zmq_socket has returned are numbered; `calls` are those of libzmq.
  created : Nat := 0
  calls : List ZmqCall := []
  destroyed : Bool := false
  deriving DecidableEq, Repr

inductive EndpointOp
  | bind (addr : String)
  | unbind (addr : String)
  | unbindLast
  | connect (addr : String)
  | disconnectLast
  | disconnect (addr : String)
  deriving DecidableEq, Repr

/-- The public operations. The two with `Value` are the templates, whose size is that of a T. -/
inductive SocketOp
  | endpoint (op : EndpointOp)
  | close
  | getSocket
  | newSocket
  | send (buf : Bytes) (flags : UInt32) (sendSize : Int)
  | sendiov (iov : List Bytes) (flags : UInt32)
  | recv (len : Nat) (flags : UInt32) (value : Int)
  | recviov (iovSize : Nat) (flags : UInt32)
  | setSocketOption (option : Int) (optval : Bytes)
  | setSocketOptionValue (option : Int) (optval : Bytes)
  | getSocketOption (option : Int) (optvallen : Nat)
  | getSocketOptionValue (option : Int) (size : Nat)
  | destructor
  deriving DecidableEq, Repr

namespace Socket

def call (s : Socket) (request : ZmqRequest) (rc : Int) : Socket :=
  { s with calls := s.calls ++ [.on s.pSocket request rc] }

def newSocket (s : Socket) (answer : ZmqAnswer) : Socket × Bool :=
  match s.pSocket with
  | some _ => (s, true)
  | none =>
      if answer.created then
        ({ s with
          pSocket := some s.created
          created := s.created + 1
          calls := s.calls ++ [.socket s.type (some s.created)] }, true)
      else ({ s with calls := s.calls ++ [.socket s.type none] }, false)

def getSocket (s : Socket) (answer : ZmqAnswer) : Socket × Option Nat :=
  if (s.newSocket answer).2 then ((s.newSocket answer).1, (s.newSocket answer).1.pSocket)
  else ((s.newSocket answer).1, none)

-- if (!GetSocket()) return, before the rest of an operation.
def guarded {Result : Type} (s : Socket) (answer : ZmqAnswer) (failed : Result)
    (rest : Socket → Socket × Result) : Socket × Result :=
  if (s.getSocket answer).2 = none then ((s.getSocket answer).1, failed)
  else rest (s.getSocket answer).1

def close (s : Socket) (answer : ZmqAnswer) : Socket × Bool :=
  s.guarded answer false fun s =>
    if s.pSocket = none then (s, true)
    else ({ s.call .close answer.rc with pSocket := none }, answer.rc = 0)

def bind (s : Socket) (answer : ZmqAnswer) (addr : String) : Socket × Bool :=
  s.guarded answer false fun s =>
    ({ s with address := addr }.call (.bind addr) answer.rc, answer.rc = 0)

def unbind (s : Socket) (answer : ZmqAnswer) (addr : String) : Socket × Bool :=
  s.guarded answer false fun s =>
    ({ s with address := addr }.call (.unbind addr) answer.rc, answer.rc = 0)

def unbindLast (s : Socket) (answer : ZmqAnswer) : Socket × Bool :=
  s.guarded answer false fun s => (s.call (.unbind s.address) answer.rc, answer.rc = 0)

def connect (s : Socket) (answer : ZmqAnswer) (addr : String) : Socket × Bool :=
  s.guarded answer false fun s =>
    ({ s with address := addr }.call (.connect addr) answer.rc, answer.rc = 0)

def disconnectLast (s : Socket) (answer : ZmqAnswer) : Socket × Bool :=
  s.guarded answer false fun s => (s.call (.disconnect s.address) answer.rc, answer.rc = 0)

def disconnect (s : Socket) (answer : ZmqAnswer) (addr : String) : Socket × Bool :=
  s.guarded answer false fun s =>
    ({ s with address := addr }.call (.disconnect addr) answer.rc, answer.rc = 0)

def sizeResult (answer : ZmqAnswer) (size : Int) : Bool × Int :=
  if 0 ≤ answer.rc then (true, answer.rc)
  else if answer.errno = .eagain then (true, 0)
  else (false, size)

def sendBuffer (s : Socket) (answer : ZmqAnswer) (buf : Bytes) (flags : UInt32) (sendSize : Int) :
    Socket × Bool × Int :=
  s.guarded answer (false, sendSize) fun s =>
    (s.call (.send buf flags) answer.rc, sizeResult answer sendSize)

def sendiov (s : Socket) (answer : ZmqAnswer) (iov : List Bytes) (flags : UInt32) : Socket × Bool :=
  s.guarded answer false fun s => (s.call (.sendiov iov flags) answer.rc, answer.rc ≠ -1)

def recv (s : Socket) (answer : ZmqAnswer) (len : Nat) (flags : UInt32) (value : Int) :
    Socket × Bool × Int :=
  s.guarded answer (false, value) fun s =>
    (s.call (.recv len flags) answer.rc, sizeResult answer value)

def recviov (s : Socket) (answer : ZmqAnswer) (iovSize : Nat) (flags : UInt32) : Socket × Bool :=
  s.guarded answer false fun s => (s.call (.recviov iovSize flags) answer.rc, answer.rc ≠ -1)

def setSocketOption (s : Socket) (answer : ZmqAnswer) (option : Int) (optval : Bytes) :
    Socket × Bool :=
  s.guarded answer false fun s => (s.call (.setsockopt option optval) answer.rc, answer.rc = 0)

def setSocketOptionValue (s : Socket) (answer : ZmqAnswer) (option : Int) (optval : Bytes) :
    Socket × Bool :=
  s.guarded answer false fun s => s.setSocketOption answer option optval

def getSocketOption (s : Socket) (answer : ZmqAnswer) (option : Int) (optvallen : Nat) :
    Socket × Bool :=
  s.guarded answer false fun s => (s.call (.getsockopt option optvallen) answer.rc, answer.rc = 0)

def getSocketOptionValue (s : Socket) (answer : ZmqAnswer) (option : Int) (size : Nat) :
    Socket × Bool :=
  s.guarded answer false fun s => s.getSocketOption answer option size

def endpoint (s : Socket) (answer : ZmqAnswer) : EndpointOp → Socket × Bool
  | .bind addr => s.bind answer addr
  | .unbind addr => s.unbind answer addr
  | .unbindLast => s.unbindLast answer
  | .connect addr => s.connect answer addr
  | .disconnectLast => s.disconnectLast answer
  | .disconnect addr => s.disconnect answer addr

def perform (s : Socket) (answer : ZmqAnswer) : SocketOp → Socket
  | .endpoint op => (s.endpoint answer op).1
  | .close => (s.close answer).1
  | .getSocket => (s.getSocket answer).1
  | .newSocket => (s.newSocket answer).1
  | .send buf flags sendSize => (s.sendBuffer answer buf flags sendSize).1
  | .sendiov iov flags => (s.sendiov answer iov flags).1
  | .recv len flags value => (s.recv answer len flags value).1
  | .recviov iovSize flags => (s.recviov answer iovSize flags).1
  | .setSocketOption option optval => (s.setSocketOption answer option optval).1
  | .setSocketOptionValue option optval => (s.setSocketOptionValue answer option optval).1
  | .getSocketOption option optvallen => (s.getSocketOption answer option optvallen).1
  | .getSocketOptionValue option size => (s.getSocketOptionValue answer option size).1
  | .destructor => { (s.close answer).1 with destroyed := true }

def step (s : Socket) (action : SocketOp × ZmqAnswer) : Option Socket :=
  if s.destroyed then none else some (s.perform action.2 action.1)

theorem newSocket_result (s : Socket) (answer : ZmqAnswer) :
    (s.newSocket answer).2 = (s.newSocket answer).1.pSocket.isSome := by
  simp only [newSocket]
  cases held : s.pSocket with
  | some socket => simp [held]
  | none => split_ifs <;> simp

theorem getSocket_eq (s : Socket) (answer : ZmqAnswer) :
    s.getSocket answer = ((s.newSocket answer).1, (s.newSocket answer).1.pSocket) := by
  unfold getSocket
  rw [newSocket_result]
  cases (s.newSocket answer).1.pSocket <;> simp

theorem guarded_eq {Result : Type} (s : Socket) (answer : ZmqAnswer) (failed : Result)
    (rest : Socket → Socket × Result) :
    s.guarded answer failed rest =
      if (s.newSocket answer).1.pSocket = none then ((s.newSocket answer).1, failed)
      else rest (s.newSocket answer).1 := by
  rw [guarded, getSocket_eq]

theorem newSocket_held {s : Socket} (held : s.pSocket ≠ none) (answer : ZmqAnswer) :
    s.newSocket answer = (s, true) := by
  obtain ⟨socket, known⟩ := Option.ne_none_iff_exists'.mp held
  simp [newSocket, known]

theorem send_result (sock : Outbox Bytes) (buf : Bytes) (flags : UInt32) (outcome : SendOutcome)
    (sendSize : Int) (created : Bool) :
    (Socket.send sock buf flags outcome sendSize).2 =
      sizeResult ⟨created, zmqSend buf.length outcome, outcome.errno⟩ sendSize := by
  simp only [Socket.send, sizeResult]
  split_ifs <;> rfl

end Socket

end Zmqcpp
