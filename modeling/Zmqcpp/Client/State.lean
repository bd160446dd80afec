import Zmqcpp.Client.TimerWorker

set_option autoImplicit false

namespace Zmqcpp

inductive EnumTransportState
  | transportDisconnect
  | transportFailed
  | undefine
  | transportedPollFinish
  | transporting
  | transported
  deriving DecidableEq, Repr

-- The enumerators' values, which the code compares with `<` and `>`.
def EnumTransportState.value : EnumTransportState → Int
  | .transportDisconnect => -2
  | .transportFailed => -1
  | .undefine => 0
  | .transportedPollFinish => 1
  | .transporting => 2
  | .transported => 3

instance : LT EnumTransportState := ⟨fun left right => left.value < right.value⟩

instance (left right : EnumTransportState) : Decidable (left < right) :=
  inferInstanceAs (Decidable (left.value < right.value))

inductive EnumConnectState
  | onEventConnected
  | onEventConnectDelayed
  | onEventConnectRetried
  | onEventClosed
  | onEventCloseFailed
  | onEventDisconnected
  | onEventUnknown
  deriving DecidableEq, Repr

-- The two definitions of Tick and GetTick.
inductive Build
  | win32
  | other
  deriving DecidableEq, Repr

def Build.getTick : Build → UInt32 → UInt32
  | .win32, clock => clock
  | .other, _ => 0

/-- The nowtick - m_lastpong of AutoConnect: DWORD subtraction, or int subtraction. -/
def Build.elapsed : Build → UInt32 → UInt32 → Int
  | .win32, nowtick, lastpong => ((nowtick - lastpong).toNat : Int)
  | .other, nowtick, lastpong => (nowtick - lastpong).toInt32.toInt

/-- A thread is named by what it runs; `poll n` is the n-th thread started by Init. -/
inductive Tid
  | user (number : Nat)
  | timer
  | poll (session : Nat)
  deriving DecidableEq, Repr

-- A zmqcpp::Socket made by NewFrontSockets of thread `owner`.
structure FrontSocket where
  owner : Tid
  serial : Nat
  deriving DecidableEq, Repr

/-- "inproc://back-front&socket#" followed by the identity; `none` is the empty string. -/
structure InprocAddress where
  identity : Option Nat
  deriving DecidableEq, Repr

-- The libzmq calls NewFrontSockets makes on a new socket.
inductive FrontSetup
  | linger (value : Nat)
  | sndtimeo (value : Nat)
  | rcvtimeo (value : Nat)
  | sndhwm (value : Nat)
  | connect
  deriving DecidableEq, Repr

def frontSetup : List FrontSetup :=
  [.linger 0, .sndtimeo 1000, .rcvtimeo 1000, .sndhwm 1000, .connect]

-- A call of the member m_connectStateFunc or m_recvFunc by a poll thread.
inductive CallbackCall
  | connectState (func : Nat) (state : EnumConnectState)
  | recv (func : Nat)
  deriving DecidableEq, Repr

inductive StopPc
  | clearRun
  | setUndefine
  | lockFront
  | nextFront
  | disconnecting (socket : FrontSocket) (addr : InprocAddress)
  | eraseFront (socket : FrontSocket)
  | closing (socket : FrontSocket)
  | testJoinable
  | testThreadId
  | join
  | joining (session : Nat)
  | clearIdentity
  deriving DecidableEq, Repr

inductive InitPc
  | testJoinable
  | updateLastPong
  | testAutoConnect
  | startTimer (pc : TimerWorker.StartPc)
  | setConnectStateFunc
  | setRecvFunc
  | setUndefine
  | newThread
  | storeThread (session : Nat)
  | testState
  | readResult
  deriving DecidableEq, Repr

inductive AfterStop
  | finish
  | start (addr : String) (connectStateFn recvFn : Option Nat)
  deriving DecidableEq, Repr

inductive ResetPc
  | stopTimer (pc : TimerWorker.StopPc)
  | stop (after : AfterStop) (pc : StopPc)
  | setAddress (addr : String) (connectStateFn recvFn : Option Nat)
  | init (connectStateFn recvFn : Option Nat) (pc : InitPc)
  | result (value : Bool)
  deriving DecidableEq, Repr

inductive SendPc
  | testState
  | lockFront
  | lookup
  | setup (todo : List FrontSetup) (socket : FrontSocket)
  | inSetup (todo : List FrontSetup) (socket : FrontSocket)
  | abandoning (socket : FrontSocket)
  | unlock (socket : Option FrontSocket)
  | ready (socket : FrontSocket)
  | sending (socket : FrontSocket)
  | release (socket : FrontSocket) (value : Bool)
  | closing (socket : FrontSocket) (value : Bool)
  | result (value : Bool)
  deriving DecidableEq, Repr

inductive Task
  | idle
  | reset (pc : ResetPc)
  | send (pc : SendPc)
  | setAutoConnect (value : Bool)
  | startTimer (pc : TimerWorker.StartPc)
  | setHeartbeatInterval (interval delay : UInt32)
  | setHeartbeatDelay (delay : UInt32)
  deriving DecidableEq, Repr

inductive AutoConnectPc
  | testAutoConnect
  | testInterval
  | getTick
  | readLastPong (nowtick : UInt32)
  | testState (value : Int)
  | copyConnectStateFunc
  | copyRecvFunc (connectStateFunc : Option Nat)
  | copyAddress (connectStateFunc recvFunc : Option Nat)
  | resetting
  | stopTimer (pc : TimerWorker.StopPc)
  deriving DecidableEq, Repr

inductive MonitorEvent
  | connected
  | connectDelayed
  | connectRetried
  | closed
  | closeFailed
  | disconnected
  | unknown
  | stopped
  deriving DecidableEq, Repr

/-- The loop of RecvPoll that called MonitorRecv; `drain` carries timeoutCount. -/
inductive MonitorLoop
  | poll
  | drain (timeoutCount : Nat)
  deriving DecidableEq, Repr

inductive RecvPollPc
  | clearStopMonitor
  | setThreadId
  | newClientSocket
  | newBackSocket
  | makeIdentity
  | setMonitorSocket
  | setClientOptions
  | connectClient
  | setBackOptions
  | setInprocAddress
  | bindBack
  | setRun
  | setTransporting
  | testRun
  | poll
  | backSocketRecv (client monitor : Bool)
  | updateLastPong (monitor : Bool)
  | recviov (monitor : Bool)
  | recvCallback (monitor : Bool)
  | inRecvFunc (monitor : Bool)
  | monitorRecv (loop : MonitorLoop)
  | storeState (loop : MonitorLoop) (event : MonitorEvent)
  | clearRun (loop : MonitorLoop) (event : MonitorEvent)
  | connectCallback (loop : MonitorLoop) (event : MonitorEvent)
  | inConnectStateFunc (loop : MonitorLoop)
  | closeSockets
  | testStopMonitor (timeoutCount : Nat)
  | setPollFinish
  | setFailed
  | finished
  deriving DecidableEq, Repr

structure ZmqClientBase where
  build : Build
  bAutoConnect : Bool
  heartbeatInterval : UInt32
  heartbeatDelay : UInt32
  lastpong : UInt32
  connectStateFunc : Option Nat
  recvFunc : Option Nat
  address : String
  inprocAddress : InprocAddress
  identity : Option Nat
  recvPollThreadid : Option Tid
  bRun : Bool
  transportState : EnumTransportState
  recvthread : Option Nat
  frontMutex : Option Tid
  frontsockets : List (Tid × Option FrontSocket)
  autoConnectTimer : TimerWorker
  bStopMonitor : Bool
  -- What libzmq and the threads hold.
  joined : Nat → Bool
  serial : Nat
  frontAddress : FrontSocket → Option InprocAddress
  sessions : Nat
  started : Nat → Option (Option Nat × Option Nat)
  clientAddress : Nat → Option String
  backAddress : Nat → Option InprocAddress
  callbacks : List (Nat × CallbackCall)
  poll : Nat → RecvPollPc
  task : Tid → Task
  onTimeout : TimerWorker.OnTimeoutPc AutoConnectPc
  crashed : Bool

namespace ZmqClientBase

def iovetSize : Nat := 8

/-- The constructor; m_lastpong and m_bStopMonitor keep what the memory held. -/
def constructed (build : Build) (lastpong : UInt32) (bStopMonitor : Bool) : ZmqClientBase where
  build := build
  bAutoConnect := true
  heartbeatInterval := 10 * 1000
  heartbeatDelay := 5 * 1000
  lastpong := lastpong
  connectStateFunc := none
  recvFunc := none
  address := ""
  inprocAddress := ⟨none⟩
  identity := none
  recvPollThreadid := none
  bRun := false
  transportState := .undefine
  recvthread := none
  frontMutex := none
  frontsockets := []
  autoConnectTimer := {}
  bStopMonitor := bStopMonitor
  joined := fun _ => false
  serial := 0
  frontAddress := fun _ => none
  sessions := 0
  started := fun _ => none
  clientAddress := fun _ => none
  backAddress := fun _ => none
  callbacks := []
  poll := fun _ => .clearStopMonitor
  task := fun _ => .idle
  onTimeout := .idle
  crashed := false

end ZmqClientBase

end Zmqcpp
