import Mathlib.Logic.Function.Basic
import Zmqcpp.Client.State

set_option autoImplicit false

namespace Zmqcpp

/-- What the environment decides in a step: results of libzmq calls, the clock, the events. -/
structure Env where
  ok : Bool := true
  clock : UInt32 := 0
  uuid : Nat := 0
  back : Bool := false
  client : Bool := false
  monitor : Bool := false
  event : Option MonitorEvent := none
  deriving DecidableEq, Repr

inductive Call
  | reset
  | resetAddr (addr : String) (connectStateFn recvFn : Option Nat)
  | resetIp (ip : String) (port : UInt16) (connectStateFn recvFn : Option Nat)
  | sendData
  | setAutoConnect (bAutoConnect : Bool)
  | setHeartbeatIntervalTime (heartbeatIntervalSeconds heartbeatDelaySeconds : UInt32)
  deriving DecidableEq, Repr

inductive Action
  | call (thread : Tid) (call : Call)
  | task (thread : Tid) (env : Env)
  | recvPoll (session : Nat) (env : Env)
  | onTimeout (env : Env)
  deriving DecidableEq, Repr

def tcpAddress (ip : String) (port : UInt16) : String :=
  "tcp://" ++ ip ++ ":" ++ toString port.toNat

def Call.task : Call → Task
  | .reset => .reset (.stopTimer .clearRunning)
  | .resetAddr addr connectStateFn recvFn =>
      .reset (.stop (.start addr connectStateFn recvFn) .clearRun)
  | .resetIp ip port connectStateFn recvFn =>
      .reset (.stop (.start (tcpAddress ip port) connectStateFn recvFn) .clearRun)
  | .sendData => .send .testState
  | .setAutoConnect bAutoConnect => .setAutoConnect bAutoConnect
  | .setHeartbeatIntervalTime interval delay => .setHeartbeatInterval interval delay

def AfterStop.resume : AfterStop → ResetPc
  | .finish => .result true
  | .start addr connectStateFn recvFn => .setAddress addr connectStateFn recvFn

def ResetPc.afterStopTimer : Option TimerWorker.StopPc → ResetPc
  | some next => .stopTimer next
  | none => .stop .finish .clearRun

def ResetPc.afterStop (after : AfterStop) : Option StopPc → ResetPc
  | some next => .stop after next
  | none => after.resume

def ResetPc.afterInit (connectStateFn recvFn : Option Nat) : InitPc ⊕ Bool → ResetPc
  | .inl next => .init connectStateFn recvFn next
  | .inr value => .result value

def InitPc.afterStartTimer : Option TimerWorker.StartPc → InitPc
  | some next => .startTimer next
  | none => .setConnectStateFunc

-- The socket the local shared_ptr of SendData and NewFrontSockets keeps alive.
def SendPc.sock : SendPc → Option FrontSocket
  | .setup _ socket | .inSetup _ socket | .ready socket | .sending socket | .release socket _ =>
      some socket
  | .unlock socket => socket
  | _ => none

def Task.sock : Task → Option FrontSocket
  | .send pc => pc.sock
  | _ => none

def MonitorLoop.next : MonitorLoop → RecvPollPc
  | .poll => .testRun
  | .drain timeoutCount =>
      if 1000 < timeoutCount + 1 then .setPollFinish else .testStopMonitor (timeoutCount + 1)

-- OnEventConnected, OnEventClosed and OnEventDisconnected store m_transportState first.
def MonitorEvent.storesState : MonitorEvent → Bool
  | .connected | .closed | .disconnected => true
  | _ => false

def MonitorEvent.connectState : MonitorEvent → EnumConnectState
  | .connected => .onEventConnected
  | .connectDelayed => .onEventConnectDelayed
  | .connectRetried => .onEventConnectRetried
  | .closed => .onEventClosed
  | .closeFailed => .onEventCloseFailed
  | .disconnected => .onEventDisconnected
  | .unknown | .stopped => .onEventUnknown

-- The rest of the loop body once the items before it are handled.
def afterClient (monitor : Bool) : RecvPollPc :=
  if monitor then .monitorRecv .poll else .testRun

def afterBack (client monitor : Bool) : RecvPollPc :=
  if client then .updateLastPong monitor else afterClient monitor

def afterPoll (back client monitor : Bool) : RecvPollPc :=
  if back then .backSocketRecv client monitor else afterBack client monitor

-- m_frontsockets[id] adds a null entry for an absent key.
def touchFront (frontsockets : List (Tid × Option FrontSocket)) (thread : Tid) :
    List (Tid × Option FrontSocket) :=
  if frontsockets.any (fun entry => entry.1 = thread) then frontsockets
  else (thread, none) :: frontsockets

def lookupFront (frontsockets : List (Tid × Option FrontSocket)) (thread : Tid) :
    Option FrontSocket :=
  (frontsockets.lookup thread).join

def assignFront (frontsockets : List (Tid × Option FrontSocket)) (thread : Tid)
    (socket : FrontSocket) : List (Tid × Option FrontSocket) :=
  frontsockets.map fun entry => if entry.1 = thread then (thread, some socket) else entry

namespace ZmqClientBase

def setTask (s : ZmqClientBase) (thread : Tid) (task : Task) : ZmqClientBase :=
  { s with task := Function.update s.task thread task }

def setPoll (s : ZmqClientBase) (session : Nat) (pc : RecvPollPc) : ZmqClientBase :=
  { s with poll := Function.update s.poll session pc }

def joinable (s : ZmqClientBase) : Bool :=
  match s.recvthread with
  | none => false
  | some session => !s.joined session

def stopStep (s : ZmqClientBase) (thread : Tid) : StopPc → Option (ZmqClientBase × Option StopPc)
  | .clearRun => some ({ s with bRun := false }, some .setUndefine)
  | .setUndefine => some ({ s with transportState := .undefine }, some .lockFront)
  | .lockFront =>
      if s.frontMutex = none then some ({ s with frontMutex := some thread }, some .nextFront)
      else none
  | .nextFront =>
      match s.frontsockets with
      | [] => some ({ s with frontMutex := none }, some .testJoinable)
      -- iter->second is null.
      | (_, none) :: _ => some ({ s with crashed := true }, some .nextFront)
      | (_, some socket) :: _ => some (s, some (.disconnecting socket s.inprocAddress))
  | .disconnecting socket addr =>
      some (if s.frontAddress socket = some addr then
          { s with frontAddress := Function.update s.frontAddress socket none }
        else s, some (.eraseFront socket))
  | .eraseFront socket =>
      some ({ s with frontsockets := s.frontsockets.tail },
        some (if (s.task socket.owner).sock = some socket then .nextFront else .closing socket))
  | .closing _ => some (s, some .nextFront)
  | .testJoinable => some (s, some (if s.joinable then .testThreadId else .clearIdentity))
  | .testThreadId =>
      some (s, some (if s.recvPollThreadid = some thread then .clearIdentity else .join))
  | .join => s.recvthread.map fun session => (s, some (.joining session))
  | .joining session =>
      if s.poll session = .finished then
        some ({ s with joined := Function.update s.joined session true }, some .clearIdentity)
      else none
  | .clearIdentity => some ({ s with identity := none }, none)

-- `inr` is the value Init returns.
def initStep (s : ZmqClientBase) (env : Env) (connectStateFn recvFn : Option Nat) :
    InitPc → ZmqClientBase × (InitPc ⊕ Bool)
  | .testJoinable => (s, if s.joinable then .inr false else .inl .updateLastPong)
  | .updateLastPong =>
      ({ s with lastpong := s.build.getTick env.clock }, .inl .testAutoConnect)
  | .testAutoConnect =>
      (s, .inl (if s.bAutoConnect then .startTimer .testRunning else .setConnectStateFunc))
  | .startTimer pc =>
      ({ s with autoConnectTimer := (s.autoConnectTimer.startStep pc).1 },
        .inl (InitPc.afterStartTimer (s.autoConnectTimer.startStep pc).2))
  | .setConnectStateFunc => ({ s with connectStateFunc := connectStateFn }, .inl .setRecvFunc)
  | .setRecvFunc => ({ s with recvFunc := recvFn }, .inl .setUndefine)
  | .setUndefine => ({ s with transportState := .undefine }, .inl .newThread)
  | .newThread =>
      ({ s with
        sessions := s.sessions + 1
        started := Function.update s.started s.sessions (some (connectStateFn, recvFn)) },
        .inl (.storeThread s.sessions))
  | .storeThread session => ({ s with recvthread := some session }, .inl .testState)
  | .testState => (s, .inl (if s.transportState = .undefine then .testState else .readResult))
  | .readResult => (s, .inr (decide (EnumTransportState.undefine < s.transportState)))

def resetStep (s : ZmqClientBase) (thread : Tid) (env : Env) :
    ResetPc → Option (ZmqClientBase × Option ResetPc)
  | .stopTimer pc =>
      some ({ s with autoConnectTimer := (s.autoConnectTimer.stopStep pc).1 },
        some (.afterStopTimer (s.autoConnectTimer.stopStep pc).2))
  | .stop after pc =>
      (s.stopStep thread pc).map fun result => (result.1, some (.afterStop after result.2))
  | .setAddress addr connectStateFn recvFn =>
      some ({ s with address := addr }, some (.init connectStateFn recvFn .testJoinable))
  | .init connectStateFn recvFn pc =>
      some ((s.initStep env connectStateFn recvFn pc).1,
        some (.afterInit connectStateFn recvFn (s.initStep env connectStateFn recvFn pc).2))
  | .result _ => some (s, none)

-- SendData(buf, len, flags, sendSize); `env.ok` at `sending` is the result of Socket::Send.
def sendStep (s : ZmqClientBase) (thread : Tid) (env : Env) :
    SendPc → Option (ZmqClientBase × Option SendPc)
  | .testState =>
      some (s, some (if s.transportState < .transporting then .result false else .lockFront))
  | .lockFront =>
      if s.frontMutex = none then some ({ s with frontMutex := some thread }, some .lookup)
      else none
  | .lookup =>
      match lookupFront s.frontsockets thread with
      | some socket => some (s, some (.unlock (some socket)))
      | none =>
          if env.ok then
            some ({ s with
              frontsockets := touchFront s.frontsockets thread
              serial := s.serial + 1 }, some (.setup frontSetup ⟨thread, s.serial⟩))
          else
            some ({ s with frontsockets := touchFront s.frontsockets thread }, some (.unlock none))
  | .setup [] socket =>
      some ({ s with frontsockets := assignFront s.frontsockets thread socket },
        some (.unlock (some socket)))
  | .setup (.connect :: todo) socket =>
      some ({ s with
        frontAddress := Function.update s.frontAddress socket (some s.inprocAddress) },
        some (.inSetup todo socket))
  | .setup (_ :: todo) socket => some (s, some (.inSetup todo socket))
  | .inSetup todo socket => some (s, some (if env.ok then .setup todo socket else .abandoning socket))
  | .abandoning _ => some (s, some (.unlock none))
  | .unlock none => some ({ s with frontMutex := none }, some (.result false))
  | .unlock (some socket) => some ({ s with frontMutex := none }, some (.ready socket))
  | .ready socket => some (s, some (.sending socket))
  | .sending socket => some (s, some (.release socket env.ok))
  | .release socket value =>
      some (s, some (if (thread, some socket) ∈ s.frontsockets then .result value
        else .closing socket value))
  | .closing _ value => some (s, some (.result value))
  | .result _ => some (s, none)

def taskStep (s : ZmqClientBase) (thread : Tid) (env : Env) : Task → Option ZmqClientBase
  | .idle => none
  | .reset pc =>
      (s.resetStep thread env pc).map fun result =>
        result.1.setTask thread (result.2.elim .idle .reset)
  | .send pc =>
      (s.sendStep thread env pc).map fun result =>
        result.1.setTask thread (result.2.elim .idle .send)
  | .setAutoConnect value =>
      some ({ s with bAutoConnect := value }.setTask thread (.startTimer .testRunning))
  | .startTimer pc =>
      some ({ s with autoConnectTimer := (s.autoConnectTimer.startStep pc).1 }.setTask thread
        ((s.autoConnectTimer.startStep pc).2.elim .idle .startTimer))
  | .setHeartbeatInterval interval delay =>
      some ({ s with heartbeatInterval := interval * 1000 }.setTask thread
        (.setHeartbeatDelay delay))
  | .setHeartbeatDelay delay =>
      some ({ s with heartbeatDelay := delay * 1000 }.setTask thread .idle)

def recvPollStep (s : ZmqClientBase) (session : Nat) (env : Env) :
    RecvPollPc → Option (ZmqClientBase × RecvPollPc)
  | .clearStopMonitor => some ({ s with bStopMonitor := false }, .setThreadId)
  | .setThreadId => some ({ s with recvPollThreadid := some (.poll session) }, .newClientSocket)
  | .newClientSocket => some (s, if env.ok then .newBackSocket else .setFailed)
  | .newBackSocket => some (s, if env.ok then .makeIdentity else .setFailed)
  | .makeIdentity =>
      some ({ s with identity := s.identity.or (some env.uuid) }, .setMonitorSocket)
  | .setMonitorSocket => some (s, if env.ok then .setClientOptions else .setFailed)
  -- ZMQ_IDENTITY refuses an empty identity.
  | .setClientOptions =>
      some (s, if env.ok ∧ s.identity.isSome then .connectClient else .setFailed)
  | .connectClient =>
      if env.ok then
        some ({ s with
          clientAddress := Function.update s.clientAddress session (some s.address) },
          .setBackOptions)
      else some (s, .setFailed)
  | .setBackOptions => some (s, if env.ok then .setInprocAddress else .setFailed)
  | .setInprocAddress => some ({ s with inprocAddress := ⟨s.identity⟩ }, .bindBack)
  | .bindBack =>
      if env.ok then
        some ({ s with
          backAddress := Function.update s.backAddress session (some s.inprocAddress) }, .setRun)
      else some (s, .setFailed)
  | .setRun => some ({ s with bRun := true }, .setTransporting)
  | .setTransporting => some ({ s with transportState := .transporting }, .testRun)
  | .testRun => some (s, if s.bRun then .poll else .closeSockets)
  | .poll => some (s, afterPoll env.back env.client env.monitor)
  | .backSocketRecv client monitor => some (s, afterBack client monitor)
  | .updateLastPong monitor =>
      some ({ s with lastpong := s.build.getTick env.clock }, .recviov monitor)
  | .recviov monitor => some (s, if env.ok then .recvCallback monitor else afterClient monitor)
  | .recvCallback monitor =>
      match s.recvFunc with
      | none => some (s, afterClient monitor)
      | some func =>
          some ({ s with callbacks := s.callbacks ++ [(session, .recv func)] },
            .inRecvFunc monitor)
  | .inRecvFunc monitor =>
      if s.task (.poll session) = .idle then some (s, afterClient monitor) else none
  | .monitorRecv loop =>
      match env.event with
      | none => some (s, loop.next)
      | some .stopped => some ({ s with bStopMonitor := true }, loop.next)
      | some event =>
          some (s, if event.storesState then .storeState loop event else .connectCallback loop event)
  | .storeState loop event =>
      if event = .connected then
        some ({ s with transportState := .transported }, .connectCallback loop event)
      else some ({ s with transportState := .transportFailed }, .clearRun loop event)
  | .clearRun loop event => some ({ s with bRun := false }, .connectCallback loop event)
  | .connectCallback loop event =>
      match s.connectStateFunc with
      | none => some (s, loop.next)
      | some func =>
          some ({ s with
            callbacks := s.callbacks ++ [(session, .connectState func event.connectState)] },
            .inConnectStateFunc loop)
  | .inConnectStateFunc loop =>
      if s.task (.poll session) = .idle then some (s, loop.next) else none
  | .closeSockets =>
      some ({ s with backAddress := Function.update s.backAddress session none },
        .testStopMonitor 0)
  | .testStopMonitor timeoutCount =>
      some (s, if s.bStopMonitor then .setPollFinish else .monitorRecv (.drain timeoutCount))
  | .setPollFinish => some ({ s with transportState := .transportedPollFinish }, .finished)
  | .setFailed => some ({ s with transportState := .transportFailed }, .finished)
  | .finished => none

-- `none` as the next point is the return of AutoConnect.
def autoConnectStep (s : ZmqClientBase) (env : Env) :
    AutoConnectPc → ZmqClientBase × Option AutoConnectPc
  | .testAutoConnect =>
      (s, some (if s.bAutoConnect then .testInterval else .stopTimer .clearRunning))
  | .testInterval => (s, some (if 0 < s.heartbeatInterval then .getTick else .testState (-1)))
  | .getTick => (s, some (.readLastPong (s.build.getTick env.clock)))
  | .readLastPong nowtick =>
      (s, some (.testState (s.build.elapsed nowtick s.lastpong -
        ((s.heartbeatInterval + s.heartbeatDelay).toNat : Int))))
  | .testState value =>
      (s, if -1 < value ∨ s.transportState < .transporting then some .copyConnectStateFunc
        else none)
  | .copyConnectStateFunc => (s, some (.copyRecvFunc s.connectStateFunc))
  | .copyRecvFunc connectStateFunc => (s, some (.copyAddress connectStateFunc s.recvFunc))
  | .copyAddress connectStateFunc recvFunc =>
      (s.setTask .timer (.reset (.stop (.start s.address connectStateFunc recvFunc) .clearRun)),
        some .resetting)
  | .resetting => (s, none)
  | .stopTimer pc =>
      ({ s with autoConnectTimer := (s.autoConnectTimer.stopStep pc).1 },
        (s.autoConnectTimer.stopStep pc).2.map .stopTimer)

def timerStep (s : ZmqClientBase) (env : Env) :
    TimerWorker.OnTimeoutPc AutoConnectPc → Option ZmqClientBase
  | .workRoutine pc =>
      -- Reset runs as the timer thread's call; AutoConnect goes on when it has returned.
      if s.task .timer = .idle then
        some { (s.autoConnectStep env pc).1 with
          onTimeout := (s.autoConnectStep env pc).2.elim .post .workRoutine }
      else none
  | pc =>
      (s.autoConnectTimer.onTimeoutStep .testAutoConnect pc).map fun result =>
        { s with autoConnectTimer := result.1, onTimeout := result.2 }

def inCallback (s : ZmqClientBase) (session : Nat) : Bool :=
  match s.poll session with
  | .inRecvFunc _ | .inConnectStateFunc _ => decide (session < s.sessions)
  | _ => false

-- User threads call the client freely, poll threads from inside a callback.
def mayCall (s : ZmqClientBase) : Tid → Bool
  | .user _ => true
  | .timer => false
  | .poll session => s.inCallback session

def step (s : ZmqClientBase) (action : Action) : Option ZmqClientBase :=
  if s.crashed then none
  else
    match action with
    | .call thread call =>
        if s.task thread = .idle ∧ s.mayCall thread then some (s.setTask thread call.task) else none
    | .task thread env => s.taskStep thread env (s.task thread)
    | .recvPoll session env =>
        if session < s.sessions then
          (s.recvPollStep session env (s.poll session)).map fun result =>
            result.1.setPoll session result.2
        else none
    | .onTimeout env => s.timerStep env s.onTimeout

end ZmqClientBase

end Zmqcpp
