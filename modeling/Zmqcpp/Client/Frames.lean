import Zmqcpp.Client.Moves

set_option autoImplicit false

namespace Zmqcpp

namespace ZmqClientBase

variable {s : ZmqClientBase}

structure StopFrame (s stopped : ZmqClientBase) (pc : StopPc) : Prop where
  sessions : stopped.sessions = s.sessions
  recvthread : stopped.recvthread = s.recvthread
  poll : stopped.poll = s.poll
  task : stopped.task = s.task
  onTimeout : stopped.onTimeout = s.onTimeout
  autoConnectTimer : stopped.autoConnectTimer = s.autoConnectTimer
  inprocAddress : stopped.inprocAddress = s.inprocAddress
  backAddress : stopped.backAddress = s.backAddress
  serial : stopped.serial = s.serial
  bAutoConnect : stopped.bAutoConnect = s.bAutoConnect
  recvPollThreadid : stopped.recvPollThreadid = s.recvPollThreadid
  bRun : pc ≠ .clearRun → stopped.bRun = s.bRun
  transportState : pc ≠ .setUndefine → stopped.transportState = s.transportState
  frontMutex : pc ≠ .lockFront → pc ≠ .nextFront → stopped.frontMutex = s.frontMutex
  frontAddress : (∀ socket addr, pc ≠ .disconnecting socket addr) →
    stopped.frontAddress = s.frontAddress
  frontsockets : (∀ socket, pc ≠ .eraseFront socket) → stopped.frontsockets = s.frontsockets
  joined : (∀ session, pc ≠ .joining session) → stopped.joined = s.joined

theorem stopStep_frame {stopped : ZmqClientBase} {thread : Tid} {pc : StopPc}
    {rest : Option StopPc} (taken : s.stopStep thread pc = some (stopped, rest)) :
    StopFrame s stopped pc := by
  cases pc with
  | lockFront =>
      simp only [stopStep, Option.ite_none_right_eq_some] at taken
      obtain ⟨-, taken⟩ := taken
      cases taken
      constructor <;> simp
  | nextFront =>
      simp only [stopStep] at taken
      split at taken <;> cases taken <;> constructor <;> simp
  | disconnecting socket addr =>
      simp only [stopStep, Option.some.injEq, Prod.mk.injEq] at taken
      obtain ⟨rfl, -⟩ := taken
      split_ifs <;> constructor <;> simp
  | join =>
      simp only [stopStep, Option.map_eq_some_iff] at taken
      obtain ⟨session, -, taken⟩ := taken
      cases taken
      constructor <;> simp
  | joining session =>
      simp only [stopStep, Option.ite_none_right_eq_some] at taken
      obtain ⟨-, taken⟩ := taken
      cases taken
      constructor <;> simp
  | _ =>
      cases taken
      constructor <;> simp

structure InitFrame (s started : ZmqClientBase) (pc : InitPc) : Prop where
  bRun : started.bRun = s.bRun
  joined : started.joined = s.joined
  poll : started.poll = s.poll
  task : started.task = s.task
  onTimeout : started.onTimeout = s.onTimeout
  frontMutex : started.frontMutex = s.frontMutex
  frontsockets : started.frontsockets = s.frontsockets
  frontAddress : started.frontAddress = s.frontAddress
  inprocAddress : started.inprocAddress = s.inprocAddress
  backAddress : started.backAddress = s.backAddress
  serial : started.serial = s.serial
  bAutoConnect : started.bAutoConnect = s.bAutoConnect
  recvPollThreadid : started.recvPollThreadid = s.recvPollThreadid
  autoConnectTimer : (∀ start, pc ≠ .startTimer start) →
    started.autoConnectTimer = s.autoConnectTimer
  transportState : pc ≠ .setUndefine → started.transportState = s.transportState
  sessions : pc ≠ .newThread → started.sessions = s.sessions
  recvthread : (∀ session, pc ≠ .storeThread session) → started.recvthread = s.recvthread

theorem initStep_frame (s : ZmqClientBase) (env : Env) (connectStateFn recvFn : Option Nat)
    (pc : InitPc) : InitFrame s (s.initStep env connectStateFn recvFn pc).1 pc := by
  cases pc <;> constructor <;> simp [initStep]

structure SendFrame (s sent : ZmqClientBase) (pc : SendPc) : Prop where
  bRun : sent.bRun = s.bRun
  transportState : sent.transportState = s.transportState
  sessions : sent.sessions = s.sessions
  recvthread : sent.recvthread = s.recvthread
  joined : sent.joined = s.joined
  poll : sent.poll = s.poll
  task : sent.task = s.task
  onTimeout : sent.onTimeout = s.onTimeout
  autoConnectTimer : sent.autoConnectTimer = s.autoConnectTimer
  inprocAddress : sent.inprocAddress = s.inprocAddress
  backAddress : sent.backAddress = s.backAddress
  bAutoConnect : sent.bAutoConnect = s.bAutoConnect
  recvPollThreadid : sent.recvPollThreadid = s.recvPollThreadid
  frontMutex : pc ≠ .lockFront → (∀ socket, pc ≠ .unlock socket) → sent.frontMutex = s.frontMutex
  serial : pc ≠ .lookup → sent.serial = s.serial
  frontsockets : pc ≠ .lookup → (∀ socket, pc ≠ .setup [] socket) →
    sent.frontsockets = s.frontsockets
  frontAddress : (∀ todo socket, pc ≠ .setup (.connect :: todo) socket) →
    sent.frontAddress = s.frontAddress

theorem sendStep_frame {sent : ZmqClientBase} {thread : Tid} {env : Env} {pc : SendPc}
    {rest : Option SendPc} (taken : s.sendStep thread env pc = some (sent, rest)) :
    SendFrame s sent pc := by
  cases pc with
  | lockFront =>
      simp only [sendStep, Option.ite_none_right_eq_some] at taken
      obtain ⟨-, taken⟩ := taken
      cases taken
      constructor <;> simp
  | lookup =>
      simp only [sendStep] at taken
      split at taken
      · cases taken
        constructor <;> simp
      · split_ifs at taken <;> cases taken <;> constructor <;> simp
  | setup todo socket =>
      cases todo with
      | nil =>
          cases taken
          constructor <;> simp
      | cons first todo => cases first <;> cases taken <;> constructor <;> simp
  | unlock socket => cases socket <;> cases taken <;> constructor <;> simp
  | _ =>
      cases taken
      constructor <;> simp

structure RecvPollFrame (s polled : ZmqClientBase) (pc : RecvPollPc) : Prop where
  sessions : polled.sessions = s.sessions
  recvthread : polled.recvthread = s.recvthread
  joined : polled.joined = s.joined
  poll : polled.poll = s.poll
  task : polled.task = s.task
  onTimeout : polled.onTimeout = s.onTimeout
  autoConnectTimer : polled.autoConnectTimer = s.autoConnectTimer
  frontMutex : polled.frontMutex = s.frontMutex
  frontsockets : polled.frontsockets = s.frontsockets
  frontAddress : polled.frontAddress = s.frontAddress
  serial : polled.serial = s.serial
  bAutoConnect : polled.bAutoConnect = s.bAutoConnect
  recvPollThreadid : pc ≠ .setThreadId → polled.recvPollThreadid = s.recvPollThreadid
  inprocAddress : pc ≠ .setInprocAddress → polled.inprocAddress = s.inprocAddress
  backAddress : pc ≠ .bindBack → pc ≠ .closeSockets → polled.backAddress = s.backAddress
  bRun : pc ≠ .setRun → (∀ loop event, pc ≠ .clearRun loop event) → polled.bRun = s.bRun
  transportState : pc ≠ .setTransporting → (∀ loop event, pc ≠ .storeState loop event) →
    pc ≠ .setPollFinish → pc ≠ .setFailed → polled.transportState = s.transportState

theorem recvPollStep_frame {polled : ZmqClientBase} {session : Nat} {env : Env}
    {pc next : RecvPollPc} (taken : s.recvPollStep session env pc = some (polled, next)) :
    RecvPollFrame s polled pc := by
  cases pc with
  | connectClient | bindBack | storeState =>
      simp only [recvPollStep] at taken
      split_ifs at taken <;> cases taken <;> constructor <;> simp
  | recvCallback | monitorRecv | connectCallback =>
      simp only [recvPollStep] at taken
      split at taken <;> cases taken <;> constructor <;> simp
  | inRecvFunc | inConnectStateFunc =>
      simp only [recvPollStep, Option.ite_none_right_eq_some] at taken
      obtain ⟨-, taken⟩ := taken
      cases taken
      constructor <;> simp
  | finished => simp [recvPollStep] at taken
  | _ =>
      cases taken
      constructor <;> simp

-- AutoConnect itself writes the timer at most; a Reset it calls goes further.
structure AutoConnectFrame (s connected : ZmqClientBase) (pc : AutoConnectPc) : Prop where
  bRun : connected.bRun = s.bRun
  transportState : connected.transportState = s.transportState
  sessions : connected.sessions = s.sessions
  recvthread : connected.recvthread = s.recvthread
  joined : connected.joined = s.joined
  poll : connected.poll = s.poll
  frontMutex : connected.frontMutex = s.frontMutex
  frontsockets : connected.frontsockets = s.frontsockets
  frontAddress : connected.frontAddress = s.frontAddress
  inprocAddress : connected.inprocAddress = s.inprocAddress
  backAddress : connected.backAddress = s.backAddress
  serial : connected.serial = s.serial
  bAutoConnect : connected.bAutoConnect = s.bAutoConnect
  recvPollThreadid : connected.recvPollThreadid = s.recvPollThreadid
  autoConnectTimer : (∀ stop, pc ≠ .stopTimer stop) →
    connected.autoConnectTimer = s.autoConnectTimer
  task : (∀ connectStateFunc recvFunc, pc ≠ .copyAddress connectStateFunc recvFunc) →
    connected.task = s.task

theorem autoConnectStep_frame (s : ZmqClientBase) (env : Env) (pc : AutoConnectPc) :
    AutoConnectFrame s (s.autoConnectStep env pc).1 pc := by
  cases pc <;> constructor <;> simp [autoConnectStep, setTask]

end ZmqClientBase

end Zmqcpp
