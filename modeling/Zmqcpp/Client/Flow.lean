import Zmqcpp.Client.Frames

set_option autoImplicit false

namespace Zmqcpp

namespace ZmqClientBase

variable {s next : ZmqClientBase} {action : Action}

inductive StopFlow (s : ZmqClientBase) (thread : Tid) : StopPc → Option StopPc → Prop
  | clearRun : StopFlow s thread .clearRun (some .setUndefine)
  | setUndefine : StopFlow s thread .setUndefine (some .lockFront)
  | lockFront (free : s.frontMutex = none) : StopFlow s thread .lockFront (some .nextFront)
  | empty (entries : s.frontsockets = []) : StopFlow s thread .nextFront (some .testJoinable)
  | null (owner : Tid) (rest : List (Tid × Option FrontSocket))
      (entries : s.frontsockets = (owner, none) :: rest) :
      StopFlow s thread .nextFront (some .nextFront)
  | head (owner : Tid) (socket : FrontSocket) (rest : List (Tid × Option FrontSocket))
      (entries : s.frontsockets = (owner, some socket) :: rest) :
      StopFlow s thread .nextFront (some (.disconnecting socket s.inprocAddress))
  | disconnected (socket : FrontSocket) (addr : InprocAddress) :
      StopFlow s thread (.disconnecting socket addr) (some (.eraseFront socket))
  | held (socket : FrontSocket) : StopFlow s thread (.eraseFront socket) (some .nextFront)
  | unheld (socket : FrontSocket) :
      StopFlow s thread (.eraseFront socket) (some (.closing socket))
  | closed (socket : FrontSocket) : StopFlow s thread (.closing socket) (some .nextFront)
  | joinable (joinable : s.joinable = true) : StopFlow s thread .testJoinable (some .testThreadId)
  | notJoinable (joinable : s.joinable = false) :
      StopFlow s thread .testJoinable (some .clearIdentity)
  | samePollThread (same : s.recvPollThreadid = some thread) :
      StopFlow s thread .testThreadId (some .clearIdentity)
  | otherThread : StopFlow s thread .testThreadId (some .join)
  | join (session : Nat) (stored : s.recvthread = some session) :
      StopFlow s thread .join (some (.joining session))
  | joined (session : Nat) (finished : s.poll session = .finished) :
      StopFlow s thread (.joining session) (some .clearIdentity)
  | clearIdentity : StopFlow s thread .clearIdentity none

theorem stopStep_flow {stopped : ZmqClientBase} {thread : Tid} {pc : StopPc} {rest : Option StopPc}
    (taken : s.stopStep thread pc = some (stopped, rest)) : StopFlow s thread pc rest := by
  cases pc with
  | lockFront =>
      simp only [stopStep, Option.ite_none_right_eq_some] at taken
      obtain ⟨free, taken⟩ := taken
      cases taken
      exact .lockFront free
  | nextFront =>
      simp only [stopStep] at taken
      split at taken
      · next entries =>
          cases taken
          exact .empty entries
      · next owner rest entries =>
          cases taken
          exact .null owner rest entries
      · next owner socket rest entries =>
          cases taken
          exact .head owner socket rest entries
  | disconnecting socket addr =>
      simp only [stopStep, Option.some.injEq, Prod.mk.injEq] at taken
      obtain ⟨-, rfl⟩ := taken
      exact .disconnected socket addr
  | eraseFront socket =>
      cases taken
      split_ifs
      · exact .held socket
      · exact .unheld socket
  | closing socket =>
      cases taken
      exact .closed socket
  | testJoinable =>
      cases taken
      cases joinable : s.joinable with
      | true => exact .joinable joinable
      | false => exact .notJoinable joinable
  | testThreadId =>
      cases taken
      split_ifs with same
      · exact .samePollThread same
      · exact .otherThread
  | join =>
      simp only [stopStep, Option.map_eq_some_iff] at taken
      obtain ⟨session, stored, taken⟩ := taken
      cases taken
      exact .join session stored
  | joining session =>
      simp only [stopStep, Option.ite_none_right_eq_some] at taken
      obtain ⟨finished, taken⟩ := taken
      cases taken
      exact .joined session finished
  | clearRun =>
      cases taken
      exact .clearRun
  | setUndefine =>
      cases taken
      exact .setUndefine
  | clearIdentity =>
      cases taken
      exact .clearIdentity

inductive SendFlow (s : ZmqClientBase) (thread : Tid) : SendPc → Option SendPc → Prop
  | refused (low : s.transportState < .transporting) :
      SendFlow s thread .testState (some (.result false))
  | accepted : SendFlow s thread .testState (some .lockFront)
  | lockFront (free : s.frontMutex = none) : SendFlow s thread .lockFront (some .lookup)
  | found (socket : FrontSocket) (member : (thread, some socket) ∈ s.frontsockets) :
      SendFlow s thread .lookup (some (.unlock (some socket)))
  | created : SendFlow s thread .lookup (some (.setup frontSetup ⟨thread, s.serial⟩))
  | notCreated : SendFlow s thread .lookup (some (.unlock none))
  | stored (socket : FrontSocket) :
      SendFlow s thread (.setup [] socket) (some (.unlock (some socket)))
  | setup (first : FrontSetup) (todo : List FrontSetup) (socket : FrontSocket) :
      SendFlow s thread (.setup (first :: todo) socket) (some (.inSetup todo socket))
  | done (todo : List FrontSetup) (socket : FrontSocket) :
      SendFlow s thread (.inSetup todo socket) (some (.setup todo socket))
  | failed (todo : List FrontSetup) (socket : FrontSocket) :
      SendFlow s thread (.inSetup todo socket) (some (.abandoning socket))
  | abandoned (socket : FrontSocket) : SendFlow s thread (.abandoning socket) (some (.unlock none))
  | noSocket : SendFlow s thread (.unlock none) (some (.result false))
  | ready (socket : FrontSocket) : SendFlow s thread (.unlock (some socket)) (some (.ready socket))
  | sending (socket : FrontSocket) : SendFlow s thread (.ready socket) (some (.sending socket))
  | sent (socket : FrontSocket) (value : Bool) :
      SendFlow s thread (.sending socket) (some (.release socket value))
  | released (socket : FrontSocket) (value : Bool) :
      SendFlow s thread (.release socket value) (some (.result value))
  | closing (socket : FrontSocket) (value : Bool) (gone : (thread, some socket) ∉ s.frontsockets) :
      SendFlow s thread (.release socket value) (some (.closing socket value))
  | closed (socket : FrontSocket) (value : Bool) :
      SendFlow s thread (.closing socket value) (some (.result value))
  | result (value : Bool) : SendFlow s thread (.result value) none

theorem mem_lookupFront {frontsockets : List (Tid × Option FrontSocket)} {thread : Tid}
    {socket : FrontSocket} (found : lookupFront frontsockets thread = some socket) :
    (thread, some socket) ∈ frontsockets := by
  unfold lookupFront at found
  cases here : frontsockets.lookup thread with
  | none => simp [here] at found
  | some entry =>
      rw [here] at found
      simp only [Option.join_some] at found
      subst found
      obtain ⟨before, after, same, -⟩ := List.lookup_eq_some_iff.mp here
      simp [same]

theorem sendStep_flow {sent : ZmqClientBase} {thread : Tid} {env : Env} {pc : SendPc}
    {rest : Option SendPc} (taken : s.sendStep thread env pc = some (sent, rest)) :
    SendFlow s thread pc rest := by
  cases pc with
  | testState =>
      cases taken
      split_ifs with low
      · exact .refused low
      · exact .accepted
  | lockFront =>
      simp only [sendStep, Option.ite_none_right_eq_some] at taken
      obtain ⟨free, taken⟩ := taken
      cases taken
      exact .lockFront free
  | lookup =>
      simp only [sendStep] at taken
      split at taken
      · next socket found =>
          cases taken
          exact .found socket (mem_lookupFront found)
      · split_ifs at taken <;> cases taken
        · exact .created
        · exact .notCreated
  | setup todo socket =>
      cases todo with
      | nil =>
          cases taken
          exact .stored socket
      | cons first todo => cases first <;> cases taken <;> exact .setup _ todo socket
  | inSetup todo socket =>
      cases taken
      split_ifs
      · exact .done todo socket
      · exact .failed todo socket
  | abandoning socket =>
      cases taken
      exact .abandoned socket
  | unlock held =>
      cases held with
      | none =>
          cases taken
          exact .noSocket
      | some socket =>
          cases taken
          exact .ready socket
  | ready socket =>
      cases taken
      exact .sending socket
  | sending socket =>
      cases taken
      exact .sent socket env.ok
  | release socket value =>
      cases taken
      split_ifs with member
      · exact .released socket value
      · exact .closing socket value member
  | closing socket value =>
      cases taken
      exact .closed socket value
  | result value =>
      cases taken
      exact .result value

inductive InitFlow (s : ZmqClientBase) : InitPc → InitPc → Prop
  | free (free : s.joinable = false) : InitFlow s .testJoinable .updateLastPong
  | updated : InitFlow s .updateLastPong .testAutoConnect
  | autoConnect : InitFlow s .testAutoConnect (.startTimer .testRunning)
  | noAutoConnect : InitFlow s .testAutoConnect .setConnectStateFunc
  | starting (before after : TimerWorker.StartPc) :
      InitFlow s (.startTimer before) (.startTimer after)
  | started (before : TimerWorker.StartPc) : InitFlow s (.startTimer before) .setConnectStateFunc
  | setConnectStateFunc : InitFlow s .setConnectStateFunc .setRecvFunc
  | setRecvFunc : InitFlow s .setRecvFunc .setUndefine
  | setUndefine : InitFlow s .setUndefine .newThread
  | newThread : InitFlow s .newThread (.storeThread s.sessions)
  | storeThread (session : Nat) : InitFlow s (.storeThread session) .testState
  | waits (undefine : s.transportState = .undefine) : InitFlow s .testState .testState
  | sampled (ends : s.transportState ≠ .undefine) : InitFlow s .testState .readResult

theorem initStep_flow {env : Env} {connectStateFn recvFn : Option Nat} {before pc : InitPc}
    (moved : (s.initStep env connectStateFn recvFn before).2 = .inl pc) : InitFlow s before pc := by
  cases before with
  | testJoinable =>
      simp only [initStep] at moved
      split_ifs at moved with busy
      cases moved
      exact .free (by simpa using busy)
  | updateLastPong =>
      cases moved
      exact .updated
  | testAutoConnect =>
      simp only [initStep] at moved
      split_ifs at moved <;> cases moved
      · exact .autoConnect
      · exact .noAutoConnect
  | startTimer before =>
      simp only [initStep, Sum.inl.injEq] at moved
      subst moved
      cases (s.autoConnectTimer.startStep before).2 with
      | none => exact .started before
      | some after => exact .starting before after
  | setConnectStateFunc =>
      cases moved
      exact .setConnectStateFunc
  | setRecvFunc =>
      cases moved
      exact .setRecvFunc
  | setUndefine =>
      cases moved
      exact .setUndefine
  | newThread =>
      cases moved
      exact .newThread
  | storeThread session =>
      cases moved
      exact .storeThread session
  | testState =>
      simp only [initStep, Sum.inl.injEq] at moved
      split_ifs at moved with undefine <;> cases moved
      · exact .waits undefine
      · exact .sampled undefine
  | readResult => cases moved

inductive Flow (s : ZmqClientBase) (thread : Tid) : Task → Task → Prop
  | stopTimer (pc : TimerWorker.StopPc) (rest : Option TimerWorker.StopPc) :
      Flow s thread (.reset (.stopTimer pc)) (.reset (.afterStopTimer rest))
  | stop (after : AfterStop) (pc : StopPc) (rest : Option StopPc)
      (flow : StopFlow s thread pc rest) :
      Flow s thread (.reset (.stop after pc)) (.reset (.afterStop after rest))
  | setAddress (addr : String) (connectStateFn recvFn : Option Nat) :
      Flow s thread (.reset (.setAddress addr connectStateFn recvFn))
        (.reset (.init connectStateFn recvFn .testJoinable))
  | init (env : Env) (connectStateFn recvFn : Option Nat) (pc : InitPc) :
      Flow s thread (.reset (.init connectStateFn recvFn pc))
        (.reset (.afterInit connectStateFn recvFn (s.initStep env connectStateFn recvFn pc).2))
  | result (value : Bool) : Flow s thread (.reset (.result value)) .idle
  | send (pc : SendPc) (rest : Option SendPc) (flow : SendFlow s thread pc rest) :
      Flow s thread (.send pc) (rest.elim .idle .send)
  | setAutoConnect (value : Bool) :
      Flow s thread (.setAutoConnect value) (.startTimer .testRunning)
  | startTimer (pc : TimerWorker.StartPc) (rest : Option TimerWorker.StartPc) :
      Flow s thread (.startTimer pc) (rest.elim .idle .startTimer)
  | setHeartbeatInterval (interval delay : UInt32) :
      Flow s thread (.setHeartbeatInterval interval delay) (.setHeartbeatDelay delay)
  | setHeartbeatDelay (delay : UInt32) : Flow s thread (.setHeartbeatDelay delay) .idle

/-- A thread's task is moved by its calls, its own steps and, for the timer, by AutoConnect. -/
inductive TaskMoves (s : ZmqClientBase) (action : Action) (next : ZmqClientBase) (thread : Tid) : Prop
  | same (same : next.task thread = s.task thread)
  | call (call : Call) (called : action = .call thread call) (idle : s.task thread = .idle)
      (task : next.task thread = call.task)
  | flow (env : Env) (own : action = .task thread env)
      (flow : Flow s thread (s.task thread) (next.task thread))
  | autoConnect (env : Env) (connectStateFunc recvFunc : Option Nat) (timer : thread = .timer)
      (ticked : action = .onTimeout env)
      (here : s.onTimeout = .workRoutine (.copyAddress connectStateFunc recvFunc))
      (task : next.task thread = .reset (.stop (.start s.address connectStateFunc recvFunc) .clearRun))
      (idle : s.task thread = .idle)

theorem step_task (thread : Tid) (taken : s.step action = some next) :
    TaskMoves s action next thread := by
  have own {task : Task} {moved : ZmqClientBase} {other : Tid} {env : Env}
      (flow : Flow s other (s.task other) task) (same : moved.task = s.task) :
      TaskMoves s (.task other env) (moved.setTask other task) thread := by
    by_cases mine : thread = other
    · subst mine
      refine .flow env rfl ?_
      simpa using flow
    · refine .same ?_
      simp [mine, same]
  cases step_moves taken with
  | call other call idle =>
      by_cases mine : thread = other
      · subst mine
        exact .call call rfl idle (by simp)
      · exact .same (by simp [mine])
  | stopTimer other env pc here => exact own (here ▸ .stopTimer pc _) rfl
  | stop other env after pc stopped rest here moved =>
      exact own (here ▸ .stop after pc rest (stopStep_flow moved)) (stopStep_frame moved).task
  | setAddress other env addr connectStateFn recvFn here =>
      exact own (here ▸ .setAddress addr connectStateFn recvFn) rfl
  | init other env connectStateFn recvFn pc here =>
      exact own (here ▸ .init env connectStateFn recvFn pc)
        (initStep_frame s env connectStateFn recvFn pc).task
  | result other env value here => exact own (here ▸ .result value) rfl
  | send other env pc sent rest here moved =>
      exact own (here ▸ .send pc rest (sendStep_flow moved)) (sendStep_frame moved).task
  | setAutoConnect other env value here => exact own (here ▸ .setAutoConnect value) rfl
  | startTimer other env pc here => exact own (here ▸ .startTimer pc _) rfl
  | setHeartbeatInterval other env interval delay here =>
      exact own (here ▸ .setHeartbeatInterval interval delay) rfl
  | setHeartbeatDelay other env delay here => exact own (here ▸ .setHeartbeatDelay delay) rfl
  | recvPoll session env polled pc created moved =>
      exact .same (congrFun (recvPollStep_frame moved).task thread)
  | autoConnect env pc here idle =>
      cases pc with
      | copyAddress connectStateFunc recvFunc =>
          by_cases mine : thread = .timer
          · subst mine
            exact .autoConnect env connectStateFunc recvFunc rfl rfl here
              (by simp [autoConnectStep]) idle
          · exact .same (by simp [autoConnectStep, mine])
      | _ => exact .same rfl
  | onTimeout env timer pc moved => exact .same rfl

theorem step_into_init {thread : Tid} {connectStateFn recvFn : Option Nat} {pc : InitPc}
    (taken : s.step action = some next)
    (entered : next.task thread = .reset (.init connectStateFn recvFn pc)) :
    s.task thread = .reset (.init connectStateFn recvFn pc) ∨
      (pc = .testJoinable ∧ ∃ env addr, action = .task thread env ∧
        s.task thread = .reset (.setAddress addr connectStateFn recvFn)) ∨
      ∃ env before, action = .task thread env ∧
        s.task thread = .reset (.init connectStateFn recvFn before) ∧ InitFlow s before pc := by
  cases step_task thread taken with
  | same same => exact .inl (same.symm.trans entered)
  | call call called idle task =>
      rw [task] at entered
      cases call <;> cases entered
  | flow env own flow =>
      subst own
      generalize here : s.task thread = task at flow
      rw [entered] at flow
      generalize reached : Task.reset (.init connectStateFn recvFn pc) = after at flow
      cases flow with
      | stopTimer pc rest => cases rest <;> cases reached
      | stop after pc rest flow =>
          cases rest with
          | some pc => cases reached
          | none => cases after <;> cases reached
      | setAddress addr =>
          cases reached
          exact .inr (.inl ⟨rfl, env, addr, rfl, rfl⟩)
      | init env' connectStateFn' recvFn' before =>
          rw [step_init here taken, setTask_task, Function.update_self] at entered
          cases moved : (s.initStep env connectStateFn' recvFn' before).2 with
          | inr value =>
              rw [moved] at entered
              cases entered
          | inl pc =>
              rw [moved] at entered
              cases entered
              exact .inr (.inr ⟨env, before, rfl, rfl, initStep_flow moved⟩)
      | send pc rest => cases rest <;> cases reached
      | startTimer pc rest => cases rest <;> cases reached
      | _ => cases reached
  | autoConnect env connectStateFunc recvFunc timer ticked here task =>
      rw [task] at entered
      cases entered

theorem step_into_stop {thread : Tid} {after : AfterStop} {pc : StopPc}
    (taken : s.step action = some next) (entered : next.task thread = .reset (.stop after pc)) :
    s.task thread = .reset (.stop after pc) ∨ pc = .clearRun ∨
      ∃ env before, action = .task thread env ∧ s.task thread = .reset (.stop after before) ∧
        StopFlow s thread before (some pc) := by
  cases step_task thread taken with
  | same same => exact .inl (same.symm.trans entered)
  | call call called idle task =>
      rw [task] at entered
      cases call <;> cases entered <;> exact .inr (.inl rfl)
  | flow env own flow =>
      subst own
      generalize s.task thread = task at flow
      rw [entered] at flow
      generalize reached : Task.reset (.stop after pc) = arrived at flow
      cases flow with
      | stopTimer timer rest =>
          cases rest <;> cases reached
          exact .inr (.inl rfl)
      | stop earlier before rest flow =>
          cases rest with
          | some later =>
              cases reached
              exact .inr (.inr ⟨env, before, rfl, rfl, flow⟩)
          | none => cases earlier <;> cases reached
      | init env' connectStateFn recvFn before =>
          generalize (s.initStep env' connectStateFn recvFn before).2 = ended at reached
          cases ended <;> cases reached
      | send pc rest => cases rest <;> cases reached
      | startTimer pc rest => cases rest <;> cases reached
      | _ => cases reached
  | autoConnect env connectStateFunc recvFunc timer ticked here task =>
      rw [task] at entered
      cases entered
      exact .inr (.inl rfl)

inductive AutoConnectFlow (s : ZmqClientBase) (env : Env) :
    AutoConnectPc → Option AutoConnectPc → Prop
  | enabled (autoConnect : s.bAutoConnect = true) :
      AutoConnectFlow s env .testAutoConnect (some .testInterval)
  | disabled (autoConnect : s.bAutoConnect = false) :
      AutoConnectFlow s env .testAutoConnect (some (.stopTimer .clearRunning))
  | interval (positive : 0 < s.heartbeatInterval) :
      AutoConnectFlow s env .testInterval (some .getTick)
  | noInterval : AutoConnectFlow s env .testInterval (some (.testState (-1)))
  | getTick : AutoConnectFlow s env .getTick (some (.readLastPong (s.build.getTick env.clock)))
  | readLastPong (nowtick : UInt32) : AutoConnectFlow s env (.readLastPong nowtick)
      (some (.testState (s.build.elapsed nowtick s.lastpong -
        ((s.heartbeatInterval + s.heartbeatDelay).toNat : Int))))
  | down (value : Int) : AutoConnectFlow s env (.testState value) (some .copyConnectStateFunc)
  | up (value : Int) : AutoConnectFlow s env (.testState value) none
  | copyConnectStateFunc :
      AutoConnectFlow s env .copyConnectStateFunc (some (.copyRecvFunc s.connectStateFunc))
  | copyRecvFunc (connectStateFunc : Option Nat) :
      AutoConnectFlow s env (.copyRecvFunc connectStateFunc)
        (some (.copyAddress connectStateFunc s.recvFunc))
  | copyAddress (connectStateFunc recvFunc : Option Nat) :
      AutoConnectFlow s env (.copyAddress connectStateFunc recvFunc) (some .resetting)
  | resetting : AutoConnectFlow s env .resetting none
  | clearRunning :
      AutoConnectFlow s env (.stopTimer .clearRunning) (some (.stopTimer .interrupt))
  | interrupt : AutoConnectFlow s env (.stopTimer .interrupt) none

theorem autoConnectStep_flow (s : ZmqClientBase) (env : Env) (pc : AutoConnectPc) :
    AutoConnectFlow s env pc (s.autoConnectStep env pc).2 := by
  cases pc with
  | testAutoConnect =>
      cases autoConnect : s.bAutoConnect with
      | true =>
          simp only [autoConnectStep, autoConnect, if_true]
          exact .enabled autoConnect
      | false =>
          simp only [autoConnectStep, autoConnect, Bool.false_eq_true, if_false]
          exact .disabled autoConnect
  | testInterval =>
      simp only [autoConnectStep]
      split_ifs with positive
      · exact .interval positive
      · exact .noInterval
  | testState value =>
      simp only [autoConnectStep]
      split_ifs
      · exact .down value
      · exact .up value
  | getTick => exact .getTick
  | readLastPong nowtick => exact .readLastPong nowtick
  | copyConnectStateFunc => exact .copyConnectStateFunc
  | copyRecvFunc connectStateFunc => exact .copyRecvFunc connectStateFunc
  | copyAddress connectStateFunc recvFunc => exact .copyAddress connectStateFunc recvFunc
  | resetting => exact .resetting
  | stopTimer pc =>
      cases pc with
      | clearRunning => exact .clearRunning
      | interrupt => exact .interrupt

theorem step_into_workRoutine {pc : AutoConnectPc} (taken : s.step action = some next)
    (entered : next.onTimeout = .workRoutine pc) :
    s.onTimeout = .workRoutine pc ∧ (∀ env, action ≠ .onTimeout env) ∨
      pc = .testAutoConnect ∨
      ∃ env before, action = .onTimeout env ∧ s.onTimeout = .workRoutine before ∧
        AutoConnectFlow s env before (some pc) := by
  cases step_moves taken with
  | stop thread env after stopPc stopped rest here moved =>
      left
      exact ⟨(stopStep_frame moved).onTimeout.symm.trans entered, by simp⟩
  | init thread env connectStateFn recvFn initPc =>
      left
      exact ⟨(initStep_frame s env connectStateFn recvFn initPc).onTimeout.symm.trans entered, by simp⟩
  | send thread env sendPc sent rest here moved =>
      left
      exact ⟨(sendStep_frame moved).onTimeout.symm.trans entered, by simp⟩
  | recvPoll session env polled pollPc created moved =>
      left
      exact ⟨(recvPollStep_frame moved).onTimeout.symm.trans entered, by simp⟩
  | autoConnect env before here idle =>
      right
      right
      refine ⟨env, before, rfl, here, ?_⟩
      have flow := autoConnectStep_flow s env before
      cases moved : (s.autoConnectStep env before).2 with
      | none => simp [moved] at entered
      | some after =>
          rw [moved] at flow
          simp only [moved, Option.elim_some, TimerWorker.OnTimeoutPc.workRoutine.injEq] at entered
          exact entered ▸ flow
  | onTimeout env timer after moved =>
      right
      left
      simp only at entered
      rw [entered] at moved
      exact (TimerWorker.onTimeoutStep_workRoutine moved).1
  | _ => exact .inl ⟨entered, by simp⟩

theorem step_autoConnect {env : Env} {pc : AutoConnectPc} (here : s.onTimeout = .workRoutine pc)
    (taken : s.step (.onTimeout env) = some next) :
    s.task .timer = .idle ∧ next = { (s.autoConnectStep env pc).1 with
      onTimeout := (s.autoConnectStep env pc).2.elim .post .workRoutine } := by
  have running := step_not_crashed taken
  rw [step, if_neg (by simp [running])] at taken
  simp only [here, timerStep, Option.ite_none_right_eq_some, Option.some.injEq] at taken
  exact ⟨taken.1, taken.2.symm⟩

theorem step_onTimeout_other (taken : s.step action = some next)
    (other : ∀ env, action ≠ .onTimeout env) : next.onTimeout = s.onTimeout := by
  cases step_moves taken with
  | stop thread env after pc stopped rest here moved => exact (stopStep_frame moved).onTimeout
  | init thread env connectStateFn recvFn pc =>
      exact (initStep_frame s env connectStateFn recvFn pc).onTimeout
  | send thread env pc sent rest here moved => exact (sendStep_frame moved).onTimeout
  | recvPoll session env polled pc created moved => exact (recvPollStep_frame moved).onTimeout
  | autoConnect env => exact absurd rfl (other env)
  | onTimeout env => exact absurd rfl (other env)
  | _ => rfl

/-- The timer thread is in a call only while AutoConnect waits for its Reset. -/
def TimerInReset (s : ZmqClientBase) : Prop :=
  s.task .timer ≠ .idle → s.onTimeout = .workRoutine .resetting

theorem TimerInReset.step (inReset : s.TimerInReset) (taken : s.step action = some next) :
    next.TimerInReset := by
  intro busy
  have kept (waiting : s.task .timer ≠ .idle) (other : ∀ env, action ≠ .onTimeout env) :
      next.onTimeout = .workRoutine .resetting :=
    (step_onTimeout_other taken other).trans (inReset waiting)
  cases step_task .timer taken with
  | same same =>
      rw [same] at busy
      apply kept busy
      rintro env rfl
      exact busy (step_autoConnect (inReset busy) taken).1
  | call call called =>
      subst called
      cases step_moves taken with
      | call _ _ _ may => cases may
  | flow env own flow =>
      apply kept
      · intro idle
        rw [idle] at flow
        cases flow
      · simp [own]
  | autoConnect env connectStateFunc recvFunc timer ticked here =>
      subst ticked
      rw [(step_autoConnect here taken).2]
      rfl

theorem StopFlow.past {thread : Tid} {pc : StopPc} {rest : Option StopPc}
    (flow : StopFlow s thread pc rest) (past : rest = some .clearIdentity ∨ rest = none) :
    pc = .testJoinable ∧ s.joinable = false ∨
      pc = .testThreadId ∧ s.recvPollThreadid = some thread ∨
      (∃ session, pc = .joining session ∧ s.poll session = .finished) ∨ pc = .clearIdentity := by
  cases flow with
  | notJoinable joinable => exact .inl ⟨rfl, joinable⟩
  | samePollThread same => exact .inr (.inl ⟨rfl, same⟩)
  | joined session finished => exact .inr (.inr (.inl ⟨session, rfl, finished⟩))
  | clearIdentity => exact .inr (.inr (.inr rfl))
  | _ => simp at past

theorem StopFlow.joining {thread : Tid} {pc : StopPc} {session : Nat}
    (flow : StopFlow s thread pc (some (.joining session))) : s.recvthread = some session := by
  cases flow with
  | join session stored => exact stored

end ZmqClientBase

end Zmqcpp
