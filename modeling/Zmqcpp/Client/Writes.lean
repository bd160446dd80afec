import Zmqcpp.Client.Flow

set_option autoImplicit false

namespace Zmqcpp

def MonitorLoop.stage : MonitorLoop → Nat
  | .poll => 4
  | .drain _ => 5

/-- How far RecvPoll has come: its set-up up to the address, the bind, the two stores, the poll
loop until the sockets are closed, the drain loop, the last store. -/
def RecvPollPc.stage : RecvPollPc → Nat
  | .clearStopMonitor | .setThreadId | .newClientSocket | .newBackSocket | .makeIdentity
  | .setMonitorSocket | .setClientOptions | .connectClient | .setBackOptions
  | .setInprocAddress => 0
  | .bindBack => 1
  | .setRun => 2
  | .setTransporting => 3
  | .testRun | .poll | .backSocketRecv _ _ | .updateLastPong _ | .recviov _ | .recvCallback _
  | .inRecvFunc _ | .closeSockets => 4
  | .monitorRecv loop | .storeState loop _ | .clearRun loop _ | .connectCallback loop _
  | .inConnectStateFunc loop => loop.stage
  | .testStopMonitor _ => 5
  | .setPollFinish | .setFailed => 6
  | .finished => 7

def RecvPollPc.inSetup (pc : RecvPollPc) : Bool := decide (pc.stage ≤ 2)

theorem MonitorLoop.stage_le_next (loop : MonitorLoop) : loop.stage ≤ loop.next.stage := by
  cases loop with
  | poll => exact le_refl 4
  | drain timeoutCount =>
      simp only [MonitorLoop.next]
      split_ifs <;> simp [MonitorLoop.stage, RecvPollPc.stage]

theorem afterClient_stage (monitor : Bool) : (afterClient monitor).stage = 4 := by
  cases monitor <;> rfl

theorem afterBack_stage (client monitor : Bool) : (afterBack client monitor).stage = 4 := by
  cases client <;> cases monitor <;> rfl

theorem afterPoll_stage (back client monitor : Bool) : (afterPoll back client monitor).stage = 4 := by
  cases back <;> cases client <;> cases monitor <;> rfl

namespace ZmqClientBase

variable {s next : ZmqClientBase} {action : Action}

theorem step_sessions (taken : s.step action = some next) :
    next.sessions = s.sessions ∨
      ∃ thread env connectStateFn recvFn, action = .task thread env ∧
        s.task thread = .reset (.init connectStateFn recvFn .newThread) ∧
        next.sessions = s.sessions + 1 := by
  cases step_moves taken with
  | stop thread env after pc stopped rest here moved => exact .inl (stopStep_frame moved).sessions
  | init thread env connectStateFn recvFn pc here =>
      by_cases starts : pc = .newThread
      · subst starts
        exact .inr ⟨thread, env, connectStateFn, recvFn, rfl, here, rfl⟩
      · exact .inl ((initStep_frame s env connectStateFn recvFn pc).sessions starts)
  | send thread env pc sent rest here moved => exact .inl (sendStep_frame moved).sessions
  | recvPoll session env polled pc created moved => exact .inl (recvPollStep_frame moved).sessions
  | autoConnect env pc => exact .inl (autoConnectStep_frame s env pc).sessions
  | _ => exact .inl rfl

theorem step_poll (session : Nat) (taken : s.step action = some next) :
    next.poll session = s.poll session ∨
      ∃ env polled pc, action = .recvPoll session env ∧ session < s.sessions ∧
        s.recvPollStep session env (s.poll session) = some (polled, pc) ∧
        next = polled.setPoll session pc := by
  cases step_moves taken with
  | stop thread env after pc stopped rest here moved =>
      exact .inl (congrFun (stopStep_frame moved).poll session)
  | init thread env connectStateFn recvFn pc =>
      exact .inl (congrFun (initStep_frame s env connectStateFn recvFn pc).poll session)
  | send thread env pc sent rest here moved =>
      exact .inl (congrFun (sendStep_frame moved).poll session)
  | recvPoll number env polled pc created moved =>
      by_cases same : session = number
      · subst same
        exact .inr ⟨env, polled, pc, rfl, created, moved, rfl⟩
      · left
        rw [setPoll_poll, Function.update_of_ne same, (recvPollStep_frame moved).poll]
  | autoConnect env pc => exact .inl (congrFun (autoConnectStep_frame s env pc).poll session)
  | _ => exact .inl rfl

theorem step_bRun (taken : s.step action = some next) :
    next.bRun = s.bRun ∨ next.bRun = false ∨
      ∃ session env, action = .recvPoll session env ∧ session < s.sessions ∧
        s.poll session = .setRun := by
  cases step_moves taken with
  | stop thread env after pc stopped rest here moved =>
      by_cases clears : pc = .clearRun
      · subst clears
        cases moved
        exact .inr (.inl rfl)
      · exact .inl ((stopStep_frame moved).bRun clears)
  | init thread env connectStateFn recvFn pc =>
      exact .inl (initStep_frame s env connectStateFn recvFn pc).bRun
  | send thread env pc sent rest here moved => exact .inl (sendStep_frame moved).bRun
  | recvPoll session env polled pc created moved =>
      by_cases sets : s.poll session = .setRun
      · exact .inr (.inr ⟨session, env, rfl, created, sets⟩)
      · by_cases clears : ∃ loop event, s.poll session = .clearRun loop event
        · obtain ⟨loop, event, clears⟩ := clears
          rw [clears] at moved
          cases moved
          exact .inr (.inl rfl)
        · exact .inl ((recvPollStep_frame moved).bRun sets (by simpa using clears))
  | autoConnect env pc => exact .inl (autoConnectStep_frame s env pc).bRun
  | _ => exact .inl rfl

theorem step_recvthread_stores (taken : s.step action = some next) :
    next.recvthread = s.recvthread ∨
      ∃ thread connectStateFn recvFn session,
        s.task thread = .reset (.init connectStateFn recvFn (.storeThread session)) ∧
          next.recvthread = some session := by
  cases step_moves taken with
  | stop thread env after pc stopped rest here moved => exact .inl (stopStep_frame moved).recvthread
  | init thread env connectStateFn recvFn pc here =>
      by_cases stores : ∃ session, pc = .storeThread session
      · obtain ⟨session, rfl⟩ := stores
        exact .inr ⟨thread, connectStateFn, recvFn, session, here, rfl⟩
      · exact .inl ((initStep_frame s env connectStateFn recvFn pc).recvthread (by simpa using stores))
  | send thread env pc sent rest here moved => exact .inl (sendStep_frame moved).recvthread
  | recvPoll session env polled pc created moved => exact .inl (recvPollStep_frame moved).recvthread
  | autoConnect env pc => exact .inl (autoConnectStep_frame s env pc).recvthread
  | _ => exact .inl rfl

theorem step_recvthread (taken : s.step action = some next) :
    next.recvthread = s.recvthread ∨
      ∃ thread connectStateFn recvFn session,
        s.task thread = .reset (.init connectStateFn recvFn (.storeThread session)) :=
  (step_recvthread_stores taken).imp_right
    fun ⟨thread, connectStateFn, recvFn, session, here, _⟩ =>
      ⟨thread, connectStateFn, recvFn, session, here⟩

theorem step_joined (session : Nat) (taken : s.step action = some next) :
    next.joined session = s.joined session ∨ s.poll session = .finished := by
  cases step_moves taken with
  | stop thread env after pc stopped rest here moved =>
      by_cases joins : ∃ number, pc = .joining number
      · obtain ⟨number, rfl⟩ := joins
        simp only [stopStep, Option.ite_none_right_eq_some] at moved
        obtain ⟨finished, moved⟩ := moved
        cases moved
        by_cases same : session = number
        · rw [same]
          exact .inr finished
        · left
          simp [setTask, same]
      · exact .inl (congrFun ((stopStep_frame moved).joined (by simpa using joins)) session)
  | init thread env connectStateFn recvFn pc =>
      exact .inl (congrFun (initStep_frame s env connectStateFn recvFn pc).joined session)
  | send thread env pc sent rest here moved =>
      exact .inl (congrFun (sendStep_frame moved).joined session)
  | recvPoll number env polled pc created moved =>
      exact .inl (congrFun (recvPollStep_frame moved).joined session)
  | autoConnect env pc => exact .inl (congrFun (autoConnectStep_frame s env pc).joined session)
  | _ => exact .inl rfl

theorem step_bRunning (running : next.autoConnectTimer.bRunning = true)
    (taken : s.step action = some next) :
    s.autoConnectTimer.bRunning = true ∨
      ∃ thread, s.task thread = .startTimer .setRunning ∨
        ∃ connectStateFn recvFn,
          s.task thread = .reset (.init connectStateFn recvFn (.startTimer .setRunning)) := by
  cases step_moves taken with
  | stopTimer thread env pc here => cases pc <;> first | cases running | exact .inl running
  | stop thread env after pc stopped rest here moved =>
      left
      rw [← (stopStep_frame moved).autoConnectTimer]
      exact running
  | init thread env connectStateFn recvFn pc here =>
      cases pc with
      | startTimer start =>
          cases start with
          | setRunning => exact .inr ⟨thread, .inr ⟨connectStateFn, recvFn, here⟩⟩
          | _ => exact .inl running
      | _ => exact .inl running
  | send thread env pc sent rest here moved =>
      left
      rw [← (sendStep_frame moved).autoConnectTimer]
      exact running
  | startTimer thread env pc here =>
      cases pc with
      | setRunning => exact .inr ⟨thread, .inl here⟩
      | _ => exact .inl running
  | recvPoll session env polled pc created moved =>
      left
      rw [← (recvPollStep_frame moved).autoConnectTimer]
      exact running
  | autoConnect env pc =>
      cases pc with
      | stopTimer stop => cases stop <;> first | cases running | exact .inl running
      | _ => exact .inl running
  | onTimeout env timer pc moved =>
      left
      rw [← TimerWorker.onTimeoutStep_bRunning moved]
      exact running
  | _ => exact .inl running

theorem step_onTimeout (taken : s.step action = some next) :
    next.onTimeout = s.onTimeout ∨
      (∃ env pc, s.onTimeout = .workRoutine pc ∧ s.bAutoConnect = next.bAutoConnect ∧
        next.onTimeout = (s.autoConnectStep env pc).2.elim .post .workRoutine) ∨
      ∃ timer, s.autoConnectTimer.onTimeoutStep .testAutoConnect s.onTimeout =
        some (timer, next.onTimeout) := by
  cases step_moves taken with
  | stop thread env after pc stopped rest here moved => exact .inl (stopStep_frame moved).onTimeout
  | init thread env connectStateFn recvFn pc =>
      exact .inl (initStep_frame s env connectStateFn recvFn pc).onTimeout
  | send thread env pc sent rest here moved => exact .inl (sendStep_frame moved).onTimeout
  | recvPoll session env polled pc created moved => exact .inl (recvPollStep_frame moved).onTimeout
  | autoConnect env pc here =>
      exact .inr (.inl ⟨env, pc, here, (autoConnectStep_frame s env pc).bAutoConnect.symm, rfl⟩)
  | onTimeout env timer pc moved => exact .inr (.inr ⟨timer, moved⟩)
  | _ => exact .inl rfl

theorem step_bAutoConnect (taken : s.step action = some next) :
    next.bAutoConnect = s.bAutoConnect ∨
      ∃ thread value, s.task thread = .setAutoConnect value ∧ next.bAutoConnect = value := by
  cases step_moves taken with
  | stop thread env after pc stopped rest here moved => exact .inl (stopStep_frame moved).bAutoConnect
  | init thread env connectStateFn recvFn pc =>
      exact .inl (initStep_frame s env connectStateFn recvFn pc).bAutoConnect
  | send thread env pc sent rest here moved => exact .inl (sendStep_frame moved).bAutoConnect
  | setAutoConnect thread env value here => exact .inr ⟨thread, value, here, rfl⟩
  | recvPoll session env polled pc created moved => exact .inl (recvPollStep_frame moved).bAutoConnect
  | autoConnect env pc => exact .inl (autoConnectStep_frame s env pc).bAutoConnect
  | _ => exact .inl rfl

theorem step_recvPollThreadid (taken : s.step action = some next) :
    next.recvPollThreadid = s.recvPollThreadid ∨
      ∃ session, next.recvPollThreadid = some (.poll session) := by
  cases step_moves taken with
  | stop thread env after pc stopped rest here moved =>
      exact .inl (stopStep_frame moved).recvPollThreadid
  | init thread env connectStateFn recvFn pc =>
      exact .inl (initStep_frame s env connectStateFn recvFn pc).recvPollThreadid
  | send thread env pc sent rest here moved => exact .inl (sendStep_frame moved).recvPollThreadid
  | recvPoll session env polled pc created moved =>
      by_cases stores : s.poll session = .setThreadId
      · rw [stores] at moved
        cases moved
        exact .inr ⟨session, rfl⟩
      · exact .inl ((recvPollStep_frame moved).recvPollThreadid stores)
  | autoConnect env pc => exact .inl (autoConnectStep_frame s env pc).recvPollThreadid
  | _ => exact .inl rfl

theorem step_inprocAddress (taken : s.step action = some next) :
    next.inprocAddress = s.inprocAddress ∨
      ∃ session env, action = .recvPoll session env ∧ session < s.sessions ∧
        s.poll session = .setInprocAddress := by
  cases step_moves taken with
  | stop thread env after pc stopped rest here moved => exact .inl (stopStep_frame moved).inprocAddress
  | init thread env connectStateFn recvFn pc =>
      exact .inl (initStep_frame s env connectStateFn recvFn pc).inprocAddress
  | send thread env pc sent rest here moved => exact .inl (sendStep_frame moved).inprocAddress
  | recvPoll session env polled pc created moved =>
      by_cases stores : s.poll session = .setInprocAddress
      · exact .inr ⟨session, env, rfl, created, stores⟩
      · exact .inl ((recvPollStep_frame moved).inprocAddress stores)
  | autoConnect env pc => exact .inl (autoConnectStep_frame s env pc).inprocAddress
  | _ => exact .inl rfl

theorem step_backAddress (session : Nat) (taken : s.step action = some next) :
    next.backAddress session = s.backAddress session ∨ ∃ env, action = .recvPoll session env := by
  cases step_moves taken with
  | stop thread env after pc stopped rest here moved =>
      exact .inl (congrFun (stopStep_frame moved).backAddress session)
  | init thread env connectStateFn recvFn pc =>
      exact .inl (congrFun (initStep_frame s env connectStateFn recvFn pc).backAddress session)
  | send thread env pc sent rest here moved =>
      exact .inl (congrFun (sendStep_frame moved).backAddress session)
  | recvPoll number env polled pc created moved =>
      by_cases same : session = number
      · subst same
        exact .inr ⟨env, rfl⟩
      · left
        cases here : s.poll number with
        | bindBack =>
            simp only [here, recvPollStep] at moved
            split_ifs at moved <;> cases moved <;> simp [setPoll, same]
        | closeSockets =>
            rw [here] at moved
            cases moved
            simp [setPoll, same]
        | _ =>
            exact congrFun ((recvPollStep_frame moved).backAddress (by simp [here]) (by simp [here]))
              session
  | autoConnect env pc => exact .inl (congrFun (autoConnectStep_frame s env pc).backAddress session)
  | _ => exact .inl rfl

inductive StateStore (s : ZmqClientBase) (action : Action) (next : ZmqClientBase) : Prop
  | same (same : next.transportState = s.transportState)
  | stop (thread : Tid) (env : Env) (after : AfterStop) (own : action = .task thread env)
      (here : s.task thread = .reset (.stop after .setUndefine))
      (stored : next.transportState = .undefine)
  | init (thread : Tid) (env : Env) (connectStateFn recvFn : Option Nat)
      (own : action = .task thread env)
      (here : s.task thread = .reset (.init connectStateFn recvFn .setUndefine))
      (stored : next.transportState = .undefine)
  | transporting (session : Nat) (env : Env) (own : action = .recvPoll session env)
      (created : session < s.sessions) (here : s.poll session = .setTransporting)
      (stored : next.transportState = .transporting)
  | event (session : Nat) (env : Env) (loop : MonitorLoop) (event : MonitorEvent)
      (own : action = .recvPoll session env) (created : session < s.sessions)
      (here : s.poll session = .storeState loop event)
      (stored : next.transportState =
        if event = .connected then .transported else .transportFailed)
  | pollFinish (session : Nat) (env : Env) (own : action = .recvPoll session env)
      (here : s.poll session = .setPollFinish)
      (stored : next.transportState = .transportedPollFinish)
  | failed (session : Nat) (env : Env) (own : action = .recvPoll session env)
      (here : s.poll session = .setFailed) (stored : next.transportState = .transportFailed)

theorem step_stateStore (taken : s.step action = some next) : StateStore s action next := by
  cases step_moves taken with
  | stop thread env after pc stopped rest here moved =>
      by_cases stores : pc = .setUndefine
      · subst stores
        cases moved
        exact .stop thread env after rfl here rfl
      · exact .same ((stopStep_frame moved).transportState stores)
  | init thread env connectStateFn recvFn pc here =>
      by_cases stores : pc = .setUndefine
      · subst stores
        exact .init thread env connectStateFn recvFn rfl here rfl
      · exact .same ((initStep_frame s env connectStateFn recvFn pc).transportState stores)
  | send thread env pc sent rest here moved => exact .same (sendStep_frame moved).transportState
  | recvPoll session env polled pc created moved =>
      have frame := recvPollStep_frame moved
      cases here : s.poll session with
      | setTransporting =>
          rw [here] at moved
          cases moved
          exact .transporting session env rfl created here rfl
      | storeState loop event =>
          refine .event session env loop event rfl created here ?_
          simp only [here, recvPollStep] at moved
          split_ifs at moved with connects <;> cases moved
          · rw [if_pos connects]
            rfl
          · rw [if_neg connects]
            rfl
      | setPollFinish =>
          rw [here] at moved
          cases moved
          exact .pollFinish session env rfl here rfl
      | setFailed =>
          rw [here] at moved
          cases moved
          exact .failed session env rfl here rfl
      | _ =>
          apply StateStore.same
          exact frame.transportState (by simp [here]) (by simp [here]) (by simp [here])
            (by simp [here])
  | autoConnect env pc => exact .same (autoConnectStep_frame s env pc).transportState
  | _ => exact .same rfl

theorem step_transportState (taken : s.step action = some next) :
    next.transportState = s.transportState ∨ next.transportState < .transporting ∨
      ∃ session env, action = .recvPoll session env ∧ session < s.sessions ∧
        (s.poll session = .setTransporting ∨
          ∃ loop, s.poll session = .storeState loop .connected) := by
  cases step_stateStore taken with
  | same same => exact .inl same
  | transporting session env own created here => exact .inr (.inr ⟨session, env, own, created, .inl here⟩)
  | event session env loop event own created here stored =>
      by_cases connects : event = .connected
      · subst connects
        exact .inr (.inr ⟨session, env, own, created, .inr ⟨loop, here⟩⟩)
      · right; left
        rw [stored, if_neg connects]
        decide
  | _ =>
      rename_i stored
      right; left
      rw [stored]
      decide

theorem step_undefine (taken : s.step action = some next)
    (undefine : next.transportState = .undefine) :
    s.transportState = .undefine ∨ ∃ thread env, action = .task thread env ∧
      ((∃ after, s.task thread = .reset (.stop after .setUndefine)) ∨
        ∃ connectStateFn recvFn, s.task thread = .reset (.init connectStateFn recvFn .setUndefine)) := by
  cases step_stateStore taken with
  | same same => exact .inl (same.symm.trans undefine)
  | stop thread env after own here => exact .inr ⟨thread, env, own, .inl ⟨after, here⟩⟩
  | init thread env connectStateFn recvFn own here =>
      exact .inr ⟨thread, env, own, .inr ⟨connectStateFn, recvFn, here⟩⟩
  | event session env loop event own created here stored =>
      rw [undefine] at stored
      split_ifs at stored
  | _ =>
      rename_i stored
      rw [undefine] at stored
      cases stored

theorem recvPollStep_stage {polled : ZmqClientBase} {session : Nat} {env : Env}
    {pc after : RecvPollPc} (taken : s.recvPollStep session env pc = some (polled, after)) :
    pc.stage ≤ after.stage := by
  cases pc with
  | poll =>
      cases taken
      rw [afterPoll_stage]
      exact le_refl 4
  | backSocketRecv client monitor =>
      cases taken
      rw [afterBack_stage]
      exact le_refl 4
  | recvCallback monitor =>
      simp only [recvPollStep] at taken
      split at taken <;> cases taken
      · rw [afterClient_stage]
        exact le_refl 4
      · exact le_refl 4
  | inRecvFunc monitor =>
      simp only [recvPollStep, Option.ite_none_right_eq_some] at taken
      obtain ⟨-, taken⟩ := taken
      cases taken
      rw [afterClient_stage]
      exact le_refl 4
  | monitorRecv loop =>
      simp only [recvPollStep] at taken
      split at taken <;> cases taken
      · exact loop.stage_le_next
      · exact loop.stage_le_next
      · split_ifs <;> exact le_refl _
  | connectCallback loop event =>
      simp only [recvPollStep] at taken
      split at taken <;> cases taken
      · exact loop.stage_le_next
      · exact le_refl _
  | inConnectStateFunc loop =>
      simp only [recvPollStep, Option.ite_none_right_eq_some] at taken
      obtain ⟨-, taken⟩ := taken
      cases taken
      exact loop.stage_le_next
  | storeState loop event =>
      simp only [recvPollStep] at taken
      split_ifs at taken <;> cases taken <;> exact le_refl _
  | connectClient | bindBack =>
      simp only [recvPollStep] at taken
      split_ifs at taken <;> cases taken <;> simp [RecvPollPc.stage]
  | finished => cases taken
  | clearRun =>
      cases taken
      exact le_refl _
  | recviov =>
      cases taken
      split_ifs
      · exact le_refl 4
      · rw [afterClient_stage]
        exact le_refl 4
  | testStopMonitor =>
      cases taken
      split_ifs <;> simp [RecvPollPc.stage, MonitorLoop.stage]
  | _ =>
      cases taken
      (try split_ifs) <;> simp [RecvPollPc.stage]

theorem step_stage (session : Nat) (taken : s.step action = some next) :
    (s.poll session).stage ≤ (next.poll session).stage := by
  rcases step_poll session taken with same | ⟨env, polled, pc, -, -, moved, rfl⟩
  · rw [same]
  · simpa using recvPollStep_stage moved

theorem step_not_inSetup {session : Nat} (taken : s.step action = some next)
    (out : (s.poll session).inSetup = false) : (next.poll session).inSetup = false := by
  have grows := step_stage session taken
  simp only [RecvPollPc.inSetup, decide_eq_false_iff_not] at out ⊢
  omega

theorem step_sessions_le (taken : s.step action = some next) : s.sessions ≤ next.sessions := by
  rcases step_sessions taken with same | ⟨_, _, _, _, _, _, grown⟩ <;> omega

def Unstarted (s : ZmqClientBase) : Prop :=
  ∀ session, s.sessions ≤ session → s.poll session = .clearStopMonitor

theorem Unstarted.step (unstarted : s.Unstarted) (taken : s.step action = some next) :
    next.Unstarted := by
  intro session later
  have grows := step_sessions_le taken
  rcases step_poll session taken with same | ⟨_, _, _, _, created, -⟩
  · rw [same]
    exact unstarted session (by omega)
  · omega

end ZmqClientBase

end Zmqcpp
