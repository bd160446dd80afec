import Mathlib.Tactic
import Zmqcpp.Client.Step

set_option autoImplicit false

namespace Zmqcpp

namespace ZmqClientBase

variable {s next : ZmqClientBase} {action : Action}

@[simp]
theorem setTask_task (thread : Tid) (task : Task) :
    (s.setTask thread task).task = Function.update s.task thread task := rfl

@[simp]
theorem setPoll_poll (session : Nat) (pc : RecvPollPc) :
    (s.setPoll session pc).poll = Function.update s.poll session pc := rfl

inductive Moves (s : ZmqClientBase) : Action → ZmqClientBase → Prop
  | call (thread : Tid) (call : Call) (idle : s.task thread = .idle)
      (may : s.mayCall thread = true) :
      Moves s (.call thread call) (s.setTask thread call.task)
  | stopTimer (thread : Tid) (env : Env) (pc : TimerWorker.StopPc)
      (here : s.task thread = .reset (.stopTimer pc)) :
      Moves s (.task thread env)
        ({ s with autoConnectTimer := (s.autoConnectTimer.stopStep pc).1 }.setTask thread
          (.reset (.afterStopTimer (s.autoConnectTimer.stopStep pc).2)))
  | stop (thread : Tid) (env : Env) (after : AfterStop) (pc : StopPc) (stopped : ZmqClientBase)
      (rest : Option StopPc) (here : s.task thread = .reset (.stop after pc))
      (taken : s.stopStep thread pc = some (stopped, rest)) :
      Moves s (.task thread env) (stopped.setTask thread (.reset (.afterStop after rest)))
  | setAddress (thread : Tid) (env : Env) (addr : String) (connectStateFn recvFn : Option Nat)
      (here : s.task thread = .reset (.setAddress addr connectStateFn recvFn)) :
      Moves s (.task thread env)
        ({ s with address := addr }.setTask thread
          (.reset (.init connectStateFn recvFn .testJoinable)))
  | init (thread : Tid) (env : Env) (connectStateFn recvFn : Option Nat) (pc : InitPc)
      (here : s.task thread = .reset (.init connectStateFn recvFn pc)) :
      Moves s (.task thread env)
        ((s.initStep env connectStateFn recvFn pc).1.setTask thread
          (.reset (.afterInit connectStateFn recvFn
            (s.initStep env connectStateFn recvFn pc).2)))
  | result (thread : Tid) (env : Env) (value : Bool)
      (here : s.task thread = .reset (.result value)) :
      Moves s (.task thread env) (s.setTask thread .idle)
  | send (thread : Tid) (env : Env) (pc : SendPc) (sent : ZmqClientBase) (rest : Option SendPc)
      (here : s.task thread = .send pc)
      (taken : s.sendStep thread env pc = some (sent, rest)) :
      Moves s (.task thread env) (sent.setTask thread (rest.elim .idle .send))
  | setAutoConnect (thread : Tid) (env : Env) (value : Bool)
      (here : s.task thread = .setAutoConnect value) :
      Moves s (.task thread env)
        ({ s with bAutoConnect := value }.setTask thread (.startTimer .testRunning))
  | startTimer (thread : Tid) (env : Env) (pc : TimerWorker.StartPc)
      (here : s.task thread = .startTimer pc) :
      Moves s (.task thread env)
        ({ s with autoConnectTimer := (s.autoConnectTimer.startStep pc).1 }.setTask thread
          ((s.autoConnectTimer.startStep pc).2.elim .idle .startTimer))
  | setHeartbeatInterval (thread : Tid) (env : Env) (interval delay : UInt32)
      (here : s.task thread = .setHeartbeatInterval interval delay) :
      Moves s (.task thread env)
        ({ s with heartbeatInterval := interval * 1000 }.setTask thread (.setHeartbeatDelay delay))
  | setHeartbeatDelay (thread : Tid) (env : Env) (delay : UInt32)
      (here : s.task thread = .setHeartbeatDelay delay) :
      Moves s (.task thread env)
        ({ s with heartbeatDelay := delay * 1000 }.setTask thread .idle)
  | recvPoll (session : Nat) (env : Env) (polled : ZmqClientBase) (pc : RecvPollPc)
      (created : session < s.sessions)
      (taken : s.recvPollStep session env (s.poll session) = some (polled, pc)) :
      Moves s (.recvPoll session env) (polled.setPoll session pc)
  | autoConnect (env : Env) (pc : AutoConnectPc) (here : s.onTimeout = .workRoutine pc)
      (idle : s.task .timer = .idle) :
      Moves s (.onTimeout env)
        { (s.autoConnectStep env pc).1 with
          onTimeout := (s.autoConnectStep env pc).2.elim .post .workRoutine }
  | onTimeout (env : Env) (timer : TimerWorker) (pc : TimerWorker.OnTimeoutPc AutoConnectPc)
      (taken : s.autoConnectTimer.onTimeoutStep .testAutoConnect s.onTimeout = some (timer, pc)) :
      Moves s (.onTimeout env) { s with autoConnectTimer := timer, onTimeout := pc }

theorem step_not_crashed (taken : s.step action = some next) : s.crashed = false := by
  by_contra crashed
  simp [step, crashed] at taken

theorem step_moves (taken : s.step action = some next) : Moves s action next := by
  have running := step_not_crashed taken
  simp only [step, running, Bool.false_eq_true, if_false] at taken
  cases action with
  | call thread call =>
      simp only [Option.ite_none_right_eq_some, Option.some.injEq] at taken
      obtain ⟨⟨idle, may⟩, rfl⟩ := taken
      exact .call thread call idle may
  | task thread env =>
      simp only at taken
      cases here : s.task thread with
      | idle => simp [here, taskStep] at taken
      | reset pc =>
          simp only [here, taskStep, Option.map_eq_some_iff] at taken
          obtain ⟨result, taken, rfl⟩ := taken
          cases pc with
          | stopTimer pc =>
              cases taken
              exact .stopTimer thread env pc here
          | stop after pc =>
              simp only [resetStep, Option.map_eq_some_iff] at taken
              obtain ⟨⟨stopped, rest⟩, taken, rfl⟩ := taken
              exact .stop thread env after pc stopped rest here taken
          | setAddress addr connectStateFn recvFn =>
              cases taken
              exact .setAddress thread env addr connectStateFn recvFn here
          | init connectStateFn recvFn pc =>
              cases taken
              exact .init thread env connectStateFn recvFn pc here
          | result value =>
              cases taken
              exact .result thread env value here
      | send pc =>
          simp only [here, taskStep, Option.map_eq_some_iff] at taken
          obtain ⟨⟨sent, rest⟩, taken, rfl⟩ := taken
          exact .send thread env pc sent rest here taken
      | setAutoConnect value =>
          simp only [here, taskStep, Option.some.injEq] at taken
          subst taken
          exact .setAutoConnect thread env value here
      | startTimer pc =>
          simp only [here, taskStep, Option.some.injEq] at taken
          subst taken
          exact .startTimer thread env pc here
      | setHeartbeatInterval interval delay =>
          simp only [here, taskStep, Option.some.injEq] at taken
          subst taken
          exact .setHeartbeatInterval thread env interval delay here
      | setHeartbeatDelay delay =>
          simp only [here, taskStep, Option.some.injEq] at taken
          subst taken
          exact .setHeartbeatDelay thread env delay here
  | recvPoll session env =>
      simp only [Option.ite_none_right_eq_some, Option.map_eq_some_iff] at taken
      obtain ⟨created, ⟨polled, pc⟩, taken, rfl⟩ := taken
      exact .recvPoll session env polled pc created taken
  | onTimeout env =>
      simp only [timerStep] at taken
      split at taken
      · next pc here =>
          simp only [Option.ite_none_right_eq_some, Option.some.injEq] at taken
          obtain ⟨idle, rfl⟩ := taken
          exact .autoConnect env pc here idle
      · simp only [Option.map_eq_some_iff] at taken
        obtain ⟨⟨timer, pc⟩, taken, rfl⟩ := taken
        exact .onTimeout env timer pc taken

theorem step_stopTimer {thread : Tid} {env : Env} {pc : TimerWorker.StopPc}
    (here : s.task thread = .reset (.stopTimer pc))
    (taken : s.step (.task thread env) = some next) :
    next = { s with autoConnectTimer := (s.autoConnectTimer.stopStep pc).1 }.setTask thread
      (.reset (.afterStopTimer (s.autoConnectTimer.stopStep pc).2)) := by
  have running := step_not_crashed taken
  rw [step, if_neg (by simp [running])] at taken
  simp only [here, taskStep, resetStep, Option.map_some, Option.some.injEq] at taken
  exact taken.symm

theorem step_stop {thread : Tid} {env : Env} {after : AfterStop} {pc : StopPc}
    (here : s.task thread = .reset (.stop after pc))
    (taken : s.step (.task thread env) = some next) :
    ∃ stopped rest, s.stopStep thread pc = some (stopped, rest) ∧
      next = stopped.setTask thread (.reset (.afterStop after rest)) := by
  have running := step_not_crashed taken
  simp only [step, running, here, taskStep, resetStep, Bool.false_eq_true, if_false,
    Option.map_map, Option.map_eq_some_iff, Prod.exists] at taken
  obtain ⟨stopped, rest, taken, rfl⟩ := taken
  exact ⟨stopped, rest, taken, rfl⟩

theorem step_setAddress {thread : Tid} {env : Env} {addr : String}
    {connectStateFn recvFn : Option Nat}
    (here : s.task thread = .reset (.setAddress addr connectStateFn recvFn))
    (taken : s.step (.task thread env) = some next) :
    next = { s with address := addr }.setTask thread
      (.reset (.init connectStateFn recvFn .testJoinable)) := by
  have running := step_not_crashed taken
  rw [step, if_neg (by simp [running])] at taken
  simp only [here, taskStep, resetStep, Option.map_some, Option.some.injEq] at taken
  exact taken.symm

theorem step_result {thread : Tid} {env : Env} {value : Bool}
    (here : s.task thread = .reset (.result value))
    (taken : s.step (.task thread env) = some next) : next = s.setTask thread .idle := by
  have running := step_not_crashed taken
  rw [step, if_neg (by simp [running])] at taken
  simp only [here, taskStep, resetStep, Option.map_some, Option.some.injEq] at taken
  exact taken.symm

theorem step_init {thread : Tid} {env : Env} {connectStateFn recvFn : Option Nat} {pc : InitPc}
    (here : s.task thread = .reset (.init connectStateFn recvFn pc))
    (taken : s.step (.task thread env) = some next) :
    next = (s.initStep env connectStateFn recvFn pc).1.setTask thread
      (.reset (.afterInit connectStateFn recvFn (s.initStep env connectStateFn recvFn pc).2)) := by
  have running := step_not_crashed taken
  rw [step, if_neg (by simp [running])] at taken
  simp only [here, taskStep, resetStep, Option.map_some, Option.some.injEq] at taken
  exact taken.symm

theorem step_setAutoConnect {thread : Tid} {env : Env} {value : Bool}
    (here : s.task thread = .setAutoConnect value)
    (taken : s.step (.task thread env) = some next) :
    next = { s with bAutoConnect := value }.setTask thread (.startTimer .testRunning) := by
  have running := step_not_crashed taken
  rw [step, if_neg (by simp [running])] at taken
  simp only [here, taskStep, Option.some.injEq] at taken
  exact taken.symm

theorem step_send {thread : Tid} {env : Env} {pc : SendPc} (here : s.task thread = .send pc)
    (taken : s.step (.task thread env) = some next) :
    ∃ sent rest, s.sendStep thread env pc = some (sent, rest) ∧
      next = sent.setTask thread (rest.elim .idle .send) := by
  have running := step_not_crashed taken
  simp only [step, running, here, taskStep, Bool.false_eq_true, if_false, Option.map_eq_some_iff,
    Prod.exists] at taken
  obtain ⟨sent, rest, taken, rfl⟩ := taken
  exact ⟨sent, rest, taken, rfl⟩

theorem step_recvPoll {session : Nat} {env : Env}
    (taken : s.step (.recvPoll session env) = some next) :
    ∃ polled pc, session < s.sessions ∧
      s.recvPollStep session env (s.poll session) = some (polled, pc) ∧
      next = polled.setPoll session pc := by
  cases step_moves taken with
  | recvPoll _ _ polled pc created moved => exact ⟨polled, pc, created, moved, rfl⟩

end ZmqClientBase

end Zmqcpp
