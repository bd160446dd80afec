import Zmqcpp.Client.Writes

set_option autoImplicit false

namespace Zmqcpp

structure Settings where
  build : Build
  heartbeatInterval : UInt32
  heartbeatDelay : UInt32
  lastpong : UInt32
  connectStateFunc : Option Nat
  recvFunc : Option Nat
  address : String
  started : Nat → Option (Option Nat × Option Nat)
  clientAddress : Nat → Option String
  callbacks : List (Nat × CallbackCall)

def Call.target : Call → Option (String × Option Nat × Option Nat)
  | .resetAddr addr connectStateFn recvFn => some (addr, connectStateFn, recvFn)
  | .resetIp ip port connectStateFn recvFn => some (tcpAddress ip port, connectStateFn, recvFn)
  | _ => none

theorem Call.task_of_target {call : Call} {addr : String} {connectStateFn recvFn : Option Nat}
    (target : call.target = some (addr, connectStateFn, recvFn)) :
    call.task = .reset (.stop (.start addr connectStateFn recvFn) .clearRun) := by
  cases call <;> cases target <;> rfl

def CallbackCall.Of (connectStateFn recvFn : Option Nat) : CallbackCall → Prop
  | .connectState func _ => connectStateFn = some func
  | .recv func => recvFn = some func

namespace ZmqClientBase

variable {s next : ZmqClientBase} {action : Action}

def settings (s : ZmqClientBase) : Settings where
  build := s.build
  heartbeatInterval := s.heartbeatInterval
  heartbeatDelay := s.heartbeatDelay
  lastpong := s.lastpong
  connectStateFunc := s.connectStateFunc
  recvFunc := s.recvFunc
  address := s.address
  started := s.started
  clientAddress := s.clientAddress
  callbacks := s.callbacks

theorem setTask_settings (thread : Tid) (task : Task) :
    (s.setTask thread task).settings = s.settings := rfl

theorem stopStep_settings {stopped : ZmqClientBase} {thread : Tid} {pc : StopPc}
    {rest : Option StopPc} (taken : s.stopStep thread pc = some (stopped, rest)) :
    stopped.settings = s.settings := by
  cases pc with
  | lockFront | joining =>
      simp only [stopStep, Option.ite_none_right_eq_some] at taken
      obtain ⟨-, taken⟩ := taken
      cases taken
      rfl
  | nextFront =>
      simp only [stopStep] at taken
      split at taken <;> cases taken <;> rfl
  | disconnecting socket addr =>
      simp only [stopStep, Option.some.injEq, Prod.mk.injEq] at taken
      obtain ⟨rfl, -⟩ := taken
      split_ifs <;> rfl
  | join =>
      simp only [stopStep, Option.map_eq_some_iff] at taken
      obtain ⟨session, -, taken⟩ := taken
      cases taken
      rfl
  | _ =>
      cases taken
      rfl

theorem sendStep_settings {sent : ZmqClientBase} {thread : Tid} {env : Env} {pc : SendPc}
    {rest : Option SendPc} (taken : s.sendStep thread env pc = some (sent, rest)) :
    sent.settings = s.settings := by
  cases pc with
  | lockFront =>
      simp only [sendStep, Option.ite_none_right_eq_some] at taken
      obtain ⟨-, taken⟩ := taken
      cases taken
      rfl
  | lookup =>
      simp only [sendStep] at taken
      split at taken
      · cases taken
        rfl
      · split_ifs at taken <;> cases taken <;> rfl
  | setup todo socket =>
      cases todo with
      | nil =>
          cases taken
          rfl
      | cons first todo => cases first <;> cases taken <;> rfl
  | unlock socket => cases socket <;> cases taken <;> rfl
  | _ =>
      cases taken
      rfl

theorem autoConnectStep_settings (env : Env) (pc : AutoConnectPc) :
    (s.autoConnectStep env pc).1.settings = s.settings := by
  cases pc <;> rfl

inductive SettingsMoves (s : ZmqClientBase) (action : Action) (next : ZmqClientBase) : Prop
  | same (same : next.settings = s.settings)
  | address (thread : Tid) (env : Env) (addr : String) (connectStateFn recvFn : Option Nat)
      (own : action = .task thread env)
      (here : s.task thread = .reset (.setAddress addr connectStateFn recvFn))
      (same : next.settings = { s.settings with address := addr })
  | initPong (thread : Tid) (env : Env) (connectStateFn recvFn : Option Nat)
      (own : action = .task thread env)
      (here : s.task thread = .reset (.init connectStateFn recvFn .updateLastPong))
      (same : next.settings = { s.settings with lastpong := s.build.getTick env.clock })
  | connectStateFunc (thread : Tid) (env : Env) (connectStateFn recvFn : Option Nat)
      (own : action = .task thread env)
      (here : s.task thread = .reset (.init connectStateFn recvFn .setConnectStateFunc))
      (same : next.settings = { s.settings with connectStateFunc := connectStateFn })
  | recvFunc (thread : Tid) (env : Env) (connectStateFn recvFn : Option Nat)
      (own : action = .task thread env)
      (here : s.task thread = .reset (.init connectStateFn recvFn .setRecvFunc))
      (same : next.settings = { s.settings with recvFunc := recvFn })
  | started (thread : Tid) (env : Env) (connectStateFn recvFn : Option Nat)
      (own : action = .task thread env)
      (here : s.task thread = .reset (.init connectStateFn recvFn .newThread))
      (same : next.settings =
        { s.settings with
          started := Function.update s.started s.sessions (some (connectStateFn, recvFn)) })
  | heartbeatInterval (thread : Tid) (env : Env) (interval delay : UInt32)
      (own : action = .task thread env)
      (here : s.task thread = .setHeartbeatInterval interval delay)
      (same : next.settings = { s.settings with heartbeatInterval := interval * 1000 })
  | heartbeatDelay (thread : Tid) (env : Env) (delay : UInt32) (own : action = .task thread env)
      (here : s.task thread = .setHeartbeatDelay delay)
      (same : next.settings = { s.settings with heartbeatDelay := delay * 1000 })
  | clientAddress (session : Nat) (env : Env) (own : action = .recvPoll session env)
      (created : session < s.sessions) (here : s.poll session = .connectClient)
      (same : next.settings =
        { s.settings with
          clientAddress := Function.update s.clientAddress session (some s.address) })
  | pollPong (session : Nat) (env : Env) (monitor : Bool) (own : action = .recvPoll session env)
      (created : session < s.sessions) (here : s.poll session = .updateLastPong monitor)
      (same : next.settings = { s.settings with lastpong := s.build.getTick env.clock })
  | recv (session : Nat) (env : Env) (monitor : Bool) (func : Nat)
      (own : action = .recvPoll session env) (created : session < s.sessions)
      (here : s.poll session = .recvCallback monitor) (stored : s.recvFunc = some func)
      (same : next.settings =
        { s.settings with callbacks := s.callbacks ++ [(session, .recv func)] })
  | connectState (session : Nat) (env : Env) (loop : MonitorLoop) (event : MonitorEvent)
      (func : Nat) (own : action = .recvPoll session env) (created : session < s.sessions)
      (here : s.poll session = .connectCallback loop event) (stored : s.connectStateFunc = some func)
      (same : next.settings =
        { s.settings with
          callbacks := s.callbacks ++ [(session, .connectState func event.connectState)] })

theorem step_settings (taken : s.step action = some next) : SettingsMoves s action next := by
  cases step_moves taken with
  | stop thread env after pc stopped rest here moved =>
      exact .same ((setTask_settings _ _).trans (stopStep_settings moved))
  | setAddress thread env addr connectStateFn recvFn here =>
      exact .address thread env addr connectStateFn recvFn rfl here rfl
  | init thread env connectStateFn recvFn pc here =>
      cases pc with
      | updateLastPong => exact .initPong thread env connectStateFn recvFn rfl here rfl
      | setConnectStateFunc => exact .connectStateFunc thread env connectStateFn recvFn rfl here rfl
      | setRecvFunc => exact .recvFunc thread env connectStateFn recvFn rfl here rfl
      | newThread => exact .started thread env connectStateFn recvFn rfl here rfl
      | _ => exact .same rfl
  | send thread env pc sent rest here moved =>
      exact .same ((setTask_settings _ _).trans (sendStep_settings moved))
  | setHeartbeatInterval thread env interval delay here =>
      exact .heartbeatInterval thread env interval delay rfl here rfl
  | setHeartbeatDelay thread env delay here => exact .heartbeatDelay thread env delay rfl here rfl
  | recvPoll session env polled pc created moved =>
      cases here : s.poll session with
      | connectClient =>
          simp only [here, recvPollStep] at moved
          split_ifs at moved <;> cases moved
          · exact .clientAddress session env rfl created here rfl
          · exact .same rfl
      | updateLastPong monitor =>
          rw [here] at moved
          cases moved
          exact .pollPong session env monitor rfl created here rfl
      | recvCallback monitor =>
          simp only [here, recvPollStep] at moved
          split at moved <;> cases moved
          · exact .same rfl
          · next func stored => exact .recv session env monitor func rfl created here stored rfl
      | connectCallback loop event =>
          simp only [here, recvPollStep] at moved
          split at moved <;> cases moved
          · exact .same rfl
          · next func stored =>
              exact .connectState session env loop event func rfl created here stored rfl
      | bindBack | storeState =>
          simp only [here, recvPollStep] at moved
          split_ifs at moved <;> cases moved <;> exact .same rfl
      | monitorRecv =>
          simp only [here, recvPollStep] at moved
          split at moved <;> cases moved <;> exact .same rfl
      | inRecvFunc | inConnectStateFunc =>
          simp only [here, recvPollStep, Option.ite_none_right_eq_some] at moved
          obtain ⟨-, moved⟩ := moved
          cases moved
          exact .same rfl
      | finished => simp [here, recvPollStep] at moved
      | _ =>
          rw [here] at moved
          cases moved
          exact .same rfl
  | autoConnect env pc => exact .same (autoConnectStep_settings env pc)
  | _ => exact .same rfl

theorem step_connectStateFunc (taken : s.step action = some next) :
    next.connectStateFunc = s.connectStateFunc ∨
      ∃ thread env connectStateFn recvFn, action = .task thread env ∧
        s.task thread = .reset (.init connectStateFn recvFn .setConnectStateFunc) ∧
        next.connectStateFunc = connectStateFn := by
  cases step_settings taken with
  | connectStateFunc thread env connectStateFn recvFn own here same =>
      exact .inr ⟨thread, env, connectStateFn, recvFn, own, here,
        congrArg Settings.connectStateFunc same⟩
  | _ =>
      rename_i same
      exact .inl (congrArg Settings.connectStateFunc same)

theorem step_recvFunc (taken : s.step action = some next) :
    next.recvFunc = s.recvFunc ∨
      ∃ thread env connectStateFn recvFn, action = .task thread env ∧
        s.task thread = .reset (.init connectStateFn recvFn .setRecvFunc) ∧
        next.recvFunc = recvFn := by
  cases step_settings taken with
  | recvFunc thread env connectStateFn recvFn own here same =>
      exact .inr ⟨thread, env, connectStateFn, recvFn, own, here, congrArg Settings.recvFunc same⟩
  | _ =>
      rename_i same
      exact .inl (congrArg Settings.recvFunc same)

theorem step_address (taken : s.step action = some next) :
    next.address = s.address ∨
      ∃ thread env addr connectStateFn recvFn, action = .task thread env ∧
        s.task thread = .reset (.setAddress addr connectStateFn recvFn) ∧ next.address = addr := by
  cases step_settings taken with
  | address thread env addr connectStateFn recvFn own here same =>
      exact .inr ⟨thread, env, addr, connectStateFn, recvFn, own, here,
        congrArg Settings.address same⟩
  | _ =>
      rename_i same
      exact .inl (congrArg Settings.address same)

theorem step_started {session : Nat} (taken : s.step action = some next)
    (created : session < s.sessions) : next.started session = s.started session := by
  cases step_settings taken with
  | started thread env connectStateFn recvFn own here same =>
      have stored := congrFun (congrArg Settings.started same) session
      exact stored.trans (Function.update_of_ne created.ne _ _)
  | _ =>
      rename_i same
      exact congrFun (congrArg Settings.started same) session

theorem step_clientAddress (session : Nat) (taken : s.step action = some next) :
    next.clientAddress session = s.clientAddress session ∨
      session < s.sessions ∧ next.clientAddress session = some s.address := by
  cases step_settings taken with
  | clientAddress number env own created here same =>
      have stored := congrFun (congrArg Settings.clientAddress same) session
      by_cases mine : session = number
      · subst mine
        exact .inr ⟨created, stored.trans (Function.update_self session _ _)⟩
      · exact .inl (stored.trans (Function.update_of_ne mine _ _))
  | _ =>
      rename_i same
      exact .inl (congrFun (congrArg Settings.clientAddress same) session)

theorem step_callbacks (taken : s.step action = some next) :
    next.callbacks = s.callbacks ∨
      ∃ session env call, action = .recvPoll session env ∧ session < s.sessions ∧
        s.poll session ≠ .finished ∧ call.Of s.connectStateFunc s.recvFunc ∧
        next.callbacks = s.callbacks ++ [(session, call)] := by
  cases step_settings taken with
  | recv session env monitor func own created here stored same =>
      exact .inr ⟨session, env, .recv func, own, created, by simp [here], stored,
        congrArg Settings.callbacks same⟩
  | connectState session env loop event func own created here stored same =>
      exact .inr ⟨session, env, .connectState func event.connectState, own, created,
        by simp [here], stored, congrArg Settings.callbacks same⟩
  | _ =>
      rename_i same
      exact .inl (congrArg Settings.callbacks same)

theorem step_called (called : ∀ session call, (session, call) ∈ s.callbacks → session < s.sessions)
    (taken : s.step action = some next) (session : Nat) (call : CallbackCall)
    (member : (session, call) ∈ next.callbacks) : session < next.sessions := by
  have grown := step_sessions_le taken
  rcases step_callbacks taken with same | ⟨number, env, added, rfl, created, -, -, appended⟩
  · rw [same] at member
    have before := called session call member
    omega
  · rw [appended, List.mem_append, List.mem_singleton] at member
    rcases member with before | new
    · have bounded := called session call before
      omega
    · cases new
      omega

end ZmqClientBase

end Zmqcpp
