import Zmqcpp.Client.Settings
import Zmqcpp.Client.Threads
import Zmqcpp.Shared.WrappingClock

set_option autoImplicit false

namespace Zmqcpp

open WrappingClock

def Action.withClock (clock : UInt32) : Action → Action
  | .call thread called => .call thread called
  | .task thread env => .task thread { env with clock }
  | .recvPoll session env => .recvPoll session { env with clock }
  | .onTimeout env => .onTimeout { env with clock }

def Task.configures : Task → Bool
  | .setHeartbeatInterval _ _ | .setHeartbeatDelay _ => true
  | _ => false

namespace ZmqClientBase

variable {s next : ZmqClientBase} {action : Action}

def updatesPong (s : ZmqClientBase) : Action → Bool
  | .task thread _ =>
      match s.task thread with
      | .reset (.init _ _ .updateLastPong) => true
      | _ => false
  | .recvPoll session _ =>
      match s.poll session with
      | .updateLastPong _ => true
      | _ => false
  | _ => false

def asksTick (s : ZmqClientBase) : Action → Bool
  | .onTimeout _ => decide (s.onTimeout = .workRoutine .getTick)
  | _ => false

def configured (build : Build) (lastpong : UInt32) (bStopMonitor : Bool)
    (interval delay : UInt32) : ZmqClientBase :=
  { constructed build lastpong bStopMonitor with
    heartbeatInterval := interval * 1000
    heartbeatDelay := delay * 1000 }

theorem run_configured (number : Nat) (build : Build) (lastpong : UInt32) (bStopMonitor : Bool)
    (interval delay : UInt32) :
    Transition.run step (constructed build lastpong bStopMonitor)
      (callSteps (.user number) (.setHeartbeatIntervalTime interval delay) 2) =
      some (configured build lastpong bStopMonitor interval delay) := by
  simp [callSteps, Transition.run, step, constructed, configured, mayCall, setTask, Call.task,
    taskStep]

theorem step_lastpong_kept (taken : s.step action = some next)
    (outside : s.updatesPong action = false) : next.lastpong = s.lastpong := by
  cases step_settings taken with
  | initPong thread env connectStateFn recvFn own here =>
      subst own
      simp [updatesPong, here] at outside
  | pollPong session env monitor own created here =>
      subst own
      simp [updatesPong, here] at outside
  | _ =>
      rename_i same
      exact congrArg Settings.lastpong same

theorem step_lastpong_stored {clock : UInt32}
    (taken : s.step (action.withClock clock) = some next)
    (updates : s.updatesPong action = true) : next.lastpong = s.build.getTick clock := by
  cases action with
  | task thread env =>
      simp only [updatesPong] at updates
      split at updates
      · next here =>
          rw [step_init here taken]
          rfl
      · cases updates
  | recvPoll session env =>
      obtain ⟨polled, pc, created, moved, rfl⟩ := step_recvPoll taken
      simp only [updatesPong] at updates
      split at updates
      · next here =>
          rw [here] at moved
          cases moved
          rfl
      · cases updates
  | _ => cases updates

theorem step_build (taken : s.step action = some next) : next.build = s.build := by
  cases step_settings taken <;>
    (rename_i same; exact congrArg Settings.build same)

theorem step_configures {thread : Tid} (taken : s.step action = some next)
    (uncalled : ∀ interval delay, action ≠ .call thread (.setHeartbeatIntervalTime interval delay))
    (configures : (next.task thread).configures = true) : (s.task thread).configures = true := by
  cases step_task thread taken with
  | same same =>
      rw [same] at configures
      exact configures
  | call call called idle task =>
      rw [task] at configures
      cases call with
      | setHeartbeatIntervalTime interval delay => exact absurd called (uncalled interval delay)
      | _ => cases configures
  | flow env own flow =>
      generalize s.task thread = task at flow
      generalize next.task thread = after at flow configures
      cases flow with
      | stopTimer pc rest => cases rest <;> cases configures
      | stop after pc rest =>
          cases rest with
          | some pc => cases configures
          | none => cases after <;> cases configures
      | send pc rest => cases rest <;> cases configures
      | startTimer pc rest => cases rest <;> cases configures
      | setHeartbeatInterval => rfl
      | _ => cases configures
  | autoConnect env connectStateFunc recvFunc timer ticked here task =>
      rw [task] at configures
      cases configures

theorem step_heartbeat (taken : s.step action = some next)
    (settled : ∀ thread, (s.task thread).configures = false) :
    next.heartbeatInterval = s.heartbeatInterval ∧ next.heartbeatDelay = s.heartbeatDelay := by
  have absent {thread : Tid} {task : Task} (here : s.task thread = task)
      (configures : task.configures = true) : False := by
    have never := settled thread
    rw [here, configures] at never
    cases never
  cases step_settings taken with
  | heartbeatInterval thread env interval delay own here => exact (absent here rfl).elim
  | heartbeatDelay thread env delay own here => exact (absent here rfl).elim
  | _ =>
      rename_i same
      exact ⟨congrArg Settings.heartbeatInterval same, congrArg Settings.heartbeatDelay same⟩

end ZmqClientBase

/-- The client with the time in milliseconds, the time at which AutoConnect last read the clock
and that of the last UpdateLastPong. -/
structure Timed where
  client : ZmqClientBase
  now : Nat
  asked : Nat
  pong : Option Nat

inductive TimedAction
  | pass (ms : Nat)
  | step (action : Action)
  deriving DecidableEq, Repr

namespace Timed

def step (t : Timed) : TimedAction → Option Timed
  | .pass ms => some { t with now := t.now + ms }
  | .step action =>
      (t.client.step (action.withClock (tick t.now))).map fun client =>
        { client
          now := t.now
          asked := if t.client.asksTick action then t.now else t.asked
          pong := if t.client.updatesPong action then some t.now else t.pong }

variable {t next : Timed} {action : TimedAction}

theorem step_cases {act : Action} (taken : t.step (.step act) = some next) :
    t.client.step (act.withClock (tick t.now)) = some next.client ∧ next.now = t.now ∧
      next.asked = (if t.client.asksTick act then t.now else t.asked) ∧
      next.pong = (if t.client.updatesPong act then some t.now else t.pong) := by
  simp only [step, Option.map_eq_some_iff] at taken
  obtain ⟨client, moved, rfl⟩ := taken
  exact ⟨moved, rfl, rfl, rfl⟩

def initial (build : Build) (lastpong : UInt32) (bStopMonitor : Bool) (interval delay : UInt32)
    (now : Nat) : Timed where
  client := .configured build lastpong bStopMonitor interval delay
  now := now
  asked := now
  pong := none

def KeepsHeartbeat (action : TimedAction) : Prop :=
  ∀ thread interval delay, action ≠ .step (.call thread (.setHeartbeatIntervalTime interval delay))

structure Clocked (target : Build) (interval delay : UInt32) (t : Timed) : Prop where
  build : t.client.build = target
  heartbeatInterval : t.client.heartbeatInterval = interval * 1000
  heartbeatDelay : t.client.heartbeatDelay = delay * 1000
  settled : ∀ thread, (t.client.task thread).configures = false
  lastpong : ∀ pong, t.pong = some pong →
    pong ≤ t.now ∧ t.client.lastpong = target.getTick (tick pong)

variable {build : Build} {interval delay : UInt32}

theorem initial_clocked (lastpong : UInt32) (bStopMonitor : Bool) (now : Nat) :
    (initial build lastpong bStopMonitor interval delay now).Clocked build interval delay := by
  constructor <;> simp [initial, ZmqClientBase.configured, ZmqClientBase.constructed, Task.configures]

theorem Clocked.step (clocked : t.Clocked build interval delay) (keeps : KeepsHeartbeat action)
    (taken : t.step action = some next) : next.Clocked build interval delay := by
  cases action with
  | pass ms =>
      cases taken
      refine ⟨clocked.build, clocked.heartbeatInterval, clocked.heartbeatDelay, clocked.settled, ?_⟩
      intro pong last
      obtain ⟨ordered, stored⟩ := clocked.lastpong pong last
      exact ⟨Nat.le_add_right_of_le ordered, stored⟩
  | step act =>
      obtain ⟨moved, now, -, last⟩ := step_cases taken
      have heartbeat := ZmqClientBase.step_heartbeat moved clocked.settled
      refine ⟨?_, ?_, ?_, ?_, ?_⟩
      · rw [ZmqClientBase.step_build moved]
        exact clocked.build
      · rw [heartbeat.1]
        exact clocked.heartbeatInterval
      · rw [heartbeat.2]
        exact clocked.heartbeatDelay
      · intro thread
        by_contra configures
        simp only [Bool.not_eq_false] at configures
        have before := ZmqClientBase.step_configures moved (fun interval delay same => by
          apply keeps thread interval delay
          cases act <;> cases same
          rfl) configures
        rw [clocked.settled thread] at before
        cases before
      · intro pong stored
        rw [last] at stored
        rw [now]
        cases updates : t.client.updatesPong act with
        | true =>
            simp only [updates, if_true, Option.some.injEq] at stored
            subst stored
            rw [ZmqClientBase.step_lastpong_stored moved updates, clocked.build]
            exact ⟨Nat.le_refl _, rfl⟩
        | false =>
            simp only [updates, Bool.false_eq_true, if_false] at stored
            have outside : t.client.updatesPong (act.withClock (tick t.now)) = false := by
              rw [← updates]
              cases act <;> rfl
            rw [ZmqClientBase.step_lastpong_kept moved outside]
            exact clocked.lastpong pong stored

end Timed

end Zmqcpp
