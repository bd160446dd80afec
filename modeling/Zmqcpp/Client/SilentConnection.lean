import Zmqcpp.Client.Heartbeat

set_option autoImplicit false

namespace Zmqcpp

open WrappingClock

-- AutoConnect is on its way to its decision or to the Reset behind it.
def checking : TimerWorker.OnTimeoutPc AutoConnectPc → Bool
  | .workRoutine .resetting => false
  | .workRoutine _ => true
  | _ => false

/-- The most steps AutoConnect can take before it calls Reset or returns. -/
def checkRemaining : TimerWorker.OnTimeoutPc AutoConnectPc → Nat
  | .workRoutine .testAutoConnect => 8
  | .workRoutine .testInterval => 7
  | .workRoutine .getTick => 6
  | .workRoutine (.readLastPong _) => 5
  | .workRoutine (.testState _) => 4
  | .workRoutine .copyConnectStateFunc => 3
  | .workRoutine (.copyRecvFunc _) => 2
  | .workRoutine (.copyAddress _ _) => 1
  | .workRoutine (.stopTimer .clearRunning) => 2
  | .workRoutine (.stopTimer .interrupt) => 1
  | _ => 0

namespace Timed

variable {t next start : Timed} {action : TimedAction} {build : Build} {interval delay : UInt32}

/-- The connection is up, auto-connect is on, and nothing has come in for the window. -/
structure Overdue (window : Nat) (t : Timed) : Prop where
  autoConnect : t.client.bAutoConnect = true
  up : ¬t.client.transportState < .transporting
  silent : ∃ pong, t.pong = some pong ∧ pong + window ≤ t.now ∧ t.now < pong + period

def Resets (t : Timed) (connectStateFunc recvFunc : Option Nat) : Prop :=
  t.client.onTimeout = .workRoutine .resetting ∧
    t.client.task .timer =
      .reset (.stop (.start t.client.address connectStateFunc recvFunc) .clearRun)

def KeepsTarget (t : Timed) (action : TimedAction) : Prop :=
  ∀ next, t.step action = some next → next.client.address = t.client.address ∧
    next.client.connectStateFunc = t.client.connectStateFunc ∧
    next.client.recvFunc = t.client.recvFunc

/-- What AutoConnect has found out in an execution that stays overdue. -/
def Found (build : Build) (window : Nat) (t : Timed) :
    TimerWorker.OnTimeoutPc AutoConnectPc → Prop
  | .workRoutine .testAutoConnect | .workRoutine .testInterval | .workRoutine .getTick => True
  | .workRoutine (.readLastPong nowtick) =>
      nowtick = build.getTick (tick t.asked) ∧ ∀ pong, t.pong = some pong →
        pong + window ≤ t.asked ∧ t.asked < pong + period ∨ t.now < pong + window
  | .workRoutine (.testState value) => -1 < value ↔ build = .win32
  | .workRoutine .resetting => build = .win32 ∧ ∃ connectStateFunc recvFunc,
      t.client.task .timer =
        .reset (.stop (.start t.client.address connectStateFunc recvFunc) .clearRun)
  | .workRoutine (.stopTimer _) => False
  | .workRoutine _ => build = .win32
  | .post => build ≠ .win32
  | _ => False

theorem Overdue.pong_le {window pong : Nat} (overdue : t.Overdue window)
    (last : t.pong = some pong) : pong + window ≤ t.now ∧ t.now < pong + period := by
  obtain ⟨known, same, bounds⟩ := overdue.silent
  cases same.symm.trans last
  exact bounds

-- The value AutoConnect computes is of the sign the build decides.
theorem found_value {window pong : Nat} (clocked : t.Clocked build interval delay)
    (total : (interval * 1000 + delay * 1000).toNat = window) (positive : 0 < window)
    (last : t.pong = some pong) (late : pong + window ≤ t.asked)
    (within : t.asked < pong + period) :
    -1 < t.client.build.elapsed (build.getTick (tick t.asked)) t.client.lastpong -
        ((t.client.heartbeatInterval + t.client.heartbeatDelay).toNat : Int) ↔ build = .win32 := by
  rw [clocked.build, clocked.heartbeatInterval, clocked.heartbeatDelay,
    (clocked.lastpong pong last).2, total]
  cases build with
  | win32 =>
      have elapsed := tick_sub_within (by omega : pong ≤ t.asked) within
      simp only [Build.elapsed, Build.getTick, elapsed, iff_true]
      omega
  | other =>
      have still : (((0 : UInt32) - 0).toInt32.toInt) = 0 := by decide
      simp only [Build.elapsed, Build.getTick, still, reduceCtorEq, iff_false]
      omega

theorem found_kept {window : Nat} (overdue : t.Overdue window)
    (checks : checking t.client.onTimeout = true) (found : Found build window t t.client.onTimeout)
    (same : next.client.onTimeout = t.client.onTimeout) (asked : next.asked = t.asked)
    (last : ∀ pong, next.pong = some pong → t.pong = some pong ∨ next.now < pong + window) :
    Found build window next next.client.onTimeout := by
  rw [same]
  cases here : t.client.onTimeout with
  | workRoutine pc =>
      rw [here] at found checks
      cases pc with
      | readLastPong nowtick =>
          refine ⟨?_, ?_⟩
          · rw [asked]
            exact found.1
          · intro pong stored
            rcases last pong stored with before | recent
            · have bounds := overdue.pong_le before
              rcases found.2 pong before with late | recent
              · rw [asked]
                exact .inl late
              · omega
            · exact .inr recent
      | resetting => cases checks
      | stopTimer pc => cases found
      | _ => exact found
  | _ =>
      rw [here] at checks
      cases checks

theorem found_own {env : Env} (clocked : t.Clocked build interval delay)
    (positive : 0 < interval.toNat) (fits : window interval delay < period)
    (overdue : t.Overdue (window interval delay)) (checks : checking t.client.onTimeout = true)
    (found : Found build (window interval delay) t t.client.onTimeout)
    (taken : t.step (.step (.onTimeout env)) = some next) :
    Found build (window interval delay) next next.client.onTimeout := by
  obtain ⟨moved, now, asked, stored⟩ := step_cases taken
  simp only [ZmqClientBase.updatesPong, Bool.false_eq_true, if_false] at stored
  have total := seconds_add interval delay
  rw [← window, Nat.mod_eq_of_lt fits] at total
  have long : 0 < window interval delay := by
    simp only [window]
    omega
  cases here : t.client.onTimeout with
  | workRoutine pc =>
      rw [here] at found checks
      have stepped := (ZmqClientBase.step_autoConnect here moved).2
      cases pc with
      | testAutoConnect =>
          rw [stepped]
          simp only [ZmqClientBase.autoConnectStep, overdue.autoConnect, if_true]
          trivial
      | testInterval =>
          have enabled : 0 < t.client.heartbeatInterval := by
            rw [clocked.heartbeatInterval]
            exact seconds_pos positive fits
          rw [stepped]
          simp only [ZmqClientBase.autoConnectStep, enabled, if_true]
          trivial
      | getTick =>
          have asks : t.client.asksTick (.onTimeout env) = true := by
            simp [ZmqClientBase.asksTick, here]
          simp only [asks, if_true] at asked
          have arrived : next.client.onTimeout =
              .workRoutine (.readLastPong (build.getTick (tick t.now))) := by
            rw [stepped, ← clocked.build]
            rfl
          rw [arrived]
          refine ⟨by rw [asked], ?_⟩
          intro pong last
          rw [stored] at last
          rw [asked]
          exact .inl (overdue.pong_le last)
      | readLastPong nowtick =>
          obtain ⟨rfl, bounds⟩ := found
          obtain ⟨pong, last, silent⟩ := overdue.silent
          rw [stepped]
          rcases bounds pong last with ⟨late, within⟩ | recent
          · exact found_value clocked total long last late within
          · omega
      | testState value =>
          have sign : -1 < value ↔ build = .win32 := found
          rw [stepped]
          by_cases detects : build = .win32
          · simp only [ZmqClientBase.autoConnectStep, sign.mpr detects, true_or, if_true]
            exact detects
          · have fresh : ¬-1 < value := fun late => detects (sign.mp late)
            simp only [ZmqClientBase.autoConnectStep, fresh, overdue.up, or_self, if_false]
            exact detects
      | copyConnectStateFunc | copyRecvFunc =>
          rw [stepped]
          exact found
      | copyAddress connectStateFunc recvFunc =>
          rw [stepped]
          refine ⟨found, connectStateFunc, recvFunc, ?_⟩
          rw [stepped]
          simp [ZmqClientBase.autoConnectStep, ZmqClientBase.setTask]
      | resetting => cases checks
      | stopTimer pc => cases found
  | _ =>
      rw [here] at checks
      cases checks

theorem found_step (clocked : t.Clocked build interval delay) (positive : 0 < interval.toNat)
    (fits : window interval delay < period) (overdue : t.Overdue (window interval delay))
    (checks : checking t.client.onTimeout = true)
    (found : Found build (window interval delay) t t.client.onTimeout)
    (taken : t.step action = some next) :
    Found build (window interval delay) next next.client.onTimeout := by
  cases action with
  | pass ms =>
      cases taken
      exact found_kept overdue checks found rfl rfl fun _ last => .inl last
  | step act =>
      by_cases own : ∃ env, act = .onTimeout env
      · obtain ⟨env, rfl⟩ := own
        exact found_own clocked positive fits overdue checks found taken
      · obtain ⟨moved, now, asked, stored⟩ := step_cases taken
        have other (env : Env) : act.withClock (tick t.now) ≠ .onTimeout env := by
          intro same
          exact own (withClock_onTimeout same).2
        rw [asksTick_of_other other] at asked
        apply found_kept overdue checks found (ZmqClientBase.step_onTimeout_other moved other) asked
        intro pong last
        rw [stored] at last
        cases updates : t.client.updatesPong act with
        | false =>
            simp only [updates, Bool.false_eq_true, if_false] at last
            exact .inl last
        | true =>
            simp only [updates, if_true, Option.some.injEq] at last
            right
            simp only [window]
            omega

theorem found_resets {window : Nat} (found : Found build window t t.client.onTimeout)
    (ended : checking t.client.onTimeout = false) :
    (∃ connectStateFunc recvFunc, t.Resets connectStateFunc recvFunc) ↔ build = .win32 := by
  constructor
  · rintro ⟨connectStateFunc, recvFunc, here, -⟩
    rw [here] at found
    exact found.1
  · intro windows
    cases here : t.client.onTimeout with
    | workRoutine pc =>
        rw [here] at found ended
        cases pc with
        | resetting =>
            obtain ⟨-, connectStateFunc, recvFunc, task⟩ := found
            exact ⟨connectStateFunc, recvFunc, here, task⟩
        | _ => cases ended
    | post =>
        rw [here] at found
        exact absurd windows found
    | _ =>
        rw [here] at found
        cases found

def Copied (start t : Timed) : Prop :=
  (t.client.address = start.client.address ∧
    t.client.connectStateFunc = start.client.connectStateFunc ∧
    t.client.recvFunc = start.client.recvFunc) ∧
  match t.client.onTimeout with
  | .workRoutine (.copyRecvFunc connectStateFunc) =>
      connectStateFunc = start.client.connectStateFunc
  | .workRoutine (.copyAddress connectStateFunc recvFunc) =>
      connectStateFunc = start.client.connectStateFunc ∧ recvFunc = start.client.recvFunc
  | .workRoutine .resetting => t.client.task .timer =
      .reset (.stop (.start start.client.address start.client.connectStateFunc
        start.client.recvFunc) .clearRun)
  | _ => True

theorem copied_kept (copied : Copied start t) (checks : checking t.client.onTimeout = true)
    (members : next.client.address = t.client.address ∧
      next.client.connectStateFunc = t.client.connectStateFunc ∧
      next.client.recvFunc = t.client.recvFunc)
    (same : next.client.onTimeout = t.client.onTimeout) : Copied start next := by
  obtain ⟨before, copies⟩ := copied
  refine ⟨⟨members.1.trans before.1, members.2.1.trans before.2.1,
    members.2.2.trans before.2.2⟩, ?_⟩
  rw [same]
  cases here : t.client.onTimeout with
  | workRoutine pc =>
      rw [here] at copies checks
      cases pc with
      | resetting => cases checks
      | _ => exact copies
  | _ => trivial

theorem copied_step (copied : Copied start t) (checks : checking t.client.onTimeout = true)
    (keeps : KeepsTarget t action) (taken : t.step action = some next) : Copied start next := by
  have members := keeps next taken
  cases action with
  | pass ms =>
      cases taken
      exact copied_kept copied checks members rfl
  | step act =>
      obtain ⟨moved, -⟩ := step_cases taken
      by_cases own : ∃ env, act = .onTimeout env
      · obtain ⟨env, rfl⟩ := own
        obtain ⟨before, copies⟩ := copied
        refine ⟨⟨members.1.trans before.1, members.2.1.trans before.2.1,
          members.2.2.trans before.2.2⟩, ?_⟩
        cases here : t.client.onTimeout with
        | workRoutine pc =>
            rw [here] at copies checks
            rw [(ZmqClientBase.step_autoConnect here moved).2]
            cases pc with
            | testAutoConnect | testInterval =>
                simp only [ZmqClientBase.autoConnectStep]
                split_ifs <;> trivial
            | testState value =>
                simp only [ZmqClientBase.autoConnectStep]
                split_ifs <;> trivial
            | copyConnectStateFunc => exact before.2.1
            | copyRecvFunc connectStateFunc => exact ⟨copies, before.2.2⟩
            | copyAddress connectStateFunc recvFunc =>
                obtain ⟨rfl, rfl⟩ := copies
                simp [ZmqClientBase.autoConnectStep, ZmqClientBase.setTask, before.1]
            | resetting => cases checks
            | stopTimer pc => cases pc <;> trivial
            | _ => trivial
        | _ =>
            rw [here] at checks
            cases checks
      · apply copied_kept copied checks members
        apply ZmqClientBase.step_onTimeout_other moved
        intro env same
        exact own (withClock_onTimeout same).2

theorem Copied.target {connectStateFunc recvFunc : Option Nat} (copied : Copied start t)
    (resets : t.Resets connectStateFunc recvFunc) :
    t.client.address = start.client.address ∧
      connectStateFunc = start.client.connectStateFunc ∧ recvFunc = start.client.recvFunc := by
  obtain ⟨here, task⟩ := resets
  obtain ⟨-, copies⟩ := copied
  rw [here] at copies
  have same := task.symm.trans copies
  simp only [Task.reset.injEq, ResetPc.stop.injEq, AfterStop.start.injEq, and_true] at same
  exact same

-- The timer's thread can always go on, and comes to the end of the check.
theorem check_advances (inReset : t.client.TimerInReset)
    (checks : checking t.client.onTimeout = true) (running : t.client.crashed = false) (env : Env) :
    ∃ next, t.step (.step (.onTimeout env)) = some next ∧
      checkRemaining next.client.onTimeout < checkRemaining t.client.onTimeout := by
  cases here : t.client.onTimeout with
  | workRoutine pc =>
      rw [here] at checks
      have idle : t.client.task .timer = .idle := by
        by_contra busy
        have waits := inReset busy
        rw [here] at waits
        rw [waits] at checks
        cases checks
      simp only [step, Action.withClock, ZmqClientBase.step, running, Bool.false_eq_true, if_false,
        here, ZmqClientBase.timerStep, idle, if_true, Option.map_some, Option.some.injEq,
        exists_eq_left']
      cases pc with
      | testAutoConnect | testInterval =>
          simp only [ZmqClientBase.autoConnectStep]
          split_ifs <;> exact of_decide_eq_true rfl
      | testState value =>
          simp only [ZmqClientBase.autoConnectStep]
          split_ifs <;> exact of_decide_eq_true rfl
      | resetting => cases checks
      | stopTimer pc =>
          cases pc <;> exact of_decide_eq_true rfl
      | _ => exact of_decide_eq_true rfl
  | _ =>
      rw [here] at checks
      cases checks

theorem timerInReset_of_run {now : Nat} {lastpong : UInt32} {bStopMonitor : Bool}
    {actions : List TimedAction}
    (run : Transition.run step (initial build lastpong bStopMonitor interval delay now) actions =
      some t) : t.client.TimerInReset := by
  have start : (initial build lastpong bStopMonitor interval delay now).client.TimerInReset :=
    fun busy => absurd rfl busy
  refine Transition.run_invariant (fun state => state.client.TimerInReset) ?_ start
    (Transition.along_true _ actions) run
  intro state action next inReset _ taken
  cases action with
  | pass ms =>
      cases taken
      exact inReset
  | step act => exact inReset.step (step_cases taken).1

/-- An execution of AutoConnect during which the connection stays overdue ends, and it ends in a
Reset, with the client's address and callbacks, exactly on the Windows build. -/
theorem silent_detected (build : Build) (interval delay lastpong : UInt32) (bStopMonitor : Bool)
    (now : Nat) (actions execution : List TimedAction) (entered final : Timed)
    (positive : 0 < interval.toNat) (fits : window interval delay < period)
    (keeps : ∀ action ∈ actions ++ execution, KeepsHeartbeat action)
    (run : Transition.run step (initial build lastpong bStopMonitor interval delay now) actions =
      some entered)
    (entry : entered.client.onTimeout = .workRoutine .testAutoConnect)
    (overdue : Transition.Along step (fun state _ => Overdue (window interval delay) state ∧
      checking state.client.onTimeout = true) entered execution)
    (executed : Transition.run step entered execution = some final)
    (ended : checking final.client.onTimeout = false) :
    ((∃ connectStateFunc recvFunc, final.Resets connectStateFunc recvFunc) ↔ build = .win32) ∧
    (∀ connectStateFunc recvFunc, final.Resets connectStateFunc recvFunc →
      Transition.Along step KeepsTarget entered execution →
        final.client.address = entered.client.address ∧
        connectStateFunc = entered.client.connectStateFunc ∧
        recvFunc = entered.client.recvFunc) ∧
    ∀ during middle, Transition.run step entered during = some middle →
      checking middle.client.onTimeout = true → middle.client.crashed = false → ∀ env, ∃ next,
        middle.step (.step (.onTimeout env)) = some next ∧
        checkRemaining next.client.onTimeout < checkRemaining middle.client.onTimeout := by
  have before : entered.Clocked build interval delay :=
    Transition.run_invariant (Clocked build interval delay)
      (fun _ _ _ clocked keeps taken => clocked.step keeps taken)
      (initial_clocked lastpong bStopMonitor now)
      (Transition.along_of_forall (fun action member => keeps action (by simp [member])) _) run
  have allowed := Transition.along_and
    (Transition.along_of_forall (fun action member => keeps action (by simp [member])) entered)
    overdue
  have found : Found build (window interval delay) final final.client.onTimeout := by
    have start : entered.Clocked build interval delay ∧
        Found build (window interval delay) entered entered.client.onTimeout := by
      refine ⟨before, ?_⟩
      rw [entry]
      trivial
    refine (Transition.run_invariant (fun state => state.Clocked build interval delay ∧
      Found build (window interval delay) state state.client.onTimeout) ?_ start allowed executed).2
    rintro state action next ⟨clocked, found⟩ ⟨keeps, overdue, checks⟩ taken
    exact ⟨clocked.step keeps taken, found_step clocked positive fits overdue checks found taken⟩
  refine ⟨found_resets found ended, ?_, ?_⟩
  · intro connectStateFunc recvFunc resets target
    have start : Copied entered entered := by
      refine ⟨⟨rfl, rfl, rfl⟩, ?_⟩
      rw [entry]
      trivial
    have copied := Transition.run_invariant (Copied entered)
      (fun _ _ _ copied allowed taken => copied_step copied allowed.1.2 allowed.2 taken) start
      (Transition.along_and overdue target) executed
    exact copied.target resets
  · intro during middle reached checks running env
    have whole := Transition.run_append_some.mpr ⟨entered, run, reached⟩
    exact check_advances (timerInReset_of_run whole) checks running env

def overdueCheck (window : Nat) (t : Timed) (_ : TimedAction) : Bool :=
  t.client.bAutoConnect && !decide (t.client.transportState < .transporting) &&
    (t.pong.any fun pong => decide (pong + window ≤ t.now ∧ t.now < pong + period)) &&
    checking t.client.onTimeout

theorem overdue_of_check {window : Nat} (checked : overdueCheck window t action = true) :
    Overdue window t ∧ checking t.client.onTimeout = true := by
  simp only [overdueCheck, Bool.and_eq_true, Bool.not_eq_true', decide_eq_false_iff_not,
    Option.any_eq_true, decide_eq_true_eq] at checked
  obtain ⟨⟨⟨autoConnect, up⟩, silent⟩, checks⟩ := checked
  exact ⟨⟨autoConnect, up, silent⟩, checks⟩

theorem overdue_along {window : Nat} {execution : List TimedAction}
    (accepted : Transition.accepts step (overdueCheck window) t execution = true) :
    Transition.Along step (fun state _ => Overdue window state ∧
      checking state.client.onTimeout = true) t execution :=
  Transition.along_of_accepts (fun _ => True) (overdueCheck window)
    (fun _ _ _ _ _ _ => trivial) (fun _ _ _ checked => overdue_of_check checked) trivial accepted

-- Fifteen seconds of silence, and AutoConnect begins.
def silentSteps : List TimedAction :=
  timedSteps connectedSteps ++ [.pass 15000] ++ timedSteps (List.replicate 4 (.onTimeout {}))

def autoConnectSteps (count : Nat) : List TimedAction :=
  timedSteps (List.replicate count (.onTimeout {}))

theorem silent_detected_windows : ∃ entered final,
    Transition.run step (initial .win32 0 false 10 5 0) silentSteps = some entered ∧
    Transition.run step entered (autoConnectSteps 8) = some final ∧
    ∃ connectStateFunc recvFunc, final.Resets connectStateFunc recvFunc := by
  have accepted : (Transition.run step (initial .win32 0 false 10 5 0) silentSteps).any
      (fun entered => decide (entered.client.onTimeout = .workRoutine .testAutoConnect) &&
        Transition.accepts step (overdueCheck (window 10 5)) entered (autoConnectSteps 8) &&
        (Transition.run step entered (autoConnectSteps 8)).any fun final =>
          !checking final.client.onTimeout) = true := by
    decide +kernel
  obtain ⟨entered, run, checked⟩ := Transition.reached_of_check accepted
  simp only [Bool.and_eq_true, decide_eq_true_eq, Option.any_eq_true, Bool.not_eq_true'] at checked
  obtain ⟨⟨entry, silent⟩, final, executed, ended⟩ := checked
  have keeps : ∀ action ∈ silentSteps ++ autoConnectSteps 8, KeepsHeartbeat action :=
    keepsHeartbeat_of_check (by decide +kernel)
  exact ⟨entered, final, run, executed, (silent_detected .win32 10 5 0 false 0 silentSteps
    (autoConnectSteps 8) entered final (by decide) (by decide) keeps run entry
    (overdue_along silent) executed ended).1.mpr rfl⟩

-- GetTick of the other builds returns 0.
theorem silent_undetected : ∃ entered final,
    Transition.run step (initial .other 0 false 10 5 0) silentSteps = some entered ∧
    entered.client.onTimeout = .workRoutine .testAutoConnect ∧
    Transition.Along step (fun state _ => Overdue (window 10 5) state ∧
      checking state.client.onTimeout = true) entered (autoConnectSteps 5) ∧
    Transition.run step entered (autoConnectSteps 5) = some final ∧
    final.client.onTimeout = .post ∧
    ¬∃ connectStateFunc recvFunc, final.Resets connectStateFunc recvFunc := by
  have accepted : (Transition.run step (initial .other 0 false 10 5 0) silentSteps).any
      (fun entered => decide (entered.client.onTimeout = .workRoutine .testAutoConnect) &&
        Transition.accepts step (overdueCheck (window 10 5)) entered (autoConnectSteps 5) &&
        (Transition.run step entered (autoConnectSteps 5)).any fun final =>
          decide (final.client.onTimeout = .post)) = true := by
    decide +kernel
  obtain ⟨entered, run, checked⟩ := Transition.reached_of_check accepted
  simp only [Bool.and_eq_true, decide_eq_true_eq, Option.any_eq_true] at checked
  obtain ⟨⟨entry, silent⟩, final, executed, returned⟩ := checked
  refine ⟨entered, final, run, entry, overdue_along silent, executed, returned, ?_⟩
  rintro ⟨connectStateFunc, recvFunc, resets, -⟩
  rw [returned] at resets
  cases resets

end Timed

end Zmqcpp
