import Zmqcpp.Client.Timed

set_option autoImplicit false

namespace Zmqcpp

open WrappingClock

namespace Timed

variable {t next : Timed} {action : TimedAction} {interval delay : UInt32}

def window (interval delay : UInt32) : Nat := (interval.toNat + delay.toNat) * 1000

-- AutoConnect returns from its decision when the last UpdateLastPong is not that long ago.
def LiveKept (window : Nat) (t : Timed) : Prop :=
  ∀ value pong, t.client.onTimeout = .workRoutine (.testState value) →
    ¬t.client.transportState < .transporting → t.pong = some pong → t.now < pong + window →
    ∀ env next, t.step (.step (.onTimeout env)) = some next →
      next.client.onTimeout = .post ∧ next.client.task .timer = .idle

/-- UpdateLastPong does not come between AutoConnect's GetTick and its read of m_lastpong with a
later tick, nor between that read and the decision when the read has found the pong overdue. -/
structure PongApart (window : Nat) (t : Timed) (action : TimedAction) : Prop where
  read : ∀ act nowtick, action = .step act → t.client.updatesPong act = true →
    t.client.onTimeout = .workRoutine (.readLastPong nowtick) →
      (tick t.asked - tick t.now).toNat < window
  decided : ∀ act value, action = .step act → t.client.updatesPong act = true →
    t.client.onTimeout = .workRoutine (.testState value) →
      ∃ pong, t.pong = some pong ∧ t.asked < pong + window

structure Timely (interval delay : UInt32) (t : Timed) : Prop where
  clocked : t.Clocked .win32 interval delay
  asked : t.asked ≤ t.now
  getTick : t.client.onTimeout = .workRoutine .getTick → 0 < interval * 1000
  read : ∀ nowtick, t.client.onTimeout = .workRoutine (.readLastPong nowtick) →
    0 < interval * 1000 ∧ nowtick = tick t.asked ∧ ∀ pong, t.pong = some pong →
      pong ≤ t.asked ∨ (tick t.asked - tick pong).toNat < window interval delay
  decided : ∀ value, t.client.onTimeout = .workRoutine (.testState value) → -1 < value →
    ∀ pong, t.pong = some pong → pong + window interval delay ≤ t.asked

theorem withClock_onTimeout {act : Action} {clock : UInt32} {env : Env}
    (own : act.withClock clock = .onTimeout env) :
    env.clock = clock ∧ ∃ before, act = .onTimeout before := by
  cases act <;> cases own
  exact ⟨rfl, _, rfl⟩

theorem asksTick_of_other {act : Action} {clock : UInt32}
    (other : ∀ env, act.withClock clock ≠ .onTimeout env) : t.client.asksTick act = false := by
  cases act with
  | onTimeout env => exact absurd rfl (other _)
  | _ => rfl

theorem Timely.decided_step (timely : t.Timely interval delay)
    (fits : window interval delay < period ∨ interval * 1000 = 0)
    (apart : PongApart (window interval delay) t action) (taken : t.step action = some next)
    (value : Int) (here : next.client.onTimeout = .workRoutine (.testState value))
    (overdue : -1 < value) (pong : Nat) (last : next.pong = some pong) :
    pong + window interval delay ≤ next.asked := by
  cases action with
  | pass ms =>
      cases taken
      exact timely.decided value here overdue pong last
  | step act =>
      obtain ⟨moved, now, asked, stored⟩ := step_cases taken
      rw [asked]
      rw [stored] at last
      rcases ZmqClientBase.step_into_workRoutine moved here with
        ⟨before, other⟩ | entry | ⟨env, pc, own, before, flow⟩
      · rw [asksTick_of_other other]
        cases updates : t.client.updatesPong act with
        | true =>
            obtain ⟨earlier, known, within⟩ := apart.decided act value rfl updates before
            have late := timely.decided value before overdue earlier known
            omega
        | false =>
            simp only [updates, Bool.false_eq_true, if_false] at last
            exact timely.decided value before overdue pong last
      · cases entry
      · obtain ⟨-, called, rfl⟩ := withClock_onTimeout own
        simp only [ZmqClientBase.updatesPong, Bool.false_eq_true, if_false] at last
        cases flow with
        | noInterval => omega
        | readLastPong nowtick =>
            obtain ⟨positive, rfl, recent⟩ := timely.read nowtick before
            have fitting : window interval delay < period := by
              rcases fits with fits | none
              · exact fits
              · rw [none] at positive
                exact absurd positive (by decide)
            have total := seconds_add interval delay
            rw [← window, Nat.mod_eq_of_lt fitting] at total
            rw [timely.clocked.build, timely.clocked.heartbeatInterval,
              timely.clocked.heartbeatDelay, (timely.clocked.lastpong pong last).2, total] at overdue
            simp only [Build.elapsed, Build.getTick] at overdue
            have unasked : t.client.asksTick (.onTimeout called) = false := by
              simp [ZmqClientBase.asksTick, before]
            simp only [unasked, Bool.false_eq_true, if_false]
            rcases recent pong last with ordered | near
            · have bound := tick_sub_le ordered
              omega
            · omega

theorem Timely.read_step (timely : t.Timely interval delay)
    (apart : PongApart (window interval delay) t action) (taken : t.step action = some next)
    (nowtick : UInt32) (here : next.client.onTimeout = .workRoutine (.readLastPong nowtick)) :
    0 < interval * 1000 ∧ nowtick = tick next.asked ∧ ∀ pong, next.pong = some pong →
      pong ≤ next.asked ∨ (tick next.asked - tick pong).toNat < window interval delay := by
  cases action with
  | pass ms =>
      cases taken
      exact timely.read nowtick here
  | step act =>
      obtain ⟨moved, now, asked, stored⟩ := step_cases taken
      rcases ZmqClientBase.step_into_workRoutine moved here with
        ⟨before, other⟩ | entry | ⟨env, pc, own, before, flow⟩
      · obtain ⟨positive, same, recent⟩ := timely.read nowtick before
        rw [asksTick_of_other other] at asked
        have unasked : next.asked = t.asked := asked
        rw [unasked]
        refine ⟨positive, same, ?_⟩
        intro pong last
        rw [stored] at last
        cases updates : t.client.updatesPong act with
        | true =>
            simp only [updates, if_true, Option.some.injEq] at last
            subst last
            exact .inr (apart.read act nowtick rfl updates before)
        | false =>
            simp only [updates, Bool.false_eq_true, if_false] at last
            exact recent pong last
      · cases entry
      · obtain ⟨clock, called, rfl⟩ := withClock_onTimeout own
        cases flow with
        | getTick =>
            have asks : t.client.asksTick (.onTimeout called) = true := by
              simp [ZmqClientBase.asksTick, before]
            simp only [asks, if_true] at asked
            rw [asked]
            refine ⟨timely.getTick before, ?_, ?_⟩
            · rw [timely.clocked.build, clock]
              rfl
            · intro pong last
              rw [stored] at last
              simp only [ZmqClientBase.updatesPong, Bool.false_eq_true, if_false] at last
              exact .inl (timely.clocked.lastpong pong last).1

theorem Timely.getTick_step (timely : t.Timely interval delay) (taken : t.step action = some next)
    (here : next.client.onTimeout = .workRoutine .getTick) : 0 < interval * 1000 := by
  cases action with
  | pass ms =>
      cases taken
      exact timely.getTick here
  | step act =>
      obtain ⟨moved, -⟩ := step_cases taken
      rcases ZmqClientBase.step_into_workRoutine moved here with
        ⟨before, other⟩ | entry | ⟨env, pc, own, before, flow⟩
      · exact timely.getTick before
      · cases entry
      · rw [← timely.clocked.heartbeatInterval]
        cases flow with
        | interval positive => exact positive

theorem asked_step (ordered : t.asked ≤ t.now) (taken : t.step action = some next) :
    next.asked ≤ next.now := by
  cases action with
  | pass ms =>
      cases taken
      exact Nat.le_add_right_of_le ordered
  | step act =>
      obtain ⟨-, now, asked, -⟩ := step_cases taken
      rw [now, asked]
      split_ifs
      · exact Nat.le_refl _
      · exact ordered

theorem Timely.step (timely : t.Timely interval delay)
    (fits : window interval delay < period ∨ interval * 1000 = 0) (keeps : KeepsHeartbeat action)
    (apart : PongApart (window interval delay) t action) (taken : t.step action = some next) :
    next.Timely interval delay :=
  { clocked := timely.clocked.step keeps taken
    asked := asked_step timely.asked taken
    getTick := timely.getTick_step taken
    read := timely.read_step apart taken
    decided := timely.decided_step fits apart taken }

theorem Timely.liveKept (timely : t.Timely interval delay) : t.LiveKept (window interval delay) := by
  intro value pong here up last live env next taken
  obtain ⟨moved, -⟩ := step_cases taken
  obtain ⟨idle, stepped⟩ := ZmqClientBase.step_autoConnect here moved
  have fresh : ¬-1 < value := by
    intro overdue
    have late := timely.decided value here overdue pong last
    have ordered := timely.asked
    omega
  rw [stepped]
  simp only [ZmqClientBase.autoConnectStep, fresh, up, or_self, if_false]
  exact ⟨rfl, idle⟩

/-- In every run on the Windows build in which UpdateLastPong keeps apart from AutoConnect's
reads, and with a window that 32 bits hold, the heartbeat check does not reset a live connection. -/
theorem live_kept (interval delay lastpong : UInt32) (bStopMonitor : Bool) (now : Nat)
    (actions : List TimedAction) (reached : Timed)
    (fits : window interval delay < period ∨ interval * 1000 = 0)
    (keeps : ∀ action ∈ actions, KeepsHeartbeat action)
    (apart : Transition.Along step (PongApart (window interval delay))
      (initial .win32 lastpong bStopMonitor interval delay now) actions)
    (run : Transition.run step (initial .win32 lastpong bStopMonitor interval delay now) actions =
      some reached) : reached.LiveKept (window interval delay) := by
  have start : (initial .win32 lastpong bStopMonitor interval delay now).Timely interval delay := by
    refine ⟨initial_clocked lastpong bStopMonitor now, Nat.le_refl _, ?_, ?_, ?_⟩
    all_goals simp [initial, ZmqClientBase.configured, ZmqClientBase.constructed]
  have allowed := Transition.along_and (Transition.along_of_forall keeps _) apart
  exact (Transition.run_invariant (Timely interval delay)
    (fun _ _ _ timely allowed taken => timely.step fits allowed.1 allowed.2 taken) start allowed
    run).liveKept

def keepsCheck : TimedAction → Bool
  | .step (.call _ (.setHeartbeatIntervalTime _ _)) => false
  | _ => true

theorem keepsHeartbeat_of_check {actions : List TimedAction}
    (checked : actions.all keepsCheck = true) : ∀ action ∈ actions, KeepsHeartbeat action := by
  intro action member thread interval delay same
  have keeps := List.all_eq_true.mp checked action member
  rw [same] at keeps
  cases keeps

def pongCheck (window : Nat) (t : Timed) : TimedAction → Bool
  | .pass _ => true
  | .step action =>
      !t.client.updatesPong action ||
        match t.client.onTimeout, t.pong with
        | .workRoutine (.readLastPong _), _ => decide ((tick t.asked - tick t.now).toNat < window)
        | .workRoutine (.testState _), some pong => decide (t.asked < pong + window)
        | .workRoutine (.testState _), none => false
        | _, _ => true

theorem pongApart_of_check {window : Nat} (checked : pongCheck window t action = true) :
    PongApart window t action := by
  constructor
  · rintro act nowtick rfl updates here
    simpa [pongCheck, updates, here] using checked
  · rintro act value rfl updates here
    cases last : t.pong with
    | none => simp [pongCheck, updates, here, last] at checked
    | some pong => exact ⟨pong, rfl, by simpa [pongCheck, updates, here, last] using checked⟩

def timedSteps (actions : List Action) : List TimedAction := actions.map .step

-- AutoConnect at its read of m_lastpong, after a message at the tick of its GetTick.
def pongBeforeRead : List TimedAction :=
  timedSteps (connectedSteps ++ List.replicate 7 (.onTimeout {}) ++
    [.recvPoll 0 { client := true }, .recvPoll 0 {}])

-- The counter wraps around between AutoConnect's reads and its decision.
theorem live_kept_wrapping : ∃ reached,
    Transition.run step (initial .win32 0 false 1 0 (period - 5))
      (pongBeforeRead ++ [.step (.onTimeout {}), .pass 20]) = some reached ∧
    reached.LiveKept (window 1 0) ∧
    reached.client.onTimeout = .workRoutine (.testState (-1000)) ∧
    reached.client.transportState = .transporting ∧ reached.pong = some (period - 5) ∧
    reached.now = period + 15 := by
  have accepted : (Transition.run step (initial .win32 0 false 1 0 (period - 5))
      (pongBeforeRead ++ [.step (.onTimeout {}), .pass 20])).any (fun state =>
        decide (state.client.onTimeout = .workRoutine (.testState (-1000)) ∧
          state.client.transportState = .transporting ∧ state.pong = some (period - 5) ∧
          state.now = period + 15)) = true := by
    decide +kernel
  obtain ⟨reached, run, checked⟩ := Transition.reached_of_check accepted
  have keeps : ∀ action ∈ pongBeforeRead ++ [.step (.onTimeout {}), .pass 20],
      KeepsHeartbeat action := keepsHeartbeat_of_check (by decide +kernel)
  have apart : Transition.Along step (PongApart (window 1 0))
      (initial .win32 0 false 1 0 (period - 5))
      (pongBeforeRead ++ [.step (.onTimeout {}), .pass 20]) :=
    Transition.along_of_accepts (fun _ => True) (pongCheck (window 1 0))
      (fun _ _ _ _ _ _ => trivial) (fun _ _ _ checked => pongApart_of_check checked) trivial
      (by decide +kernel)
  exact ⟨reached, run, live_kept 1 0 0 false (period - 5) _ reached (.inl (by decide)) keeps apart
    run, by simpa using checked⟩

def resetsLive (window : Nat) (t : Timed) : Bool :=
  match t.client.onTimeout, t.pong with
  | .workRoutine (.testState _), some pong =>
      decide (¬t.client.transportState < .transporting ∧ t.now < pong + window) &&
        (t.step (.step (.onTimeout {}))).any fun next => decide (next.client.onTimeout ≠ .post)
  | _, _ => false

theorem not_liveKept_of_resets {window : Nat} (resets : resetsLive window t = true) :
    ¬t.LiveKept window := by
  intro kept
  unfold resetsLive at resets
  split at resets
  · next value pong here last =>
      simp only [Bool.and_eq_true, decide_eq_true_eq, Option.any_eq_true] at resets
      obtain ⟨⟨up, live⟩, next, taken, goes⟩ := resets
      exact goes (kept value pong here up last live {} next taken).1
  · cases resets

-- A message one tick after AutoConnect's GetTick, and a window of more than 2 ^ 32 milliseconds.
theorem live_reset :
    (∃ reached, Transition.run step (initial .win32 0 false 10 5 0)
      (timedSteps (connectedSteps ++ List.replicate 7 (.onTimeout {})) ++
        [.pass 1, .step (.recvPoll 0 { client := true }), .step (.recvPoll 0 {}),
          .step (.onTimeout {})]) = some reached ∧ ¬reached.LiveKept (window 10 5)) ∧
    ∃ reached, Transition.run step (initial .win32 0 false 4294967 1 0)
      (timedSteps connectedSteps ++ [.pass 1000] ++
        timedSteps (List.replicate 8 (.onTimeout {}))) = some reached ∧
      ¬reached.LiveKept (window 4294967 1) := by
  constructor
  · have accepted : (Transition.run step (initial .win32 0 false 10 5 0)
        (timedSteps (connectedSteps ++ List.replicate 7 (.onTimeout {})) ++
          [.pass 1, .step (.recvPoll 0 { client := true }), .step (.recvPoll 0 {}),
            .step (.onTimeout {})])).any (resetsLive (window 10 5)) = true := by
      decide +kernel
    obtain ⟨reached, run, resets⟩ := Transition.reached_of_check accepted
    exact ⟨reached, run, not_liveKept_of_resets resets⟩
  · have accepted : (Transition.run step (initial .win32 0 false 4294967 1 0)
        (timedSteps connectedSteps ++ [.pass 1000] ++
          timedSteps (List.replicate 8 (.onTimeout {})))).any
          (resetsLive (window 4294967 1)) = true := by
      decide +kernel
    obtain ⟨reached, run, resets⟩ := Transition.reached_of_check accepted
    exact ⟨reached, run, not_liveKept_of_resets resets⟩

end Timed

end Zmqcpp
