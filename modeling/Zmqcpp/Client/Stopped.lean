import Zmqcpp.Client.PollThread

set_option autoImplicit false

namespace Zmqcpp

-- Reset(addr, ...), Reset(ip, port, ...) and SetAutoConnect start things again.
def Action.restarts : Action → Bool
  | .call _ (.resetAddr _ _ _) | .call _ (.resetIp _ _ _ _) | .call _ (.setAutoConnect _) => true
  | _ => false

def Task.restarts : Task → Bool
  | .reset (.stop (.start _ _ _) _) | .reset (.setAddress _ _ _) | .reset (.init _ _ _)
  | .setAutoConnect _ | .startTimer _ => true
  | _ => false

-- The task may still start the timer or a poll thread, or store one.
def Task.starts : Task → Bool
  | .reset (.init _ _ .testState) | .reset (.init _ _ .readResult) => false
  | task => task.restarts

theorem Task.restarts_of_starts {task : Task} (starts : task.starts = true) :
    task.restarts = true := by
  unfold Task.starts at starts
  split at starts
  · rfl
  · rfl
  · exact starts

namespace ZmqClientBase

variable {s next : ZmqClientBase} {action : Action}

-- The timer thread is in AutoConnect and may still call Reset.
def mayReset (s : ZmqClientBase) : Bool :=
  match s.onTimeout with
  | .workRoutine .testAutoConnect => s.bAutoConnect
  | .workRoutine .resetting | .workRoutine (.stopTimer _) => false
  | .workRoutine _ => true
  | _ => false

structure Stopped (sessions : Nat) (s : ZmqClientBase) : Prop where
  started : s.sessions = sessions
  finished : ∀ session, ¬s.Running session
  timer : s.autoConnectTimer.bRunning = false

/-- From the return of a Reset() on, the client is stopped as long as nobody starts it again. -/
def StaysStopped (start : ZmqClientBase) (actions : List Action) : Prop :=
  ∀ number env env' earlier between later began stopping returning returned final,
    actions = earlier ++ .task (.user number) env ::
      (between ++ .task (.user number) env' :: later) →
    Transition.run step start earlier = some began →
    began.task (.user number) = .reset (.stopTimer .clearRunning) →
    (∀ thread, thread ≠ .timer → (began.task thread).restarts = false) →
    began.step (.task (.user number) env) = some stopping →
    Transition.run step stopping between = some returning →
    returning.task (.user number) = .reset (.result true) →
    returning.step (.task (.user number) env') = some returned →
    Transition.run step returned later = some final →
    (∀ action ∈ between ++ later, action.restarts = false) →
    final.Stopped returned.sessions

structure Calm (s : ZmqClientBase) : Prop where
  autoConnect : s.mayReset = false
  timer : (s.task .timer).starts = false
  stored : ∀ session, s.Running session → s.recvthread = some session

/-- Reset() clears the timer's flag only while the timer thread is not about to start a session
and the only poll thread is the one in m_recvthread. -/
def CalmStop (s : ZmqClientBase) (action : Action) : Prop :=
  ∀ number env, action = .task (.user number) env →
    s.task (.user number) = .reset (.stopTimer .clearRunning) → s.Calm

structure Wired (s : ZmqClientBase) : Prop where
  joined : ∀ session, s.joined session = true → s.poll session = .finished
  threadid : ∀ number, s.recvPollThreadid ≠ some (.user number)

theorem step_finished (session : Nat) (finished : s.poll session = .finished)
    (taken : s.step action = some next) : next.poll session = .finished := by
  rcases step_poll session taken with same | ⟨env, polled, pc, -, -, moved, -⟩
  · rw [same]
    exact finished
  · rw [finished] at moved
    cases moved

theorem Wired.step (wired : s.Wired) (taken : s.step action = some next) : next.Wired := by
  refine ⟨?_, ?_⟩
  · intro session joined
    rcases step_joined session taken with same | finished
    · rw [same] at joined
      exact step_finished session (wired.joined session joined) taken
    · exact step_finished session finished taken
  · intro number
    rcases step_recvPollThreadid taken with same | ⟨session, same⟩
    · rw [same]
      exact wired.threadid number
    · rw [same]
      simp

theorem step_starts {thread : Tid} (taken : s.step action = some next)
    (noRestart : action.restarts = false) (starts : (next.task thread).starts = true) :
    (s.task thread).starts = true ∨ s.mayReset = true := by
  cases step_task thread taken with
  | same same =>
      left
      rw [← same]
      exact starts
  | call call called idle task =>
      subst called
      rw [task] at starts
      cases call <;> simp [Action.restarts] at noRestart <;> cases starts
  | flow env own flow =>
      left
      generalize s.task thread = task at flow
      generalize next.task thread = after at flow starts
      cases flow with
      | stop after pc rest flow =>
          cases after with
          | finish => cases rest <;> cases starts
          | start addr connectStateFn recvFn => rfl
      | init env connectStateFn recvFn pc =>
          cases pc with
          | testState =>
              simp only [initStep] at starts
              split_ifs at starts <;> cases starts
          | readResult => cases starts
          | _ => rfl
      | stopTimer pc rest => cases rest <;> cases starts
      | send pc rest flow => cases rest <;> cases starts
      | startTimer pc rest => rfl
      | setAddress | setAutoConnect => rfl
      | _ => cases starts
  | autoConnect env connectStateFunc recvFunc timer ticked here task =>
      right
      simp [mayReset, here]

theorem step_restarts {thread : Tid} (user : thread ≠ .timer) (taken : s.step action = some next)
    (noRestart : action.restarts = false) (restarts : (next.task thread).restarts = true) :
    (s.task thread).restarts = true := by
  cases step_task thread taken with
  | same same =>
      rw [← same]
      exact restarts
  | call call called idle task =>
      subst called
      rw [task] at restarts
      cases call <;> simp [Action.restarts] at noRestart <;> cases restarts
  | flow env own flow =>
      generalize s.task thread = task at flow
      generalize next.task thread = after at flow restarts
      cases flow with
      | stop after pc rest flow =>
          cases after with
          | finish => cases rest <;> cases restarts
          | start addr connectStateFn recvFn => rfl
      | stopTimer pc rest => cases rest <;> cases restarts
      | send pc rest flow => cases rest <;> cases restarts
      | startTimer | init | setAddress | setAutoConnect => rfl
      | _ => cases restarts
  | autoConnect env connectStateFunc recvFunc timer => exact absurd timer user

theorem step_mayReset (taken : s.step action = some next) (idle : s.mayReset = false)
    (stopped : s.autoConnectTimer.bRunning = false)
    (kept : next.bAutoConnect = s.bAutoConnect) : next.mayReset = false := by
  rcases step_onTimeout taken with same | ⟨env, pc, here, -, moved⟩ | ⟨timer, moved⟩
  · simpa [mayReset, same, kept] using idle
  · simp only [mayReset, here] at idle
    cases pc with
    | testAutoConnect => simp [mayReset, moved, autoConnectStep, show s.bAutoConnect = false from idle]
    | resetting => simp [mayReset, moved, autoConnectStep]
    | stopTimer stop => cases stop <;> simp [mayReset, moved, autoConnectStep, TimerWorker.stopStep]
    | _ => cases idle
  · have outside := TimerWorker.onTimeoutStep_stopped stopped moved
    unfold mayReset
    cases here : next.onTimeout with
    | workRoutine work => exact absurd here (outside work)
    | _ => rfl

structure Quiet (number sessions : Nat) (s : ZmqClientBase) : Prop where
  wired : s.Wired
  started : s.sessions = sessions
  timer : s.autoConnectTimer.bRunning = false
  autoConnect : s.mayReset = false
  starts : ∀ thread, (s.task thread).starts = false
  restarts : ∀ thread, thread ≠ .timer → (s.task thread).restarts = false
  stored : ∀ session, s.Running session → s.recvthread = some session
  joining : ∀ session, s.task (.user number) = .reset (.stop .finish (.joining session)) →
    s.recvthread = some session
  joined : s.task (.user number) = .reset (.stop .finish .clearIdentity) ∨
    s.task (.user number) = .reset (.result true) → ∀ session, ¬s.Running session

theorem Running.before {session : Nat} (taken : s.step action = some next)
    (started : next.sessions = s.sessions) (running : next.Running session) :
    s.Running session := by
  refine ⟨started ▸ running.1, ?_⟩
  intro finished
  exact running.2 (step_finished session finished taken)

theorem Quiet.joined_flow {number sessions : Nat} {env : Env} {after : AfterStop} {pc : StopPc}
    (quiet : s.Quiet number sessions)
    (here : s.task (.user number) = .reset (.stop after pc))
    (taken : s.step (.task (.user number) env) = some next)
    (past : next.task (.user number) = .reset (.stop .finish .clearIdentity) ∨
      next.task (.user number) = .reset (.result true)) (session : Nat) : ¬s.Running session := by
  intro running
  have stored := quiet.stored session running
  have finish : after = .finish := by
    have harmless := quiet.restarts (.user number) (by simp)
    rw [here] at harmless
    cases after with
    | finish => rfl
    | start addr connectStateFn recvFn => cases harmless
  subst finish
  obtain ⟨stopped, rest, moved, rfl⟩ := step_stop here taken
  have after : rest = some .clearIdentity ∨ rest = none := by
    cases rest with
    | none => exact .inr rfl
    | some later => simpa [ResetPc.afterStop] using past
  rcases (stopStep_flow moved).past after with ⟨rfl, idle⟩ | ⟨rfl, same⟩ | ⟨number, rfl, finished⟩ | rfl
  · have joined : s.joined session = true := by simpa [joinable, stored] using idle
    exact running.2 (quiet.wired.joined session joined)
  · exact quiet.wired.threadid number same
  · have also := quiet.joining number here
    rw [stored] at also
    cases also
    exact running.2 finished
  · exact quiet.joined (.inl here) session running

theorem step_autoConnect_kept (taken : s.step action = some next)
    (starts : ∀ thread, (s.task thread).starts = false) : next.bAutoConnect = s.bAutoConnect := by
  rcases step_bAutoConnect taken with same | ⟨thread, value, here, -⟩
  · exact same
  · have harmless := starts thread
    rw [here] at harmless
    cases harmless

section Quiet

variable {number sessions : Nat}

theorem Quiet.absurd_of_starts (quiet : s.Quiet number sessions) {thread : Tid} {task : Task}
    (here : s.task thread = task) (starts : task.starts = true) : False := by
  have harmless := quiet.starts thread
  rw [here, starts] at harmless
  cases harmless

theorem Quiet.sessions_kept (quiet : s.Quiet number sessions) (taken : s.step action = some next) :
    next.sessions = s.sessions := by
  rcases step_sessions taken with same | ⟨thread, env, connectStateFn, recvFn, -, here, -⟩
  · exact same
  · exact (quiet.absurd_of_starts here rfl).elim

theorem Quiet.recvthread_kept (quiet : s.Quiet number sessions)
    (taken : s.step action = some next) : next.recvthread = s.recvthread := by
  rcases step_recvthread taken with same | ⟨thread, connectStateFn, recvFn, session, here⟩
  · exact same
  · exact (quiet.absurd_of_starts here rfl).elim

theorem Quiet.timer_kept (quiet : s.Quiet number sessions) (taken : s.step action = some next) :
    next.autoConnectTimer.bRunning = false := by
  by_contra running
  simp only [Bool.not_eq_false] at running
  rcases step_bRunning running taken with before | ⟨thread, here | ⟨connectStateFn, recvFn, here⟩⟩
  · rw [quiet.timer] at before
    cases before
  · exact quiet.absurd_of_starts here rfl
  · exact quiet.absurd_of_starts here rfl

theorem Quiet.starts_step (quiet : s.Quiet number sessions) (noRestart : action.restarts = false)
    (taken : s.step action = some next) (thread : Tid) : (next.task thread).starts = false := by
  by_contra starts
  simp only [Bool.not_eq_false] at starts
  rcases step_starts taken noRestart starts with before | may
  · exact quiet.absurd_of_starts rfl before
  · rw [quiet.autoConnect] at may
    cases may

theorem Quiet.restarts_step (quiet : s.Quiet number sessions)
    (noRestart : action.restarts = false) (taken : s.step action = some next) (thread : Tid)
    (user : thread ≠ .timer) : (next.task thread).restarts = false := by
  by_contra restarts
  simp only [Bool.not_eq_false] at restarts
  have before := step_restarts user taken noRestart restarts
  rw [quiet.restarts thread user] at before
  cases before

theorem Quiet.joining_step (quiet : s.Quiet number sessions) (taken : s.step action = some next)
    (session : Nat)
    (joining : next.task (.user number) = .reset (.stop .finish (.joining session))) :
    s.recvthread = some session := by
  cases step_task (.user number) taken with
  | same same =>
      rw [same] at joining
      exact quiet.joining session joining
  | call call called idle task =>
      rw [task] at joining
      cases call <;> cases joining
  | flow env own flow =>
      generalize s.task (.user number) = task at flow
      generalize next.task (.user number) = moved at flow joining
      cases flow with
      | stop after pc rest flow =>
          have joins : rest = some (.joining session) := by
            cases rest with
            | none => cases after <;> cases joining
            | some later =>
                cases joining
                rfl
          rw [joins] at flow
          exact flow.joining
      | init env connectStateFn recvFn pc =>
          cases ended : (s.initStep env connectStateFn recvFn pc).2 <;>
            simp [ended, ResetPc.afterInit] at joining
      | stopTimer pc rest => cases rest <;> cases joining
      | send pc rest flow => cases rest <;> cases joining
      | startTimer pc rest => cases rest <;> cases joining
      | _ => cases joining
  | autoConnect env connectStateFunc recvFunc timer => cases timer

theorem Quiet.joined_step (quiet : s.Quiet number sessions) (taken : s.step action = some next)
    (past : next.task (.user number) = .reset (.stop .finish .clearIdentity) ∨
      next.task (.user number) = .reset (.result true)) (session : Nat) : ¬s.Running session := by
  intro running
  cases step_task (.user number) taken with
  | same same =>
      rw [same] at past
      exact quiet.joined past session running
  | call call called idle task =>
      rw [task] at past
      cases call <;> simp [Call.task] at past
  | flow env own flow =>
      subst own
      generalize here : s.task (.user number) = task at flow
      generalize there : next.task (.user number) = moved at flow
      cases flow with
      | stop after pc rest flow => exact quiet.joined_flow here taken past session running
      | init env connectStateFn recvFn pc =>
          have harmless := quiet.restarts (.user number) (by simp)
          rw [here] at harmless
          cases harmless
      | stopTimer pc rest => cases rest <;> simp [there, ResetPc.afterStopTimer] at past
      | send pc rest flow => cases rest <;> simp [there] at past
      | startTimer pc rest => cases rest <;> simp [there] at past
      | _ => simp [there] at past
  | autoConnect env connectStateFunc recvFunc timer => cases timer

theorem Quiet.step (quiet : s.Quiet number sessions) (noRestart : action.restarts = false)
    (taken : s.step action = some next) : next.Quiet number sessions := by
  have unstarted := quiet.sessions_kept taken
  have kept := quiet.recvthread_kept taken
  refine
    { wired := quiet.wired.step taken
      started := unstarted.trans quiet.started
      timer := quiet.timer_kept taken
      autoConnect := step_mayReset taken quiet.autoConnect quiet.timer
        (step_autoConnect_kept taken quiet.starts)
      starts := quiet.starts_step noRestart taken
      restarts := quiet.restarts_step noRestart taken
      stored := ?_
      joining := ?_
      joined := ?_ }
  · intro session running
    rw [kept]
    exact quiet.stored session (running.before taken unstarted)
  · intro session joining
    rw [kept]
    exact quiet.joining_step taken session joining
  · intro past session running
    exact quiet.joined_step taken past session (running.before taken unstarted)

end Quiet

theorem wired_of_run {build : Build} {lastpong : UInt32} {bStopMonitor : Bool}
    {actions : List Action}
    (run : Transition.run step (constructed build lastpong bStopMonitor) actions = some s) :
    s.Wired := by
  have initial : (constructed build lastpong bStopMonitor).Wired := by
    constructor <;> simp [constructed]
  exact Transition.run_invariant Wired (fun _ _ _ wired _ taken => wired.step taken) initial
    (Transition.along_true _ _) run

theorem Calm.quiet {number : Nat} {env : Env} (calm : s.Calm) (wired : s.Wired)
    (here : s.task (.user number) = .reset (.stopTimer .clearRunning))
    (alone : ∀ thread, thread ≠ .timer → (s.task thread).restarts = false)
    (taken : s.step (.task (.user number) env) = some next) :
    next.Quiet number s.sessions := by
  have moved := step_stopTimer here taken
  have task : next.task =
      Function.update s.task (.user number) (.reset (.stopTimer .interrupt)) := by
    rw [moved]
    rfl
  have restarts (thread : Tid) (user : thread ≠ .timer) : (next.task thread).restarts = false := by
    by_cases own : thread = .user number
    · simp [task, own, Task.restarts]
    · simpa [task, own] using alone thread user
  refine
    { wired := wired.step taken
      started := by rw [moved]; rfl
      timer := by rw [moved]; rfl
      autoConnect := by rw [moved]; exact calm.autoConnect
      starts := ?_
      restarts := restarts
      stored := by rw [moved]; exact calm.stored
      joining := by simp [task]
      joined := by simp [task] }
  intro thread
  by_cases timer : thread = .timer
  · subst timer
    simpa [task] using calm.timer
  · by_contra starts
    simp only [Bool.not_eq_false] at starts
    have before := Task.restarts_of_starts starts
    rw [restarts thread timer] at before
    cases before

theorem Quiet.run {number sessions : Nat} {actions : List Action} (quiet : s.Quiet number sessions)
    (noRestart : ∀ action ∈ actions, action.restarts = false)
    (run : Transition.run ZmqClientBase.step s actions = some next) : next.Quiet number sessions :=
  Transition.run_invariant (Quiet number sessions)
    (fun _ _ _ quiet noRestart taken => quiet.step noRestart taken) quiet
    (Transition.along_of_forall noRestart s) run

theorem Quiet.run_idle {number sessions : Nat} {actions : List Action}
    (quiet : s.Quiet number sessions) (idle : ∀ session, ¬s.Running session)
    (noRestart : ∀ action ∈ actions, action.restarts = false)
    (run : Transition.run ZmqClientBase.step s actions = some next) (session : Nat) :
    ¬next.Running session := by
  have kept := Transition.run_invariant
    (fun state => state.Quiet number sessions ∧ ∀ session, ¬state.Running session)
    (fun _ _ _ quiet noRestart taken => by
      have after := quiet.1.step noRestart taken
      refine ⟨after, fun session running => quiet.2 session ?_⟩
      exact running.before taken (after.started.trans quiet.1.started.symm))
    ⟨quiet, idle⟩ (Transition.along_of_forall noRestart s) run
  exact kept.2 session

theorem stays_stopped (build : Build) (lastpong : UInt32) (bStopMonitor : Bool)
    (actions : List Action)
    (calm : Transition.Along step CalmStop (constructed build lastpong bStopMonitor) actions) :
    (constructed build lastpong bStopMonitor).StaysStopped actions := by
  rintro number env env' earlier between later began stopping returning returned final rfl
    reached here alone taken middle returns last remaining noRestart
  have still := (Transition.along_append reached calm).2.1 number env rfl here
  have quiet := still.quiet (wired_of_run reached) here alone taken
  have quiet := quiet.run (fun action member => noRestart action (by simp [member])) middle
  have idle := quiet.joined (.inr returns)
  have after := quiet.step rfl last
  have idle : ∀ session, ¬returned.Running session := by
    intro session running
    exact idle session (running.before last (after.started.trans quiet.started.symm))
  have noRestart : ∀ action ∈ later, action.restarts = false :=
    fun action member => noRestart action (by simp [member])
  have final_quiet := after.run noRestart remaining
  exact
    { started := final_quiet.started.trans after.started.symm
      finished := after.run_idle idle noRestart remaining
      timer := final_quiet.timer }

def calmCheck (s : ZmqClientBase) : Action → Bool
  | .task thread _ =>
      if s.task thread = .reset (.stopTimer .clearRunning) then
        !s.mayReset && !(s.task .timer).starts && (List.range s.sessions).all fun session =>
          decide (s.poll session = .finished ∨ s.recvthread = some session)
      else true
  | _ => true

theorem calmStop_of_check (checked : s.calmCheck action = true) : CalmStop s action := by
  intro number env same here
  subst same
  simp only [calmCheck, here, if_true, Bool.and_eq_true, Bool.not_eq_true', List.all_eq_true,
    List.mem_range, decide_eq_true_eq] at checked
  obtain ⟨⟨autoConnect, timer⟩, stored⟩ := checked
  refine ⟨autoConnect, timer, fun session running => ?_⟩
  rcases stored session running.1 with finished | stored
  · exact absurd finished running.2
  · exact stored

-- The session is up, Reset() joins its thread and returns, and the timer fires once more.
theorem stays_stopped_up : ∃ final,
    Transition.run step (constructed .other 0 false)
      ((connectedSteps ++ [.call (.user 0) .reset]) ++ .task (.user 0) {} ::
        ((taskSteps (.user 0) 8 ++ pollSteps 0 4 ++ [.recvPoll 0 { event := some .stopped }] ++
          pollSteps 0 2 ++ taskSteps (.user 0) 2) ++ .task (.user 0) {} ::
            [.onTimeout {}, .onTimeout {}])) = some final ∧
    final.Stopped 1 := by
  have accepted : (Transition.run step (constructed .other 0 false)
      (connectedSteps ++ [.call (.user 0) .reset])).any (fun began =>
        decide (began.task (.user 0) = .reset (.stopTimer .clearRunning)) &&
        (began.step (.task (.user 0) {})).any fun stopping =>
          (Transition.run step stopping (taskSteps (.user 0) 8 ++ pollSteps 0 4 ++
            [.recvPoll 0 { event := some .stopped }] ++ pollSteps 0 2 ++
            taskSteps (.user 0) 2)).any fun returning =>
              decide (returning.task (.user 0) = .reset (.result true)) &&
              (returning.step (.task (.user 0) {})).any fun returned =>
                decide (returned.sessions = 1) &&
                (Transition.run step returned [.onTimeout {}, .onTimeout {}]).isSome) = true := by
    decide +kernel
  obtain ⟨began, reached, accepted⟩ := Transition.reached_of_check accepted
  simp only [Bool.and_eq_true, decide_eq_true_eq, Option.any_eq_true, Option.isSome_iff_exists]
    at accepted
  obtain ⟨here, stopping, taken, returning, middle, returns, returned, last, sessions, final,
    remaining⟩ := accepted
  have only := (constructed_only [.user 0] .other 0 false).run (by decide) reached
  have calm : Transition.Along step CalmStop (constructed .other 0 false)
      ((connectedSteps ++ [.call (.user 0) .reset]) ++ .task (.user 0) {} ::
        ((taskSteps (.user 0) 8 ++ pollSteps 0 4 ++ [.recvPoll 0 { event := some .stopped }] ++
          pollSteps 0 2 ++ taskSteps (.user 0) 2) ++ .task (.user 0) {} ::
            [.onTimeout {}, .onTimeout {}])) :=
    Transition.along_of_accepts (fun _ => True) calmCheck (fun _ _ _ _ _ _ => trivial)
      (fun _ _ _ checked => calmStop_of_check checked) trivial (by decide +kernel)
  have alone (thread : Tid) (_ : thread ≠ .timer) : (began.task thread).restarts = false := by
    by_cases own : thread = .user 0
    · rw [own, here]
      rfl
    · rw [only thread (by simpa using own)]
      rfl
  have stopped := stays_stopped .other 0 false _ calm 0 {} {} _ _ _ began stopping returning
    returned final rfl reached here alone taken middle returns last remaining (by decide)
  have tail := Transition.run_cons_some.mpr ⟨returned, last, remaining⟩
  have rest := Transition.run_append_some.mpr ⟨returning, middle, tail⟩
  have run := Transition.run_append_some.mpr
    ⟨began, reached, Transition.run_cons_some.mpr ⟨stopping, taken, rest⟩⟩
  exact ⟨final, run, sessions ▸ stopped⟩

-- The session failed in its set-up and the timer is in AutoConnect when Reset() begins.
theorem restarted_after_reset :
    ¬(constructed .other 0 false).StaysStopped
      ((callSteps (.user 0) (.resetAddr "tcp://a:1" none none) 19 ++ pollSteps 0 2 ++
          [.recvPoll 0 { ok := false }] ++ pollSteps 0 1 ++ taskSteps (.user 0) 3 ++
          List.replicate 4 (.onTimeout {}) ++ [.call (.user 0) .reset]) ++ .task (.user 0) {} ::
        (taskSteps (.user 0) 10 ++ .task (.user 0) {} ::
          (List.replicate 8 (.onTimeout {}) ++ taskSteps .timer 18))) := by
  have accepted : (Transition.run step (constructed .other 0 false)
      (callSteps (.user 0) (.resetAddr "tcp://a:1" none none) 19 ++ pollSteps 0 2 ++
          [.recvPoll 0 { ok := false }] ++ pollSteps 0 1 ++ taskSteps (.user 0) 3 ++
          List.replicate 4 (.onTimeout {}) ++ [.call (.user 0) .reset])).any (fun began =>
        decide (began.task (.user 0) = .reset (.stopTimer .clearRunning) ∧
          began.task .timer = .idle) &&
        (began.step (.task (.user 0) {})).any fun stopping =>
          (Transition.run step stopping (taskSteps (.user 0) 10)).any fun returning =>
              decide (returning.task (.user 0) = .reset (.result true)) &&
              (returning.step (.task (.user 0) {})).any fun returned =>
                (Transition.run step returned
                  (List.replicate 8 (.onTimeout {}) ++ taskSteps .timer 18)).any fun final =>
                    decide (final.Running 1)) = true := by
    decide +kernel
  obtain ⟨began, reached, accepted⟩ := Transition.reached_of_check accepted
  simp only [Bool.and_eq_true, decide_eq_true_eq, Option.any_eq_true] at accepted
  obtain ⟨⟨here, timer⟩, stopping, taken, returning, middle, returns, returned, last, final,
    remaining, running⟩ := accepted
  have only := (constructed_only [.user 0, .timer] .other 0 false).run (by decide) reached
  have alone (thread : Tid) (user : thread ≠ .timer) : (began.task thread).restarts = false := by
    by_cases own : thread = .user 0
    · rw [own, here]
      rfl
    · rw [only thread (by simp [own, user])]
      rfl
  intro stays
  have stopped := stays 0 {} {} _ _ _ began stopping returning returned final rfl reached here alone
    taken middle returns last remaining (by decide)
  exact stopped.finished 1 running

end ZmqClientBase

end Zmqcpp
