import Zmqcpp.Client.Settings
import Zmqcpp.Client.StaleSockets
import Zmqcpp.Client.Stopped

set_option autoImplicit false

namespace Zmqcpp

open WorkerSlot

-- Reset(addr, ...) and Reset(ip, port, ...).
def Call.starts : Call → Bool
  | .resetAddr _ _ _ | .resetIp _ _ _ _ => true
  | _ => false

def InitPc.connectStateFuncStored : InitPc → Bool
  | .setRecvFunc | .setUndefine | .newThread => true
  | _ => false

def InitPc.recvFuncStored : InitPc → Bool
  | .setUndefine | .newThread => true
  | _ => false

theorem InitPc.hold_of_connectStateFuncStored (pc : InitPc)
    (stored : pc.connectStateFuncStored = true) : pc.hold = .entered := by
  cases pc with
  | setRecvFunc | setUndefine | newThread => rfl
  | _ => cases stored

theorem InitPc.connectStateFuncStored_of_recvFuncStored (pc : InitPc)
    (stored : pc.recvFuncStored = true) : pc.connectStateFuncStored = true := by
  cases pc with
  | setUndefine | newThread => rfl
  | _ => cases stored

theorem Task.storing_of_hold {task : Task} {session : Nat} (hold : task.hold = .storing session) :
    ∃ connectStateFn recvFn, task = .reset (.init connectStateFn recvFn (.storeThread session)) := by
  unfold Task.hold at hold
  split at hold
  · next connectStateFn recvFn pc =>
      cases pc <;> cases hold
      exact ⟨connectStateFn, recvFn, rfl⟩
  · cases hold

namespace ZmqClientBase

variable {s next : ZmqClientBase} {action : Action} {number : Nat}

/-- Each callback a poll thread has made is of a function its own pass through Init has stored. -/
def OwnCallbacks (s : ZmqClientBase) : Prop :=
  ∀ session call, (session, call) ∈ s.callbacks →
    ∃ connectStateFn recvFn, s.started session = some (connectStateFn, recvFn) ∧
      call.Of connectStateFn recvFn

/-- One user thread and the callbacks control the client, auto-connect is off before the first
Reset(addr, ...) and stays off, and a new poll thread is stored in the step that follows. -/
structure ManualControl (number : Nat) (s : ZmqClientBase) (action : Action) : Prop where
  caller : ∀ other call, action = .call (.user other) call → call ≠ .sendData → other = number
  disabled : ∀ thread call, action = .call thread call → call.starts = true →
    s.bAutoConnect = false
  manual : ∀ thread, action ≠ .call thread (.setAutoConnect true)
  stored : ∀ thread connectStateFn recvFn session,
    s.task thread = .reset (.init connectStateFn recvFn (.storeThread session)) →
      ∃ env, action = .task thread env

-- The timer never calls Reset.
structure TimerOff (s : ZmqClientBase) : Prop where
  timer : s.task .timer = .idle
  autoConnect : s.mayReset = false
  stopped : s.bAutoConnect = true → s.autoConnectTimer.bRunning = false
  unstarted : s.bAutoConnect = true → ∀ thread, (s.task thread).restarts = true →
    s.task thread = .setAutoConnect false
  manual : ∀ thread, s.task thread ≠ .setAutoConnect true

theorem TimerOff.autoConnect_before (off : s.TimerOff) (taken : s.step action = some next)
    (enabled : next.bAutoConnect = true) : s.bAutoConnect = true := by
  rcases step_bAutoConnect taken with same | ⟨thread, value, here, stored⟩
  · rw [← same]
    exact enabled
  · rw [stored] at enabled
    rw [enabled] at here
    exact absurd here (off.manual thread)

theorem TimerOff.timer_step (off : s.TimerOff) (taken : s.step action = some next) :
    next.task .timer = .idle := by
  cases step_task .timer taken with
  | same same =>
      rw [same]
      exact off.timer
  | call call called =>
      subst called
      cases step_moves taken with
      | call _ _ _ may => cases may
  | flow env own flow =>
      rw [off.timer] at flow
      cases flow
  | autoConnect env connectStateFunc recvFunc timer ticked here =>
      have calm := off.autoConnect
      simp [mayReset, here] at calm

theorem TimerOff.mayReset_step (off : s.TimerOff) (taken : s.step action = some next) :
    next.mayReset = false := by
  cases enabled : next.bAutoConnect with
  | true =>
      have before := off.autoConnect_before taken enabled
      exact step_mayReset taken off.autoConnect (off.stopped before) (enabled.trans before.symm)
  | false =>
      have calm := off.autoConnect
      rcases step_onTimeout taken with same | ⟨env, pc, here, kept, moved⟩ | ⟨timer, moved⟩
      · unfold mayReset at calm ⊢
        rw [same]
        cases here : s.onTimeout with
        | workRoutine pc =>
            rw [here] at calm
            cases pc with
            | testAutoConnect => exact enabled
            | _ => exact calm
        | _ => rfl
      · simp only [mayReset, here] at calm
        cases pc with
        | testAutoConnect => simp [mayReset, moved, autoConnectStep, kept, enabled]
        | resetting => simp [mayReset, moved, autoConnectStep]
        | stopTimer stop =>
            cases stop <;> simp [mayReset, moved, autoConnectStep, TimerWorker.stopStep]
        | _ => cases calm
      · cases here : s.onTimeout with
        | workRoutine pc => simp [here, TimerWorker.onTimeoutStep] at moved
        | idle =>
            simp only [here, TimerWorker.onTimeoutStep, Option.ite_none_left_eq_some,
              Option.some.injEq, Prod.mk.injEq] at moved
            simp [mayReset, ← moved.2.2]
        | testBeforeWait | testAfterWait =>
            simp only [here, TimerWorker.onTimeoutStep, Option.some.injEq, Prod.mk.injEq] at moved
            obtain ⟨-, moved⟩ := moved
            cases running : s.autoConnectTimer.bRunning <;>
              simp [mayReset, ← moved, running, enabled]
        | wait | post =>
            simp only [here, TimerWorker.onTimeoutStep, Option.some.injEq, Prod.mk.injEq] at moved
            simp [mayReset, ← moved.2]

theorem TimerOff.manual_step (off : s.TimerOff) (control : ManualControl number s action)
    (taken : s.step action = some next) (thread : Tid) :
    next.task thread ≠ .setAutoConnect true := by
  intro enabling
  cases step_task thread taken with
  | same same =>
      rw [same] at enabling
      exact off.manual thread enabling
  | call call called idle task =>
      rw [task] at enabling
      cases call <;> cases enabling
      exact control.manual thread called
  | flow env own flow =>
      rw [enabling] at flow
      generalize s.task thread = task at flow
      generalize aimed : Task.setAutoConnect true = after at flow
      cases flow with
      | send pc rest => cases rest <;> cases aimed
      | startTimer pc rest => cases rest <;> cases aimed
      | _ => cases aimed
  | autoConnect env connectStateFunc recvFunc timer ticked here task =>
      rw [task] at enabling
      cases enabling

theorem TimerOff.unstarted_step (off : s.TimerOff) (control : ManualControl number s action)
    (taken : s.step action = some next) (enabled : next.bAutoConnect = true) (thread : Tid)
    (restarts : (next.task thread).restarts = true) :
    next.task thread = .setAutoConnect false := by
  have before := off.autoConnect_before taken enabled
  cases step_task thread taken with
  | same same =>
      rw [same] at restarts ⊢
      exact off.unstarted before thread restarts
  | call call called idle task =>
      rw [task] at restarts ⊢
      cases call with
      | resetAddr | resetIp =>
          have disabled := control.disabled thread _ called rfl
          simp [disabled] at before
      | setAutoConnect value =>
          cases value with
          | true => exact absurd called (control.manual thread)
          | false => rfl
      | _ => cases restarts
  | flow env own flow =>
      by_cases quiet : (s.task thread).restarts = true
      · have here := off.unstarted before thread quiet
        subst own
        rw [step_setAutoConnect here taken] at enabled
        cases enabled
      · generalize s.task thread = task at flow quiet
        generalize next.task thread = after at flow restarts
        cases flow with
        | stop after pc rest flow =>
            cases after with
            | finish => cases rest <;> cases restarts
            | start addr connectStateFn recvFn => exact absurd rfl quiet
        | stopTimer pc rest => cases rest <;> cases restarts
        | send pc rest flow => cases rest <;> cases restarts
        | startTimer | init | setAddress | setAutoConnect => exact absurd rfl quiet
        | _ => cases restarts
  | autoConnect env connectStateFunc recvFunc timer ticked here =>
      have calm := off.autoConnect
      simp [mayReset, here] at calm

theorem TimerOff.step (off : s.TimerOff) (control : ManualControl number s action)
    (taken : s.step action = some next) : next.TimerOff := by
  refine
    { timer := off.timer_step taken
      autoConnect := off.mayReset_step taken
      stopped := ?_
      unstarted := off.unstarted_step control taken
      manual := off.manual_step control taken }
  intro enabled
  have before := off.autoConnect_before taken enabled
  by_contra running
  simp only [Bool.not_eq_false] at running
  rcases step_bRunning running taken with also | ⟨thread, here | ⟨connectStateFn, recvFn, here⟩⟩
  · simp [off.stopped before] at also
  · have started := off.unstarted before thread (by rw [here]; rfl)
    rw [here] at started
    cases started
  · have started := off.unstarted before thread (by rw [here]; rfl)
    rw [here] at started
    cases started

/-- The invariant behind `OwnCallbacks`: m_recvthread is a sound slot that only the controlling
thread fills, and a running poll thread finds its own functions in the members. -/
structure Bound (number : Nat) (s : ZmqClientBase) : Prop where
  off : s.TimerOff
  sound : s.slot.Sound
  held : ∀ thread, (s.task thread).hold ≠ .outside → thread = .user number
  resets : ∀ other, (s.task (.user other)).controls = true → other = number
  busy : ∀ session, s.task (.poll session) ≠ .idle → s.inCallback session = true
  connectStateFunc : ∀ thread connectStateFn recvFn pc,
    s.task thread = .reset (.init connectStateFn recvFn pc) → pc.connectStateFuncStored = true →
      s.connectStateFunc = connectStateFn
  recvFunc : ∀ thread connectStateFn recvFn pc,
    s.task thread = .reset (.init connectStateFn recvFn pc) → pc.recvFuncStored = true →
      s.recvFunc = recvFn
  running : ∀ session, s.Running session →
    s.started session = some (s.connectStateFunc, s.recvFunc)
  own : s.OwnCallbacks
  called : ∀ session call, (session, call) ∈ s.callbacks → session < s.sessions

-- A callback's Reset finds the poll thread it runs on still joinable.
theorem Bound.poll_refused (bound : s.Bound number) (control : ManualControl number s action)
    {session : Nat} {env : Env} {connectStateFn recvFn : Option Nat}
    (own : action = .task (.poll session) env)
    (here : s.task (.poll session) = .reset (.init connectStateFn recvFn .testJoinable)) :
    s.joinable = true := by
  have running := running_of_inCallback (bound.busy session (by simp [here]))
  have alive := (slot_running session).mpr running
  by_cases outside : ∀ thread, (s.task thread).hold = .outside
  · have stored : s.recvthread = some session := bound.sound.held outside session alive
    have unjoined : s.joined session = false := by
      by_contra joined
      simp only [Bool.not_eq_false] at joined
      have ended := bound.sound.joined_ended session joined
      exact running.2 (by simpa [slot] using ended)
    simp [joinable, stored, unjoined]
  · push Not at outside
    obtain ⟨thread, inside⟩ := outside
    cases hold : (s.task thread).hold with
    | outside => exact absurd hold inside
    | entered => exact absurd alive (bound.sound.entered_idle thread hold session)
    | storing worker =>
        obtain ⟨f, g, storing⟩ := Task.storing_of_hold hold
        obtain ⟨env', mine⟩ := control.stored thread f g worker storing
        rw [own] at mine
        cases mine
        rw [here] at storing
        cases storing

theorem Bound.guarded (bound : s.Bound number) (control : ManualControl number s action)
    {thread : Tid} {env : Env} {connectStateFn recvFn : Option Nat}
    (own : action = .task thread env)
    (here : s.task thread = .reset (.init connectStateFn recvFn .testJoinable))
    (free : s.joinable = false) : thread = .user number := by
  cases thread with
  | user other => rw [bound.resets other (by rw [here]; rfl)]
  | timer =>
      rw [bound.off.timer] at here
      cases here
  | poll session =>
      rw [bound.poll_refused control own here] at free
      cases free

theorem Bound.guardAlone (bound : s.Bound number) (control : ManualControl number s action) :
    GuardAlone s action := by
  intro thread env connectStateFn recvFn own here free other
  have mine := bound.guarded control own here free
  by_contra inside
  have same := bound.held other inside
  rw [same, ← mine, here] at inside
  exact inside rfl

theorem Bound.held_step (bound : s.Bound number) (control : ManualControl number s action)
    (taken : s.step action = some next) (thread : Tid)
    (inside : (next.task thread).hold ≠ .outside) : thread = .user number := by
  by_cases outside : (s.task thread).hold = .outside
  · obtain ⟨env, connectStateFn, recvFn, own, here, free⟩ := step_hold taken outside inside
    exact bound.guarded control own here free
  · exact bound.held thread outside

theorem Bound.resets_step (bound : s.Bound number) (control : ManualControl number s action)
    (taken : s.step action = some next) (other : Nat)
    (controls : (next.task (.user other)).controls = true) : other = number := by
  rcases step_controls taken controls with before | ⟨call, called, starts⟩ | ⟨timer, -⟩
  · exact bound.resets other before
  · exact control.caller other call called (by rintro rfl; cases starts)
  · cases timer

theorem InitFlow.connectStateFuncStored {before pc : InitPc} (flow : InitFlow s before pc)
    (stored : pc.connectStateFuncStored = true) :
    before = .setConnectStateFunc ∨ before.connectStateFuncStored = true := by
  cases flow with
  | setConnectStateFunc => exact .inl rfl
  | setRecvFunc | setUndefine => exact .inr rfl
  | _ => cases stored

theorem InitFlow.recvFuncStored {before pc : InitPc} (flow : InitFlow s before pc)
    (stored : pc.recvFuncStored = true) : before = .setRecvFunc ∨ before.recvFuncStored = true := by
  cases flow with
  | setRecvFunc => exact .inl rfl
  | setUndefine => exact .inr rfl
  | _ => cases stored

theorem Bound.sole_store (bound : s.Bound number) {thread other : Tid}
    {connectStateFn recvFn connectStateFn' recvFn' : Option Nat} {pc pc' : InitPc}
    (here : s.task thread = .reset (.init connectStateFn recvFn pc))
    (stored : pc.connectStateFuncStored = true)
    (there : s.task other = .reset (.init connectStateFn' recvFn' pc'))
    (entered : pc'.hold = .entered) : pc = pc' := by
  have alone := bound.sound.alone other thread (by simp [slot, there, Task.hold, entered])
    (by simp [slot, here, Task.hold, pc.hold_of_connectStateFuncStored stored])
  rw [← alone, there] at here
  cases here
  rfl

theorem Bound.connectStateFunc_step (bound : s.Bound number) (taken : s.step action = some next)
    {thread : Tid} {connectStateFn recvFn : Option Nat} {pc : InitPc}
    (entered : next.task thread = .reset (.init connectStateFn recvFn pc))
    (stored : pc.connectStateFuncStored = true) : next.connectStateFunc = connectStateFn := by
  have member := step_connectStateFunc taken
  rcases step_into_init taken entered with here | ⟨rfl, -⟩ | ⟨env, before, rfl, here, flow⟩
  · rcases member with same | ⟨other, env, f, g, -, storing, -⟩
    · rw [same]
      exact bound.connectStateFunc thread connectStateFn recvFn pc here stored
    · cases bound.sole_store here stored storing rfl
      cases stored
  · cases stored
  · rcases flow.connectStateFuncStored stored with rfl | also
    · rw [step_init here taken]
      rfl
    · rcases member with same | ⟨other, env', f, g, own, storing, -⟩
      · rw [same]
        exact bound.connectStateFunc thread connectStateFn recvFn before here also
      · cases own
        rw [here] at storing
        cases storing
        cases also

theorem Bound.recvFunc_step (bound : s.Bound number) (taken : s.step action = some next)
    {thread : Tid} {connectStateFn recvFn : Option Nat} {pc : InitPc}
    (entered : next.task thread = .reset (.init connectStateFn recvFn pc))
    (stored : pc.recvFuncStored = true) : next.recvFunc = recvFn := by
  have member := step_recvFunc taken
  have earlier := pc.connectStateFuncStored_of_recvFuncStored stored
  rcases step_into_init taken entered with here | ⟨rfl, -⟩ | ⟨env, before, rfl, here, flow⟩
  · rcases member with same | ⟨other, env, f, g, -, storing, -⟩
    · rw [same]
      exact bound.recvFunc thread connectStateFn recvFn pc here stored
    · cases bound.sole_store here earlier storing rfl
      cases stored
  · cases stored
  · rcases flow.recvFuncStored stored with rfl | also
    · rw [step_init here taken]
      rfl
    · rcases member with same | ⟨other, env', f, g, own, storing, -⟩
      · rw [same]
        exact bound.recvFunc thread connectStateFn recvFn before here also
      · cases own
        rw [here] at storing
        cases storing
        cases also

-- While a poll thread runs nobody is between Init's guard and its store of the thread.
theorem Bound.running_step (bound : s.Bound number) (taken : s.step action = some next)
    {session : Nat} (running : next.Running session) :
    next.started session = some (next.connectStateFunc, next.recvFunc) := by
  rcases step_sessions taken with same | ⟨thread, env, connectStateFn, recvFn, rfl, here, grown⟩
  · have alive := running.before taken same
    have idle {thread : Tid} {connectStateFn recvFn : Option Nat} {pc : InitPc}
        (here : s.task thread = .reset (.init connectStateFn recvFn pc))
        (entered : pc.hold = .entered) : False :=
      bound.sound.entered_idle thread (by simp [slot, here, Task.hold, entered]) session
        ((slot_running session).mpr alive)
    rw [step_started taken alive.1, bound.running session alive]
    rcases step_connectStateFunc taken with first | ⟨thread, env, f, g, -, here, -⟩
    · rcases step_recvFunc taken with second | ⟨thread, env, f, g, -, here, -⟩
      · rw [first, second]
      · exact (idle here rfl).elim
    · exact (idle here rfl).elim
  · have first := bound.connectStateFunc thread connectStateFn recvFn .newThread here rfl
    have second := bound.recvFunc thread connectStateFn recvFn .newThread here rfl
    have stepped := step_init here taken
    by_cases fresh : session = s.sessions
    · rw [stepped, fresh]
      simp [initStep, setTask, first, second]
    · have alive : s.Running session := by
        refine ⟨?_, ?_⟩
        · have bounded := running.1
          omega
        · intro finished
          exact running.2 (step_finished session finished taken)
      have entered : s.slot.hold thread = .entered := by simp [slot, here, Task.hold, InitPc.hold]
      exact absurd ((slot_running session).mpr alive)
        (bound.sound.entered_idle thread entered session)

theorem Bound.own_step (bound : s.Bound number) (taken : s.step action = some next) :
    next.OwnCallbacks := by
  intro session call member
  have kept (before : (session, call) ∈ s.callbacks) :
      ∃ connectStateFn recvFn, next.started session = some (connectStateFn, recvFn) ∧
        call.Of connectStateFn recvFn := by
    rw [step_started taken (bound.called session call before)]
    exact bound.own session call before
  rcases step_callbacks taken with same | ⟨number, env, added, rfl, created, alive, of, grown⟩
  · rw [same] at member
    exact kept member
  · rw [grown, List.mem_append, List.mem_singleton] at member
    rcases member with before | new
    · exact kept before
    · cases new
      refine ⟨s.connectStateFunc, s.recvFunc, ?_, of⟩
      rw [step_started taken created]
      exact bound.running session ⟨created, alive⟩

theorem Bound.step (bound : s.Bound number) (control : ManualControl number s action)
    (taken : s.step action = some next) : next.Bound number :=
  { off := bound.off.step control taken
    sound := sound_step bound.sound (bound.guardAlone control) taken
    held := bound.held_step control taken
    resets := bound.resets_step control taken
    busy := fun session task => step_busy taken (bound.busy session) task
    connectStateFunc := fun _ _ _ _ entered stored =>
      bound.connectStateFunc_step taken entered stored
    recvFunc := fun _ _ _ _ entered stored => bound.recvFunc_step taken entered stored
    running := fun _ running => bound.running_step taken running
    own := bound.own_step taken
    called := step_called bound.called taken }

theorem constructed_bound (number : Nat) (build : Build) (lastpong : UInt32)
    (bStopMonitor : Bool) : (constructed build lastpong bStopMonitor).Bound number := by
  constructor
  case off => constructor <;> simp [constructed, mayReset, Task.restarts]
  case sound => exact constructed_sound build lastpong bStopMonitor
  all_goals simp [constructed, Task.hold, Task.controls, Running, OwnCallbacks]

/-- In every run of one controlling thread and of callbacks, with auto-connect off, each callback
is one of the session whose poll thread makes it. -/
theorem callbacks_own_session (number : Nat) (build : Build) (lastpong : UInt32)
    (bStopMonitor : Bool) (actions : List Action) (reached : ZmqClientBase)
    (control : Transition.Along step (ManualControl number)
      (constructed build lastpong bStopMonitor) actions)
    (run : Transition.run step (constructed build lastpong bStopMonitor) actions = some reached) :
    reached.OwnCallbacks :=
  (Transition.run_invariant (Bound number) (fun _ _ _ bound control taken => bound.step control taken)
    (constructed_bound number build lastpong bStopMonitor) control run).own

def manualCheck (number : Nat) (threads : List Tid) (s : ZmqClientBase) (action : Action) : Bool :=
  (match action with
    | .call thread call =>
        (match thread with
          | .user other => decide (call = .sendData ∨ other = number)
          | _ => true) &&
        (!call.starts || !s.bAutoConnect) && decide (call ≠ .setAutoConnect true)
    | _ => true) &&
  threads.all fun thread =>
    match s.task thread with
    | .reset (.init _ _ (.storeThread _)) =>
        match action with
        | .task other _ => decide (other = thread)
        | _ => false
    | _ => true

theorem Only.manualControl {threads : List Tid} (only : s.Only threads)
    (checked : manualCheck number threads s action = true) : ManualControl number s action := by
  simp only [manualCheck, Bool.and_eq_true, List.all_eq_true] at checked
  obtain ⟨calls, stores⟩ := checked
  refine ⟨?_, ?_, ?_, ?_⟩
  · rintro other call rfl unsent
    simp only [unsent, false_or, Bool.and_eq_true, decide_eq_true_eq] at calls
    exact calls.1.1
  · rintro thread call rfl starts
    simp only [starts, Bool.not_true, Bool.false_or, Bool.and_eq_true] at calls
    simpa using calls.1.2
  · rintro thread rfl
    simp at calls
  · intro thread connectStateFn recvFn session here
    by_cases listed : thread ∈ threads
    · have mine := stores thread listed
      rw [here] at mine
      cases action with
      | task other env =>
          simp only [decide_eq_true_eq] at mine
          exact ⟨env, by rw [mine]⟩
      | _ => cases mine
    · rw [only thread listed] at here
      cases here

-- Thread 0 starts a session, whose callback calls Reset("tcp://b:1", ...), and then a second one.
def resetInCallback : List Action :=
  callSteps (.user 0) (.setAutoConnect false) 5 ++
    callSteps (.user 0) (.resetAddr "tcp://a:1" (some 1) (some 2)) 15 ++ pollSteps 0 14 ++
    taskSteps (.user 0) 3 ++
    [.recvPoll 0 { monitor := true }, .recvPoll 0 { event := some .connected }] ++
    pollSteps 0 2 ++ callSteps (.poll 0) (.resetAddr "tcp://b:1" (some 3) (some 4)) 10 ++
    pollSteps 0 4 ++ [.recvPoll 0 { event := some .disconnected }] ++ pollSteps 0 5 ++
    [.recvPoll 0 { event := some .stopped }] ++ pollSteps 0 2 ++
    callSteps (.user 0) (.resetAddr "tcp://c:1" (some 5) (some 6)) 18 ++ pollSteps 1 14 ++
    [.recvPoll 1 { client := true }] ++ pollSteps 1 3

theorem callbacks_own_session_second : ∃ reached,
    Transition.run step (constructed .other 0 false) resetInCallback = some reached ∧
    reached.OwnCallbacks ∧
    reached.callbacks = [(0, .connectState 1 .onEventConnected),
      (0, .connectState 1 .onEventDisconnected), (1, .recv 6)] := by
  have accepted : (Transition.run step (constructed .other 0 false) resetInCallback).any
      (fun state => decide (state.callbacks = [(0, .connectState 1 .onEventConnected),
        (0, .connectState 1 .onEventDisconnected), (1, .recv 6)])) = true := by
    decide +kernel
  obtain ⟨reached, run, checked⟩ := Transition.reached_of_check accepted
  have control : Transition.Along step (ManualControl 0) (constructed .other 0 false)
      resetInCallback :=
    only_along (manualCheck 0 [.user 0, .poll 0])
      (fun _ _ only _ checked => only.manualControl checked) (constructed_only _ _ _ _)
      (by decide +kernel)
  exact ⟨reached, run, callbacks_own_session 0 .other 0 false _ reached control run,
    by simpa using checked⟩

end ZmqClientBase

end Zmqcpp
