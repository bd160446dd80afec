import Zmqcpp.Client.Threads
import Zmqcpp.Shared.WorkerSlot

set_option autoImplicit false

namespace Zmqcpp

open WorkerSlot

-- Init holds the slot m_recvthread from its joinable test to its store.
def InitPc.hold : InitPc → Hold
  | .testJoinable | .testState | .readResult => .outside
  | .storeThread session => .storing session
  | _ => .entered

def Task.hold : Task → Hold
  | .reset (.init _ _ pc) => pc.hold
  | _ => .outside

namespace ZmqClientBase

variable {s next : ZmqClientBase} {action : Action}

def slot (s : ZmqClientBase) : Slot Tid where
  worker := s.recvthread
  joined := s.joined
  count := s.sessions
  ended session := decide (s.poll session = .finished)
  hold thread := (s.task thread).hold

def Running (s : ZmqClientBase) (session : Nat) : Prop :=
  session < s.sessions ∧ s.poll session ≠ .finished

instance (session : Nat) : Decidable (s.Running session) :=
  inferInstanceAs (Decidable (_ ∧ _))

theorem slot_running (session : Nat) : s.slot.Running session ↔ s.Running session := by
  simp [Slot.Running, Running, slot]

theorem slot_free : s.slot.Free ↔ s.joinable = false := by
  cases stored : s.recvthread <;> simp [Slot.Free, slot, joinable, stored]

theorem slot_setTask (thread : Tid) (task : Task) :
    (s.setTask thread task).slot =
      { s.slot with hold := Function.update s.slot.hold thread task.hold } := by
  simp only [slot, setTask_task, Slot.mk.injEq]
  refine ⟨rfl, rfl, rfl, rfl, ?_⟩
  funext other
  by_cases same : other = thread <;> simp [same]

theorem slot_setTask_same {thread : Tid} {task : Task}
    (same : task.hold = (s.task thread).hold) : (s.setTask thread task).slot = s.slot := by
  have unchanged : Function.update s.slot.hold thread task.hold = s.slot.hold := by
    rw [same]
    exact Function.update_eq_self thread s.slot.hold
  rw [slot_setTask, unchanged]

theorem slot_setPoll (session : Nat) (pc : RecvPollPc) :
    (s.setPoll session pc).slot =
      { s.slot with
        ended := Function.update s.slot.ended session (decide (pc = .finished)) } := by
  simp only [slot, setPoll_poll, Slot.mk.injEq]
  refine ⟨rfl, rfl, rfl, ?_, rfl⟩
  funext other
  by_cases same : other = session <;> simp [same]

theorem Call.task_hold (call : Call) : call.task.hold = .outside := by
  cases call <;> rfl

theorem afterStop_hold (after : AfterStop) (rest : Option StopPc) :
    (Task.reset (.afterStop after rest)).hold = .outside := by
  cases rest with
  | none => cases after <;> rfl
  | some pc => rfl

theorem slot_stopStep {stopped : ZmqClientBase} {thread : Tid} {pc : StopPc} {rest : Option StopPc}
    (taken : s.stopStep thread pc = some (stopped, rest)) :
    stopped.slot = s.slot ∨ Guarded s.slot stopped.slot := by
  have frame := stopStep_frame taken
  by_cases joins : ∃ session, pc = .joining session
  · obtain ⟨session, rfl⟩ := joins
    simp only [stopStep, Option.ite_none_right_eq_some] at taken
    obtain ⟨finished, taken⟩ := taken
    cases taken
    exact .inr ⟨.join session (by simpa [slot] using finished), exclusive_of_hold rfl⟩
  · have joined := frame.joined (by simpa using joins)
    left
    simp [slot, frame.sessions, frame.recvthread, frame.poll, frame.task, joined]

/-- A step takes Init's guard only while no other thread is between it and the store. -/
def GuardAlone (s : ZmqClientBase) (action : Action) : Prop :=
  ∀ thread env connectStateFn recvFn, action = .task thread env →
    s.task thread = .reset (.init connectStateFn recvFn .testJoinable) → s.joinable = false →
      ∀ other, (s.task other).hold = .outside

theorem slot_initStep (thread : Tid) (env : Env) (connectStateFn recvFn : Option Nat) (pc : InitPc)
    (here : s.task thread = .reset (.init connectStateFn recvFn pc))
    (alone : GuardAlone s (.task thread env)) :
    let result := s.initStep env connectStateFn recvFn pc
    let moved := result.1.setTask thread (.reset (.afterInit connectStateFn recvFn result.2))
    moved.slot = s.slot ∨ Guarded s.slot moved.slot := by
  have hold : s.slot.hold thread = pc.hold := by simp [slot, here, Task.hold]
  cases pc with
  | testJoinable =>
      cases busy : s.joinable with
      | true =>
          left
          simp only [initStep, busy, if_true]
          exact slot_setTask_same (by rw [here]; rfl)
      | false =>
          right
          simp only [initStep, busy, slot_setTask]
          refine ⟨.enter thread hold (slot_free.mpr busy), ?_⟩
          intro _ _ _
          exact alone thread env connectStateFn recvFn rfl here busy
  | newThread =>
      right
      simp only [initStep, slot_setTask]
      exact ⟨.start thread hold, exclusive_of_inside (by simp [hold, InitPc.hold]) rfl⟩
  | storeThread session =>
      right
      simp only [initStep, slot_setTask]
      exact ⟨.store thread session hold, exclusive_of_inside (by simp [hold, InitPc.hold]) rfl⟩
  | testAutoConnect | testState =>
      left
      simp only [initStep]
      exact slot_setTask_same (by rw [here]; split_ifs <;> rfl)
  | startTimer pc =>
      left
      simp only [initStep]
      exact slot_setTask_same (by rw [here]; cases pc <;> simp [TimerWorker.startStep] <;>
        (try split_ifs) <;> rfl)
  | _ =>
      left
      simp only [initStep]
      exact slot_setTask_same (by rw [here]; rfl)

theorem slot_recvPollStep {polled : ZmqClientBase} {session : Nat} {env : Env} {pc : RecvPollPc}
    (created : session < s.sessions)
    (taken : s.recvPollStep session env (s.poll session) = some (polled, pc)) :
    (polled.setPoll session pc).slot = s.slot ∨
      Guarded s.slot (polled.setPoll session pc).slot := by
  have frame := recvPollStep_frame taken
  have same : polled.slot = s.slot := by
    simp [slot, frame.sessions, frame.recvthread, frame.poll, frame.task, frame.joined]
  rw [slot_setPoll, same]
  by_cases ends : pc = .finished
  · right
    simp only [ends, decide_true]
    exact ⟨.finish session created, exclusive_of_hold rfl⟩
  · left
    have running : s.poll session ≠ .finished := by
      intro finished
      simp [finished, recvPollStep] at taken
    have unchanged : Function.update s.slot.ended session (decide (pc = .finished)) =
        s.slot.ended := by
      have alive : s.slot.ended session = decide (pc = .finished) := by simp [slot, running, ends]
      rw [← alive, Function.update_eq_self]
    rw [unchanged]

-- m_recvthread is used as a slot for one worker: every step is one of the slot, or none.
theorem slot_step (taken : s.step action = some next) (alone : GuardAlone s action) :
    next.slot = s.slot ∨ Guarded s.slot next.slot := by
  cases step_moves taken with
  | call thread call idle =>
      left
      exact slot_setTask_same (by rw [idle, Call.task_hold]; rfl)
  | stopTimer thread env pc here =>
      left
      exact slot_setTask_same (by rw [here]; cases pc <;> rfl)
  | stop thread env after pc stopped rest here moved =>
      have frame := stopStep_frame moved
      have same : (stopped.setTask thread (.reset (.afterStop after rest))).slot = stopped.slot :=
        slot_setTask_same (by rw [frame.task, here, afterStop_hold]; rfl)
      rw [same]
      exact slot_stopStep moved
  | setAddress thread env addr connectStateFn recvFn here =>
      left
      exact slot_setTask_same (by rw [here]; rfl)
  | init thread env connectStateFn recvFn pc here =>
      exact slot_initStep thread env connectStateFn recvFn pc here alone
  | result thread env value here =>
      left
      exact slot_setTask_same (by rw [here]; rfl)
  | send thread env pc sent rest here moved =>
      have frame := sendStep_frame moved
      have same : sent.slot = s.slot := by
        simp [slot, frame.sessions, frame.recvthread, frame.poll, frame.task, frame.joined]
      left
      rw [← same]
      exact slot_setTask_same (by rw [frame.task, here]; cases rest <;> rfl)
  | setAutoConnect thread env value here =>
      left
      exact slot_setTask_same (by rw [here]; rfl)
  | startTimer thread env pc here =>
      left
      exact slot_setTask_same (by rw [here]; cases (s.autoConnectTimer.startStep pc).2 <;> rfl)
  | setHeartbeatInterval thread env interval delay here =>
      left
      exact slot_setTask_same (by rw [here]; rfl)
  | setHeartbeatDelay thread env delay here =>
      left
      exact slot_setTask_same (by rw [here]; rfl)
  | recvPoll session env polled pc created moved => exact slot_recvPollStep created moved
  | autoConnect env pc here idle =>
      left
      cases pc with
      | copyAddress connectStateFunc recvFunc =>
          have moved (task : Task) (outside : task.hold = .outside) :
              (s.setTask .timer task).slot = s.slot :=
            slot_setTask_same (by rw [idle, outside]; rfl)
          exact moved (.reset (.stop (.start s.address connectStateFunc recvFunc) .clearRun)) rfl
      | _ => rfl
  | onTimeout env timer pc moved => exact .inl rfl

theorem step_hold {thread : Tid} (taken : s.step action = some next)
    (outside : (s.task thread).hold = .outside) (inside : (next.task thread).hold ≠ .outside) :
    ∃ env connectStateFn recvFn, action = .task thread env ∧
      s.task thread = .reset (.init connectStateFn recvFn .testJoinable) ∧
      s.joinable = false := by
  cases step_task thread taken with
  | same same =>
      rw [same] at inside
      exact absurd outside inside
  | call call called idle task =>
      rw [task] at inside
      exact absurd (Call.task_hold call) inside
  | flow env own flow =>
      generalize here : s.task thread = task at flow outside
      generalize next.task thread = after at flow inside
      cases flow with
      | stopTimer pc rest => cases rest <;> exact absurd rfl inside
      | stop after pc rest flow => exact absurd (afterStop_hold after rest) inside
      | send pc rest flow => cases rest <;> exact absurd rfl inside
      | startTimer pc rest => cases rest <;> exact absurd rfl inside
      | init env' connectStateFn recvFn pc =>
          cases pc with
          | testJoinable =>
              cases busy : s.joinable with
              | true =>
                  simp only [initStep, busy, if_true] at inside
                  exact absurd rfl inside
              | false => exact ⟨env, connectStateFn, recvFn, own, rfl, rfl⟩
          | testState =>
              simp only [initStep] at inside
              split_ifs at inside <;> exact absurd rfl inside
          | readResult => exact absurd rfl inside
          | _ => cases outside
      | _ => exact absurd rfl inside
  | autoConnect env connectStateFunc recvFunc timer ticked here task =>
      rw [task] at inside
      exact absurd rfl inside

theorem running_of_inCallback {session : Nat} (inside : s.inCallback session = true) :
    s.Running session := by
  unfold inCallback at inside
  split at inside
  · next here => exact ⟨by simpa using inside, by simp [here]⟩
  · next here => exact ⟨by simpa using inside, by simp [here]⟩
  · cases inside

theorem step_busy {session : Nat} (taken : s.step action = some next)
    (busy : s.task (.poll session) ≠ .idle → s.inCallback session = true)
    (task : next.task (.poll session) ≠ .idle) : next.inCallback session = true := by
  have kept (inside : s.inCallback session = true) (same : next.poll session = s.poll session) :
      next.inCallback session = true := by
    have grown := step_sessions_le taken
    unfold inCallback at inside ⊢
    rw [same]
    cases here : s.poll session with
    | inRecvFunc | inConnectStateFunc =>
        simp only [here, decide_eq_true_eq] at inside ⊢
        omega
    | _ => simp [here] at inside
  cases step_task (.poll session) taken with
  | same same =>
      rw [same] at task
      apply kept (busy task)
      rcases step_poll session taken with unmoved | ⟨env, polled, pc, -, -, moved, -⟩
      · exact unmoved
      · have inside := busy task
        unfold inCallback at inside
        cases here : s.poll session with
        | inRecvFunc | inConnectStateFunc => simp [here, recvPollStep, task] at moved
        | _ => simp [here] at inside
  | call call called =>
      subst called
      cases step_moves taken with
      | call _ _ _ may => exact kept may rfl
  | flow env own flow =>
      have waiting : s.task (.poll session) ≠ .idle := by
        intro idle
        rw [idle] at flow
        cases flow
      apply kept (busy waiting)
      rcases step_poll session taken with unmoved | ⟨env, polled, pc, polling, -⟩
      · exact unmoved
      · rw [own] at polling
        cases polling
  | autoConnect env connectStateFunc recvFunc timer => cases timer

theorem sound_step (sound : s.slot.Sound) (alone : GuardAlone s action)
    (taken : s.step action = some next) : next.slot.Sound := by
  rcases slot_step taken alone with same | guarded
  · rw [same]
    exact sound
  · exact guarded.sound sound

theorem constructed_sound (build : Build) (lastpong : UInt32) (bStopMonitor : Bool) :
    (constructed build lastpong bStopMonitor).slot.Sound := by
  constructor <;> simp [slot, constructed, Task.hold, Slot.Running]

theorem sound_of_run {build : Build} {lastpong : UInt32} {bStopMonitor : Bool}
    {actions : List Action}
    (alone : Transition.Along step GuardAlone (constructed build lastpong bStopMonitor) actions)
    (reached : Transition.run step (constructed build lastpong bStopMonitor) actions = some s) :
    s.slot.Sound :=
  Transition.run_invariant (fun state => state.slot.Sound)
    (fun _ _ _ sound alone taken => sound_step sound alone taken)
    (constructed_sound build lastpong bStopMonitor) alone reached

def OnePollThread (s : ZmqClientBase) : Prop :=
  ∀ left right, s.Running left → s.Running right → left = right

theorem one_poll_thread (build : Build) (lastpong : UInt32) (bStopMonitor : Bool)
    (actions : List Action) (reached : ZmqClientBase)
    (alone : Transition.Along step GuardAlone (constructed build lastpong bStopMonitor) actions)
    (run : Transition.run step (constructed build lastpong bStopMonitor) actions = some reached) :
    reached.OnePollThread := by
  have sound := sound_of_run alone run
  intro left right leftRunning rightRunning
  rw [← slot_running] at leftRunning rightRunning
  exact sound.unique leftRunning rightRunning

theorem Only.guardAlone {thread : Tid} (only : s.Only [thread])
    (mine : byThreads [thread] action = true) : GuardAlone s action := by
  intro caller env connectStateFn recvFn same here _ other
  subst same
  rcases only.caller_or_idle mine other with rfl | idle
  · rw [here]
    rfl
  · rw [idle]
    rfl

theorem one_poll_thread_started : ∃ reached,
    Transition.run step (constructed .other 0 false)
      (callSteps (.user 0) (.resetAddr "tcp://a:1" none none) 18) = some reached ∧
    reached.OnePollThread ∧ reached.Running 0 := by
  have accepted : (Transition.run step (constructed .other 0 false)
      (callSteps (.user 0) (.resetAddr "tcp://a:1" none none) 18)).any
        (fun state => decide (state.Running 0)) = true := by
    decide +kernel
  obtain ⟨reached, run, running⟩ := Transition.reached_of_check accepted
  have alone : Transition.Along step GuardAlone (constructed .other 0 false)
      (callSteps (.user 0) (.resetAddr "tcp://a:1" none none) 18) :=
    only_along (fun _ _ => true) (fun _ _ only mine _ => only.guardAlone mine)
      (constructed_only [.user 0] _ _ _) (by decide +kernel)
  exact ⟨reached, run, one_poll_thread .other 0 false _ reached alone run, by simpa using running⟩

-- Both calls pass Init's guard before either of them stores its thread.
theorem two_poll_threads : ∃ reached,
    Transition.run step (constructed .other 0 false)
      (callSteps (.user 0) (.resetAddr "tcp://a:1" none none) 18 ++
        callSteps (.user 1) (.resetAddr "tcp://b:1" none none) 15) = some reached ∧
    ¬reached.OnePollThread := by
  have accepted : (Transition.run step (constructed .other 0 false)
      (callSteps (.user 0) (.resetAddr "tcp://a:1" none none) 18 ++
        callSteps (.user 1) (.resetAddr "tcp://b:1" none none) 15)).any
        (fun state => decide (state.Running 0 ∧ state.Running 1)) = true := by
    decide +kernel
  obtain ⟨reached, run, running⟩ := Transition.reached_of_check accepted
  simp only [decide_eq_true_eq] at running
  refine ⟨reached, run, fun unique => ?_⟩
  exact absurd (unique 0 1 running.1 running.2) (by decide)

end ZmqClientBase

end Zmqcpp
