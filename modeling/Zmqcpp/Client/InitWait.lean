import Zmqcpp.Client.PollThread
import Zmqcpp.Client.StopRequest

set_option autoImplicit false

namespace Zmqcpp

def Task.joining : Task → Bool
  | .reset (.stop _ .join) | .reset (.stop _ (.joining _)) => true
  | _ => false

def Task.storesUndefine : Task → Bool
  | .reset (.stop _ .setUndefine) | .reset (.init _ _ .setUndefine) => true
  | _ => false

def RecvPollPc.setupRemaining : RecvPollPc → Nat
  | .clearStopMonitor => 12
  | .setThreadId => 11
  | .newClientSocket => 10
  | .newBackSocket => 9
  | .makeIdentity => 8
  | .setMonitorSocket => 7
  | .setClientOptions => 6
  | .connectClient => 5
  | .setBackOptions => 4
  | .setInprocAddress => 3
  | .bindBack => 2
  | .setRun => 1
  | _ => 0

/-- The most steps RecvPoll can take before it stores a state. -/
def RecvPollPc.untilStore (pc : RecvPollPc) : Nat :=
  if pc.inSetup then 6 * 1001 + 10 + pc.setupRemaining else pc.remaining

-- The poll loop does not come to its end while m_bRun is true, but it may be about to store.
def RecvPollPc.looping : RecvPollPc → Bool
  | .storeState _ _ => false
  | pc => decide (pc.stage = 4)

theorem RecvPollPc.ne_finished_of_stage {pc : RecvPollPc} (early : pc.stage ≤ 6) : pc ≠ .finished := by
  rintro rfl
  simp [RecvPollPc.stage] at early

theorem MonitorLoop.next_ne_finished (loop : MonitorLoop) : loop.next ≠ .finished := by
  cases loop with
  | poll => simp [MonitorLoop.next]
  | drain timeoutCount =>
      simp only [MonitorLoop.next]
      split_ifs <;> simp

theorem RecvPollPc.looping_stage {pc : RecvPollPc} (looping : pc.looping = true) : pc.stage = 4 := by
  cases pc with
  | storeState => cases looping
  | _ => simpa [RecvPollPc.looping] using looping

namespace ZmqClientBase

variable {s next : ZmqClientBase} {action : Action}

/-- The poll thread has been started, has not ended and will still store a state: it is not left
to the poll loop, and the call it is in, if it is in a callback, is neither a wait nor a join. -/
def Storing (s : ZmqClientBase) (session : Nat) : Prop :=
  s.Running session ∧ ((s.poll session).looping = true → s.bRun = false) ∧
    (s.task (.poll session)).waiting = false ∧ (s.task (.poll session)).joining = false

instance (session : Nat) : Decidable (s.Storing session) :=
  inferInstanceAs (Decidable (_ ∧ _))

/-- The thread's next step can be taken unless it is in a callback's call, and each of its steps
stores a state other than UNDEFINE or is nearer to that. -/
def WillStore (s : ZmqClientBase) (session : Nat) : Prop :=
  (∀ env, s.crashed = false → s.task (.poll session) = .idle →
    (s.step (.recvPoll session env)).isSome) ∧
  ∀ env next, s.step (.recvPoll session env) = some next →
    next.transportState ≠ .undefine ∨
      next.Storing session ∧ (next.poll session).untilStore < (s.poll session).untilStore

def WaitServed (s : ZmqClientBase) : Prop :=
  s.transportState = .undefine → ∀ thread, (s.task thread).waiting = true →
    ∃ session, s.Storing session ∧ s.WillStore session

def NoneWaiting (s : ZmqClientBase) : Prop :=
  ∀ thread, (s.task thread).waiting = false

/-- UNDEFINE is stored only while no thread is in Init's wait or some poll thread will still store
a state, and a callback's Stop joins only while none is or another poll thread will. -/
structure UndefineServed (s : ZmqClientBase) (action : Action) : Prop where
  stores : ∀ thread env, action = .task thread env → (s.task thread).storesUndefine = true →
    s.NoneWaiting ∨ ∃ session, s.Storing session
  joins : ∀ number env after, action = .task (.poll number) env →
    s.task (.poll number) = .reset (.stop after .testThreadId) →
    s.recvPollThreadid ≠ some (.poll number) →
      s.NoneWaiting ∨ ∃ session, session ≠ number ∧ s.Storing session

theorem recvPollStep_untilStore {polled : ZmqClientBase} {session : Nat} {env : Env}
    {pc after : RecvPollPc} (taken : s.recvPollStep session env pc = some (polled, after))
    (leaves : pc.looping = true → s.bRun = false) : after.untilStore < pc.untilStore := by
  cases setup : pc.inSetup with
  | true =>
      cases pc with
      | connectClient | bindBack =>
          simp only [recvPollStep] at taken
          split_ifs at taken <;> cases taken <;> decide
      | newClientSocket | newBackSocket | setMonitorSocket | setClientOptions | setBackOptions =>
          cases taken
          split_ifs <;> decide
      | clearStopMonitor | setThreadId | makeIdentity | setInprocAddress | setRun =>
          cases taken
          decide
      | monitorRecv loop => cases loop <;> cases setup
      | storeState loop => cases loop <;> cases setup
      | clearRun loop => cases loop <;> cases setup
      | connectCallback loop => cases loop <;> cases setup
      | inConnectStateFunc loop => cases loop <;> cases setup
      | _ => cases setup
  | false =>
      have grows := recvPollStep_stage taken
      have later : after.inSetup = false := by
        simp only [RecvPollPc.inSetup, decide_eq_false_iff_not] at setup ⊢
        omega
      have falls := recvPollStep_remaining taken setup fun here => leaves (by rw [here]; rfl)
      simpa [RecvPollPc.untilStore, setup, later] using falls

theorem recvPollStep_ends {polled : ZmqClientBase} {session : Nat} {env : Env}
    {pc after : RecvPollPc} (taken : s.recvPollStep session env pc = some (polled, after))
    (ends : after = .finished) : pc = .setPollFinish ∨ pc = .setFailed := by
  have early {pc : RecvPollPc} (stage : pc.stage = 4) (ends : pc = .finished) : False :=
    RecvPollPc.ne_finished_of_stage (by omega) ends
  cases pc with
  | setPollFinish => exact .inl rfl
  | setFailed => exact .inr rfl
  | poll =>
      cases taken
      exact (early (afterPoll_stage _ _ _) ends).elim
  | backSocketRecv client monitor =>
      cases taken
      exact (early (afterBack_stage client monitor) ends).elim
  | recviov monitor =>
      cases taken
      split_ifs at ends
      exact (early (afterClient_stage monitor) ends).elim
  | recvCallback monitor =>
      simp only [recvPollStep] at taken
      split at taken <;> cases taken
      · exact (early (afterClient_stage monitor) ends).elim
      · cases ends
  | inRecvFunc monitor =>
      simp only [recvPollStep, Option.ite_none_right_eq_some] at taken
      obtain ⟨-, taken⟩ := taken
      cases taken
      exact (early (afterClient_stage monitor) ends).elim
  | monitorRecv loop =>
      simp only [recvPollStep] at taken
      split at taken <;> cases taken
      · exact absurd ends loop.next_ne_finished
      · exact absurd ends loop.next_ne_finished
      · split_ifs at ends
  | connectCallback loop event =>
      simp only [recvPollStep] at taken
      split at taken <;> cases taken
      · exact absurd ends loop.next_ne_finished
      · cases ends
  | inConnectStateFunc loop =>
      simp only [recvPollStep, Option.ite_none_right_eq_some] at taken
      obtain ⟨-, taken⟩ := taken
      cases taken
      exact absurd ends loop.next_ne_finished
  | connectClient | bindBack | storeState =>
      simp only [recvPollStep] at taken
      split_ifs at taken <;> cases taken <;> cases ends
  | newClientSocket | newBackSocket | setMonitorSocket | setClientOptions | setBackOptions
  | testRun | testStopMonitor =>
      cases taken
      split_ifs at ends
  | finished => cases taken
  | _ =>
      cases taken
      cases ends

theorem recvPollStep_finished {polled : ZmqClientBase} {session : Nat} {env : Env}
    {pc after : RecvPollPc} (taken : s.recvPollStep session env pc = some (polled, after))
    (ends : after = .finished) : polled.transportState ≠ .undefine := by
  rcases recvPollStep_ends taken ends with rfl | rfl <;> (cases taken; simp)

theorem recvPollStep_looping {polled : ZmqClientBase} {session : Nat} {env : Env}
    {pc after : RecvPollPc} (taken : s.recvPollStep session env pc = some (polled, after))
    (looping : after.looping = true) :
    polled.transportState ≠ .undefine ∨ pc.looping = true ∧ (s.bRun = false → polled.bRun = false) := by
  have grows := recvPollStep_stage taken
  rw [RecvPollPc.looping_stage looping] at grows
  have frame := recvPollStep_frame taken
  cases pc with
  | setTransporting =>
      cases taken
      simp
  | storeState loop event =>
      simp only [recvPollStep] at taken
      split_ifs at taken <;> (cases taken; simp)
  | connectClient | bindBack =>
      simp only [recvPollStep] at taken
      split_ifs at taken <;> cases taken <;> cases looping
  | newClientSocket | newBackSocket | setMonitorSocket | setClientOptions | setBackOptions =>
      cases taken
      split_ifs at looping <;> cases looping
  | clearStopMonitor | setThreadId | makeIdentity | setInprocAddress | setRun =>
      cases taken
      cases looping
  | monitorRecv loop | connectCallback loop | inConnectStateFunc loop =>
      cases loop with
      | poll =>
          right
          rw [frame.bRun (by simp) (by simp)]
          exact ⟨rfl, id⟩
      | drain => simp [RecvPollPc.stage, MonitorLoop.stage] at grows
  | clearRun loop event =>
      cases taken
      cases loop with
      | poll => exact .inr ⟨rfl, fun _ => rfl⟩
      | drain => simp [RecvPollPc.stage, MonitorLoop.stage] at grows
  | testStopMonitor | setPollFinish | setFailed | finished => simp [RecvPollPc.stage] at grows
  | _ =>
      right
      rw [frame.bRun (by simp) (by simp)]
      exact ⟨rfl, id⟩

theorem Storing.own_step {session : Nat} {env : Env} (storing : s.Storing session)
    (taken : s.step (.recvPoll session env) = some next)
    (undefine : next.transportState = .undefine) :
    next.Storing session ∧ (next.poll session).untilStore < (s.poll session).untilStore := by
  obtain ⟨running, leaves, waits, joins⟩ := storing
  obtain ⟨polled, pc, created, moved, rfl⟩ := step_recvPoll taken
  have frame := recvPollStep_frame moved
  rw [setPoll_poll, Function.update_self]
  refine ⟨⟨⟨?_, ?_⟩, ?_, ?_, ?_⟩, recvPollStep_untilStore moved leaves⟩
  · exact lt_of_lt_of_eq created frame.sessions.symm
  · rw [setPoll_poll, Function.update_self]
    intro ends
    exact recvPollStep_finished moved ends undefine
  · rw [setPoll_poll, Function.update_self]
    intro looping
    rcases recvPollStep_looping moved looping with stores | ⟨before, kept⟩
    · exact absurd undefine stores
    · exact kept (leaves before)
  · exact (congrArg Task.waiting (congrFun frame.task _)).trans waits
  · exact (congrArg Task.joining (congrFun frame.task _)).trans joins

theorem Storing.willStore {session : Nat} (storing : s.Storing session) : s.WillStore session := by
  refine ⟨?_, ?_⟩
  · intro env running idle
    have enabled : (s.recvPollStep session env (s.poll session)).isSome :=
      recvPollStep_enabled storing.1.2 idle
    simp [step, running, storing.1.1, enabled]
  · intro env next taken
    by_cases undefine : next.transportState = .undefine
    · exact .inr (storing.own_step taken undefine)
    · exact .inl undefine

theorem step_joining {thread : Tid} (taken : s.step action = some next)
    (joining : (next.task thread).joining = true) :
    (s.task thread).joining = true ∨ ∃ env after, action = .task thread env ∧
      s.task thread = .reset (.stop after .testThreadId) ∧ s.recvPollThreadid ≠ some thread := by
  cases step_task thread taken with
  | same same =>
      rw [same] at joining
      exact .inl joining
  | call call called idle task =>
      rw [task] at joining
      cases call <;> cases joining
  | flow env own flow =>
      subst own
      generalize here : s.task thread = task at flow
      generalize there : next.task thread = arrived at flow joining
      cases flow with
      | stopTimer pc rest => cases rest <;> cases joining
      | stop after pc rest flow =>
          cases flow with
          | otherThread =>
              refine .inr ⟨env, after, rfl, rfl, ?_⟩
              intro same
              obtain ⟨stopped, rest, moved, rfl⟩ := step_stop here taken
              cases moved
              simp [same, ResetPc.afterStop] at there
          | join session stored => exact .inl rfl
          | clearIdentity => cases after <;> cases joining
          | _ => cases joining
      | init env connectStateFn recvFn pc =>
          cases ended : (s.initStep env connectStateFn recvFn pc).2 <;>
            simp [ended, ResetPc.afterInit, Task.joining] at joining
      | send pc rest flow => cases rest <;> cases joining
      | startTimer pc rest => cases rest <;> cases joining
      | _ => cases joining
  | autoConnect env connectStateFunc recvFunc timer ticked here task =>
      rw [task] at joining
      cases joining

structure Served (s : ZmqClientBase) : Prop where
  unstarted : s.Unstarted
  busy : ∀ session, s.task (.poll session) ≠ .idle → s.inCallback session = true
  served : s.transportState = .undefine → ∀ thread, (s.task thread).waiting = true →
    ∃ session, s.Storing session

theorem Served.idle (served : s.Served) {session : Nat} (outside : s.inCallback session = false) :
    s.task (.poll session) = .idle := by
  by_contra busy
  rw [served.busy session busy] at outside
  cases outside

theorem Served.started (served : s.Served) {thread : Tid} {env : Env}
    {connectStateFn recvFn : Option Nat}
    (here : s.task thread = .reset (.init connectStateFn recvFn .newThread))
    (taken : s.step (.task thread env) = some next) : next.Storing s.sessions := by
  have fresh := served.unstarted s.sessions (Nat.le_refl _)
  have idle : s.task (.poll s.sessions) = .idle := served.idle (by simp [inCallback, fresh])
  have other : Tid.poll s.sessions ≠ thread := by
    rintro rfl
    rw [idle] at here
    cases here
  have still : next.task (.poll s.sessions) = .idle := by
    rw [step_init here taken, setTask_task, Function.update_of_ne other]
    exact idle
  have same : next.poll s.sessions = .clearStopMonitor := by
    rw [step_init here taken]
    exact fresh
  refine ⟨⟨?_, by simp [same]⟩, ?_, by simp [still, Task.waiting], by simp [still, Task.joining]⟩
  · rw [step_init here taken]
    exact Nat.lt_succ_self s.sessions
  · rw [same]
    intro looping
    cases looping

theorem Served.setRun (served : s.Served) {session : Nat} {env : Env}
    (here : s.poll session = .setRun) (taken : s.step (.recvPoll session env) = some next) :
    next.Storing session := by
  have idle : s.task (.poll session) = .idle := served.idle (by simp [inCallback, here])
  obtain ⟨polled, pc, created, moved, rfl⟩ := step_recvPoll taken
  rw [here] at moved
  cases moved
  refine ⟨⟨created, by simp⟩, ?_, ?_, ?_⟩
  · rw [setPoll_poll, Function.update_self]
    intro looping
    cases looping
  · exact congrArg Task.waiting idle
  · exact congrArg Task.joining idle

-- A poll thread that will store a state is replaced by another, unless its callback joins.
theorem Served.storing_step (served : s.Served) {session : Nat} (storing : s.Storing session)
    (taken : s.step action = some next) (undefine : next.transportState = .undefine) :
    (∃ other, next.Storing other) ∨ ∃ env after, action = .task (.poll session) env ∧
      s.task (.poll session) = .reset (.stop after .testThreadId) ∧
      s.recvPollThreadid ≠ some (.poll session) := by
  by_cases own : ∃ env, action = .recvPoll session env
  · obtain ⟨env, rfl⟩ := own
    exact .inl ⟨session, (storing.own_step taken undefine).1⟩
  have grown := step_sessions_le taken
  obtain ⟨running, leaves, waits, joins⟩ := storing
  have unmoved : next.poll session = s.poll session := by
    rcases step_poll session taken with same | ⟨env, polled, pc, mine, -⟩
    · exact same
    · exact absurd ⟨env, mine⟩ own
  by_cases waiting : (next.task (.poll session)).waiting = true
  · rcases step_waiting taken waiting with before | ⟨env, connectStateFn, recvFn, rfl, here⟩
    · rw [waits] at before
      cases before
    · exact .inl ⟨s.sessions, served.started here taken⟩
  by_cases joining : (next.task (.poll session)).joining = true
  · rcases step_joining taken joining with before | other
    · rw [joins] at before
      cases before
    · exact .inr other
  left
  have stays (leaves : (s.poll session).looping = true → next.bRun = false) :
      next.Storing session := by
    refine ⟨⟨lt_of_lt_of_le running.1 grown, ?_⟩, ?_, by simpa using waiting, by simpa using joining⟩
    · rw [unmoved]
      exact running.2
    · rw [unmoved]
      exact leaves
  rcases step_bRun taken with same | cleared | ⟨number, env, rfl, created, sets⟩
  · refine ⟨session, stays fun looping => ?_⟩
    rw [same]
    exact leaves looping
  · exact ⟨session, stays fun _ => cleared⟩
  · exact ⟨number, served.setRun sets taken⟩

theorem Served.step (served : s.Served) (condition : UndefineServed s action)
    (taken : s.step action = some next) : next.Served := by
  refine ⟨served.unstarted.step taken, fun session task => step_busy taken (served.busy session) task,
    ?_⟩
  intro undefine thread waiting
  rcases step_waiting taken waiting with before | ⟨env, connectStateFn, recvFn, rfl, here⟩
  · have someone (none : s.NoneWaiting) : False := by
      rw [none thread] at before
      cases before
    rcases step_undefine taken undefine with was | ⟨storer, env, own, stores⟩
    · obtain ⟨session, storing⟩ := served.served was thread before
      rcases served.storing_step storing taken undefine with found | ⟨env, after, own, here, other⟩
      · exact found
      · rcases condition.joins session env after own here other with none | ⟨another, different, also⟩
        · exact (someone none).elim
        · rcases served.storing_step also taken undefine with found | ⟨_, _, same, -⟩
          · exact found
          · cases own.symm.trans same
            exact absurd rfl different
    · have undefines : (s.task storer).storesUndefine = true := by
        rcases stores with ⟨after, here⟩ | ⟨connectStateFn, recvFn, here⟩ <;> (rw [here]; rfl)
      rcases condition.stores storer env own undefines with none | ⟨session, storing⟩
      · exact (someone none).elim
      · rcases served.storing_step storing taken undefine with found | ⟨_, after, same, here, -⟩
        · exact found
        · cases own.symm.trans same
          rw [here] at undefines
          cases undefines
  · exact ⟨s.sessions, served.started here taken⟩

theorem constructed_served (build : Build) (lastpong : UInt32) (bStopMonitor : Bool) :
    (constructed build lastpong bStopMonitor).Served := by
  constructor <;> simp [Unstarted, constructed, Task.waiting]

/-- In every run that stores UNDEFINE only with nobody in Init's wait or a poll thread that will
still store a state, a thread that waits on UNDEFINE has such a poll thread. -/
theorem wait_served (build : Build) (lastpong : UInt32) (bStopMonitor : Bool)
    (actions : List Action) (reached : ZmqClientBase)
    (condition : Transition.Along step UndefineServed (constructed build lastpong bStopMonitor)
      actions)
    (run : Transition.run step (constructed build lastpong bStopMonitor) actions = some reached) :
    reached.WaitServed := by
  have served := Transition.run_invariant Served
    (fun _ _ _ served condition taken => served.step condition taken)
    (constructed_served build lastpong bStopMonitor) condition run
  intro undefine thread waiting
  obtain ⟨session, storing⟩ := served.served undefine thread waiting
  exact ⟨session, storing, storing.willStore⟩

def undefineCheck (threads : List Tid) (s : ZmqClientBase) : Action → Bool
  | .task thread _ =>
      (!(s.task thread).storesUndefine || threads.all (fun other => !(s.task other).waiting) ||
        (List.range s.sessions).any fun session => decide (s.Storing session)) &&
      match thread, s.task thread with
      | .poll _, .reset (.stop _ .testThreadId) => decide (s.recvPollThreadid = some thread)
      | _, _ => true
  | _ => true

theorem Only.undefineServed {threads : List Tid} (only : s.Only threads)
    (checked : undefineCheck threads s action = true) : UndefineServed s action := by
  constructor
  · rintro thread env rfl undefines
    simp only [undefineCheck, undefines, Bool.not_true, Bool.false_or, Bool.and_eq_true,
      Bool.or_eq_true, List.all_eq_true, List.any_eq_true, decide_eq_true_eq] at checked
    rcases checked.1 with none | ⟨session, -, storing⟩
    · left
      intro other
      by_cases listed : other ∈ threads
      · simpa using none other listed
      · rw [only other listed]
        rfl
    · exact .inr ⟨session, storing⟩
  · rintro number env after rfl here joins
    simp [undefineCheck, here, joins] at checked

-- Reset() of thread 1 stores UNDEFINE while the poll thread of a waiting Reset is in its set-up.
def resetInSetup : List Action :=
  callSteps (.user 0) (.resetAddr "tcp://a:1" none none) 19 ++ pollSteps 0 3 ++
    callSteps (.user 1) .reset 4

theorem wait_served_setup : ∃ reached,
    Transition.run step (constructed .other 0 false) resetInSetup = some reached ∧
    reached.WaitServed ∧ reached.transportState = .undefine ∧
    (reached.task (.user 0)).waiting = true := by
  have accepted : (Transition.run step (constructed .other 0 false) resetInSetup).any
      (fun state => decide (state.transportState = .undefine ∧
        (state.task (.user 0)).waiting = true)) = true := by
    decide +kernel
  obtain ⟨reached, run, checked⟩ := Transition.reached_of_check accepted
  have condition : Transition.Along step UndefineServed (constructed .other 0 false) resetInSetup :=
    only_along (undefineCheck [.user 0, .user 1])
      (fun _ _ only _ checked => only.undefineServed checked) (constructed_only _ _ _ _)
      (by decide +kernel)
  exact ⟨reached, run, wait_served .other 0 false _ reached condition run, by simpa using checked⟩

-- The poll thread has failed, and before the waiting Reset looks at the state, Reset() of thread 1
-- stores UNDEFINE.
theorem wait_stranded : ∃ reached,
    Transition.run step (constructed .other 0 false)
      (callSteps (.user 0) (.resetAddr "tcp://a:1" none none) 19 ++ pollSteps 0 2 ++
        [.recvPoll 0 { ok := false }] ++ pollSteps 0 1 ++ callSteps (.user 1) .reset 4) =
      some reached ∧
    ¬reached.WaitServed := by
  have accepted : (Transition.run step (constructed .other 0 false)
      (callSteps (.user 0) (.resetAddr "tcp://a:1" none none) 19 ++ pollSteps 0 2 ++
        [.recvPoll 0 { ok := false }] ++ pollSteps 0 1 ++ callSteps (.user 1) .reset 4)).any
        (fun state => decide (state.transportState = .undefine ∧
          (state.task (.user 0)).waiting = true ∧ state.sessions = 1 ∧
          state.poll 0 = .finished)) = true := by
    decide +kernel
  obtain ⟨reached, run, checked⟩ := Transition.reached_of_check accepted
  simp only [decide_eq_true_eq] at checked
  obtain ⟨undefine, waiting, one, finished⟩ := checked
  refine ⟨reached, run, fun served => ?_⟩
  obtain ⟨session, ⟨⟨created, running⟩, -⟩, -⟩ := served undefine (.user 0) waiting
  rw [one, Nat.lt_one_iff] at created
  rw [created] at running
  exact running finished

end ZmqClientBase

end Zmqcpp
