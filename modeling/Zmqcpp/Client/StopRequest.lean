import Zmqcpp.Client.FrontSockets
import Zmqcpp.Shared.Waiting

set_option autoImplicit false

namespace Zmqcpp

-- Stop has cleared m_bRun and has not returned from the join.
def StopPc.stopping : StopPc → Bool
  | .clearRun | .clearIdentity => false
  | _ => true

def Task.stopping : Task → Bool
  | .reset (.stop _ pc) => pc.stopping
  | _ => false

-- Init has created its poll thread and goes on once it reads a state other than UNDEFINE.
def Task.waiting : Task → Bool
  | .reset (.init _ _ (.storeThread _)) | .reset (.init _ _ .testState) => true
  | _ => false

def Task.locking : Task → Bool
  | .reset (.stop _ .lockFront) | .send .lockFront => true
  | _ => false

theorem Task.not_locking {task : Task} (locks : task.locks = true) : task.locking = false := by
  unfold Task.locking
  split
  · cases locks
  · cases locks
  · rfl

def MonitorLoop.afterRemaining : MonitorLoop → Nat
  | .poll => 6 * 1001 + 9
  | .drain timeoutCount => if 1000 < timeoutCount + 1 then 1 else 6 * (1000 - timeoutCount) + 7

/-- The most steps RecvPoll can still take once it is past its set-up and m_bRun is false. -/
def RecvPollPc.remaining : RecvPollPc → Nat
  | .finished => 0
  | .setPollFinish | .setFailed => 1
  | .testStopMonitor timeoutCount => 6 * (1001 - timeoutCount) + 7
  | .closeSockets => 6 * 1001 + 8
  | .testRun => 6 * 1001 + 9
  | .setTransporting => 6 * 1001 + 10
  | .inConnectStateFunc loop => loop.afterRemaining + 1
  | .connectCallback loop _ => loop.afterRemaining + 2
  | .clearRun loop _ => loop.afterRemaining + 3
  | .storeState loop _ => loop.afterRemaining + 4
  | .monitorRecv loop => loop.afterRemaining + 5
  | .inRecvFunc _ => 6 * 1001 + 15
  | .recvCallback _ => 6 * 1001 + 16
  | .recviov _ => 6 * 1001 + 17
  | .updateLastPong _ => 6 * 1001 + 18
  | .backSocketRecv _ _ => 6 * 1001 + 19
  | .poll => 6 * 1001 + 20
  | _ => 0

theorem MonitorLoop.next_remaining (loop : MonitorLoop) :
    loop.next.remaining = loop.afterRemaining := by
  cases loop with
  | poll => rfl
  | drain timeoutCount =>
      simp only [MonitorLoop.next, MonitorLoop.afterRemaining]
      split_ifs
      · rfl
      · simp only [RecvPollPc.remaining]
        omega

theorem afterClient_remaining (monitor : Bool) :
    (afterClient monitor).remaining < 6 * 1001 + 15 := by
  cases monitor <;> decide

theorem afterBack_remaining (client monitor : Bool) :
    (afterBack client monitor).remaining < 6 * 1001 + 19 := by
  cases client <;> cases monitor <;> decide

theorem afterPoll_remaining (back client monitor : Bool) :
    (afterPoll back client monitor).remaining < 6 * 1001 + 20 := by
  cases back <;> cases client <;> cases monitor <;> decide

namespace ZmqClientBase

variable {s next : ZmqClientBase} {action : Action}

theorem recvPollStep_remaining {polled : ZmqClientBase} {session : Nat} {env : Env}
    {pc after : RecvPollPc} (taken : s.recvPollStep session env pc = some (polled, after))
    (out : pc.inSetup = false) (stopped : pc = .testRun → s.bRun = false) :
    after.remaining < pc.remaining := by
  cases pc with
  | testRun =>
      cases taken
      simp [stopped rfl, RecvPollPc.remaining]
  | poll =>
      cases taken
      exact afterPoll_remaining _ _ _
  | backSocketRecv client monitor =>
      cases taken
      exact afterBack_remaining client monitor
  | recviov monitor =>
      cases taken
      have bound := afterClient_remaining monitor
      split_ifs
      · simp [RecvPollPc.remaining]
      · exact lt_trans bound (by simp [RecvPollPc.remaining])
  | recvCallback monitor =>
      have bound := afterClient_remaining monitor
      simp only [recvPollStep] at taken
      split at taken <;> cases taken
      · exact lt_trans bound (by simp [RecvPollPc.remaining])
      · simp [RecvPollPc.remaining]
  | inRecvFunc monitor =>
      simp only [recvPollStep, Option.ite_none_right_eq_some] at taken
      obtain ⟨-, taken⟩ := taken
      cases taken
      exact afterClient_remaining monitor
  | testStopMonitor timeoutCount =>
      cases taken
      split_ifs
      · simp [RecvPollPc.remaining]
      · simp only [RecvPollPc.remaining, MonitorLoop.afterRemaining]
        split_ifs <;> omega
  | monitorRecv loop =>
      simp only [recvPollStep] at taken
      split at taken <;> cases taken
      · rw [loop.next_remaining]
        simp [RecvPollPc.remaining]
      · rw [loop.next_remaining]
        simp [RecvPollPc.remaining]
      · split_ifs <;> simp [RecvPollPc.remaining]
  | storeState loop event =>
      simp only [recvPollStep] at taken
      split_ifs at taken <;> cases taken <;> simp [RecvPollPc.remaining]
  | connectCallback loop event =>
      simp only [recvPollStep] at taken
      split at taken <;> cases taken
      · rw [loop.next_remaining]
        simp [RecvPollPc.remaining]
      · simp [RecvPollPc.remaining]
  | inConnectStateFunc loop =>
      simp only [recvPollStep, Option.ite_none_right_eq_some] at taken
      obtain ⟨-, taken⟩ := taken
      cases taken
      rw [loop.next_remaining]
      simp [RecvPollPc.remaining]
  | updateLastPong | clearRun | closeSockets | setPollFinish | setFailed | setTransporting =>
      cases taken
      simp [RecvPollPc.remaining]
  | finished => cases taken
  | _ => simp [RecvPollPc.inSetup, RecvPollPc.stage] at out

theorem recvPollStep_enabled {session : Nat} {env : Env} {pc : RecvPollPc}
    (running : pc ≠ .finished) (idle : s.task (.poll session) = .idle) :
    (s.recvPollStep session env pc).isSome := by
  cases pc with
  | connectClient | bindBack | storeState =>
      simp only [recvPollStep]
      split_ifs <;> rfl
  | recvCallback | monitorRecv | connectCallback =>
      simp only [recvPollStep]
      split <;> rfl
  | inRecvFunc | inConnectStateFunc => simp [recvPollStep, idle]
  | finished => exact absurd rfl running
  | _ => rfl

theorem task_enabled {thread : Tid} (running : s.crashed = false) (busy : s.task thread ≠ .idle)
    (mutex : (s.task thread).locking = true → s.frontMutex = none)
    (join : ∀ after, s.task thread = .reset (.stop after .join) → s.recvthread ≠ none)
    (joining : ∀ after session, s.task thread = .reset (.stop after (.joining session)) →
      s.poll session = .finished) (env : Env) : (s.step (.task thread env)).isSome := by
  suffices enabled : (s.taskStep thread env (s.task thread)).isSome by
    simpa [step, running] using enabled
  cases here : s.task thread with
  | idle => exact absurd here busy
  | reset pc =>
      cases pc with
      | stop after pc =>
          suffices enabled : (s.stopStep thread pc).isSome by
            simpa [taskStep, resetStep] using enabled
          cases pc with
          | lockFront => simp [stopStep, mutex (by rw [here]; rfl)]
          | join =>
              obtain ⟨session, stored⟩ := Option.ne_none_iff_exists'.mp (join after here)
              simp [stopStep, stored]
          | joining session => simp [stopStep, joining after session here]
          | nextFront =>
              simp only [stopStep]
              split <;> rfl
          | _ => rfl
      | _ => rfl
  | send pc =>
      suffices enabled : (s.sendStep thread env pc).isSome by simpa [taskStep] using enabled
      cases pc with
      | lockFront => simp [sendStep, mutex (by rw [here]; rfl)]
      | lookup =>
          simp only [sendStep]
          split
          · rfl
          · split_ifs <;> rfl
      | setup todo socket =>
          cases todo with
          | nil => rfl
          | cons first todo => cases first <;> rfl
      | unlock socket => cases socket <;> rfl
      | _ => rfl
  | _ => rfl

theorem step_waiting {thread : Tid} (taken : s.step action = some next)
    (waiting : (next.task thread).waiting = true) :
    (s.task thread).waiting = true ∨ ∃ env connectStateFn recvFn, action = .task thread env ∧
      s.task thread = .reset (.init connectStateFn recvFn .newThread) := by
  have inside : ∃ connectStateFn recvFn pc,
      next.task thread = .reset (.init connectStateFn recvFn pc) := by
    generalize next.task thread = task at waiting
    unfold Task.waiting at waiting
    split at waiting
    · exact ⟨_, _, _, rfl⟩
    · exact ⟨_, _, _, rfl⟩
    · cases waiting
  obtain ⟨connectStateFn, recvFn, pc, entered⟩ := inside
  rw [entered] at waiting
  rcases step_into_init taken entered with here | ⟨rfl, -⟩ | ⟨env, before, own, here, flow⟩
  · rw [here]
    exact .inl waiting
  · cases waiting
  · rw [here]
    cases flow with
    | newThread => exact .inr ⟨env, connectStateFn, recvFn, own, rfl⟩
    | storeThread | waits => exact .inl rfl
    | _ => cases waiting

theorem StopFlow.stopping {thread : Tid} {before pc : StopPc}
    (flow : StopFlow s thread before (some pc)) (stopping : pc.stopping = true) :
    before = .clearRun ∨ before.stopping = true := by
  cases flow with
  | clearRun => exact .inl rfl
  | notJoinable | samePollThread | joined => cases stopping
  | _ => exact .inr rfl

theorem step_stopping {thread : Tid} (taken : s.step action = some next)
    (stopping : (next.task thread).stopping = true) :
    (s.task thread).stopping = true ∨
      ∃ env after, action = .task thread env ∧ s.task thread = .reset (.stop after .clearRun) ∧
        next.bRun = false := by
  have inside : ∃ after pc, next.task thread = .reset (.stop after pc) := by
    generalize next.task thread = task at stopping
    unfold Task.stopping at stopping
    split at stopping
    · exact ⟨_, _, rfl⟩
    · cases stopping
  obtain ⟨after, pc, entered⟩ := inside
  rw [entered] at stopping
  rcases step_into_stop taken entered with here | rfl | ⟨env, before, own, here, flow⟩
  · rw [here]
    exact .inl stopping
  · cases stopping
  · rw [here]
    rcases flow.stopping stopping with rfl | before
    · subst own
      obtain ⟨cleared, rest, moved, rfl⟩ := step_stop here taken
      cases moved
      exact .inr ⟨env, after, rfl, rfl, rfl⟩
    · exact .inl before

/-- A callback of this poll thread is in the join of the other. -/
def Joins (s : ZmqClientBase) (session other : Nat) : Prop :=
  ∃ after, s.task (.poll session) = .reset (.stop after (.joining other))

theorem step_joins {session other : Nat} (taken : s.step action = some next)
    (joins : next.Joins session other) :
    s.Joins session other ∨ ∃ env after, action = .task (.poll session) env ∧
      s.task (.poll session) = .reset (.stop after .join) ∧ s.recvthread = some other := by
  obtain ⟨after, entered⟩ := joins
  rcases step_into_stop taken entered with here | never | ⟨env, before, own, here, flow⟩
  · exact .inl ⟨after, here⟩
  · cases never
  · cases flow with
    | join _ stored => exact .inr ⟨env, after, own, here, stored⟩

structure Created (s : ZmqClientBase) : Prop where
  storing : ∀ thread connectStateFn recvFn session,
    s.task thread = .reset (.init connectStateFn recvFn (.storeThread session)) →
      session < s.sessions
  stored : ∀ session, s.recvthread = some session → session < s.sessions
  joinable : ∀ thread after pc, pc = .testThreadId ∨ pc = .join →
    s.task thread = .reset (.stop after pc) → s.recvthread ≠ none
  joining : ∀ thread after session, s.task thread = .reset (.stop after (.joining session)) →
    session < s.sessions

theorem recvthread_kept (taken : s.step action = some next)
    (some_thread : s.recvthread ≠ none) : next.recvthread ≠ none := by
  rcases step_recvthread_stores taken with same | ⟨_, _, _, session, -, stores⟩
  · rw [same]
    exact some_thread
  · simp [stores]

theorem Created.step (created : s.Created) (taken : s.step action = some next) : next.Created := by
  have grown := step_sessions_le taken
  refine ⟨?_, ?_, ?_, ?_⟩
  · intro thread connectStateFn recvFn session entered
    rcases step_into_init taken entered with here | ⟨never, -⟩ | ⟨env, before, rfl, here, flow⟩
    · exact lt_of_lt_of_le (created.storing thread _ _ session here) grown
    · cases never
    · cases flow with
      | newThread =>
          rw [step_init here taken]
          exact Nat.lt_succ_self s.sessions
  · intro session stored
    rcases step_recvthread_stores taken with same | ⟨thread, _, _, number, storing, stores⟩
    · rw [same] at stored
      exact lt_of_lt_of_le (created.stored session stored) grown
    · cases stores.symm.trans stored
      exact lt_of_lt_of_le (created.storing thread _ _ _ storing) grown
  · intro thread after pc which entered
    apply recvthread_kept taken
    rcases step_into_stop taken entered with here | rfl | ⟨env, before, -, here, flow⟩
    · exact created.joinable thread after pc which here
    · rcases which with never | never <;> cases never
    · rcases which with rfl | rfl
      · cases flow with
        | joinable joinable =>
            intro missing
            simp [ZmqClientBase.joinable, missing] at joinable
      · cases flow with
        | otherThread => exact created.joinable thread after _ (.inl rfl) here
  · intro thread after session entered
    rcases step_into_stop taken entered with here | never | ⟨env, before, -, here, flow⟩
    · exact lt_of_lt_of_le (created.joining thread after session here) grown
    · cases never
    · exact lt_of_lt_of_le (created.stored session flow.joining) grown

/-- Stop clears m_bRun only when no poll thread will still set it or is in Init's wait, Init creates
no poll thread behind a Stop that has cleared it, and a callback joins no poll thread that waits, by
joins of other callbacks, for its own. -/
structure StopApart (s : ZmqClientBase) (action : Action) : Prop where
  clears : ∀ thread env after, action = .task thread env →
    s.task thread = .reset (.stop after .clearRun) → ∀ session, session < s.sessions →
      (s.poll session).inSetup = false ∧ (s.task (.poll session)).waiting = false
  starts : ∀ thread env connectStateFn recvFn, action = .task thread env →
    s.task thread = .reset (.init connectStateFn recvFn .newThread) →
      ∀ other, (s.task other).stopping = false
  joins : ∀ number env after session, action = .task (.poll number) env →
    s.task (.poll number) = .reset (.stop after .join) → s.recvthread = some session →
      ¬Relation.ReflTransGen s.Joins session number

structure StopHeard (s : ZmqClientBase) : Prop where
  bRun : ∀ thread, (s.task thread).stopping = true → s.bRun = false
  settled : ∀ thread, (s.task thread).stopping = true → ∀ session, session < s.sessions →
    (s.poll session).inSetup = false ∧ (s.task (.poll session)).waiting = false
  ends : ∀ session, Waiting.Ends s.Joins session
  created : s.Created
  held : s.Held

theorem StopHeard.settled_step (heard : s.StopHeard) (apart : StopApart s action)
    (taken : s.step action = some next) {thread : Tid}
    (stopping : (next.task thread).stopping = true) {session : Nat}
    (created : session < next.sessions) :
    (next.poll session).inSetup = false ∧ (next.task (.poll session)).waiting = false := by
  -- Neither comes back: a set-up begins, and a wait is entered, by a step of Init's newThread.
  have kept (before : session < s.sessions) (out : (s.poll session).inSetup = false)
      (idle : (s.task (.poll session)).waiting = false)
      (none_starts : ∀ starter env connectStateFn recvFn, action = .task starter env →
        s.task starter ≠ .reset (.init connectStateFn recvFn .newThread)) :
      (next.poll session).inSetup = false ∧ (next.task (.poll session)).waiting = false := by
    refine ⟨step_not_inSetup taken out, ?_⟩
    by_contra waits
    rcases step_waiting taken (by simpa using waits) with earlier | ⟨env, _, _, own, here⟩
    · cases idle.symm.trans earlier
    · exact none_starts _ env _ _ own here
  rcases step_stopping taken stopping with before | ⟨env, after, own, here, -⟩
  · have none_starts : ∀ starter env connectStateFn recvFn, action = .task starter env →
        s.task starter ≠ .reset (.init connectStateFn recvFn .newThread) := by
      intro starter env connectStateFn recvFn own here
      cases before.symm.trans (apart.starts starter env connectStateFn recvFn own here thread)
    rcases step_sessions taken with same | ⟨starter, env, connectStateFn, recvFn, own, here, -⟩
    · rw [same] at created
      have settled := heard.settled thread before session created
      exact kept created settled.1 settled.2 none_starts
    · exact absurd here (none_starts starter env connectStateFn recvFn own)
  · have none_starts : ∀ starter other connectStateFn recvFn, action = .task starter other →
        s.task starter ≠ .reset (.init connectStateFn recvFn .newThread) := by
      intro starter other connectStateFn recvFn also
      cases own.symm.trans also
      rw [here]
      simp
    rcases step_sessions taken with same | ⟨starter, other, connectStateFn, recvFn, also, init, -⟩
    · rw [same] at created
      have settled := apart.clears thread env after own here session created
      exact kept created settled.1 settled.2 none_starts
    · exact absurd init (none_starts starter other connectStateFn recvFn also)

theorem StopHeard.ends_step (heard : s.StopHeard) (apart : StopApart s action)
    (taken : s.step action = some next) (session : Nat) : Waiting.Ends next.Joins session := by
  by_cases joins : ∃ number env after awaited, action = .task (.poll number) env ∧
      s.task (.poll number) = .reset (.stop after .join) ∧ s.recvthread = some awaited
  · obtain ⟨number, env, after, awaited, own, here, stored⟩ := joins
    refine Waiting.Ends.insert heard.ends (apart.joins number env after awaited own here stored) ?_
      session
    intro first second joined
    rcases step_joins taken joined with before | ⟨other, later, also, there, same⟩
    · exact .inl before
    · cases own.symm.trans also
      exact .inr ⟨rfl, Option.some.inj (same.symm.trans stored)⟩
  · refine Waiting.Ends.fewer (fun first second joined => ?_) (heard.ends session)
    rcases step_joins taken joined with before | ⟨env, after, own, here, stored⟩
    · exact before
    · exact absurd ⟨first, env, after, second, own, here, stored⟩ joins

theorem StopHeard.step (heard : s.StopHeard) (apart : StopApart s action)
    (taken : s.step action = some next) : next.StopHeard := by
  refine ⟨fun thread stopping => ?_, fun thread stopping session created =>
    heard.settled_step apart taken stopping created, heard.ends_step apart taken,
    heard.created.step taken, heard.held.step taken⟩
  rcases step_stopping taken stopping with before | ⟨env, after, same, here, cleared⟩
  · rcases step_bRun taken with unchanged | cleared | ⟨session, env, -, created, sets⟩
    · rw [unchanged]
      exact heard.bRun thread before
    · exact cleared
    · have out := (heard.settled thread before session created).1
      simp [sets, RecvPollPc.inSetup, RecvPollPc.stage] at out
  · exact cleared

/-- Nothing holds this poll thread up: it has ended and the joins on it return, or it can step, or
the call that its callback is in can, or the thread that has the mutex for which this call waits. -/
def GoesOn (s : ZmqClientBase) (session : Nat) : Prop :=
  (s.poll session = .finished ∧ ∀ waiter after env,
    s.task waiter = .reset (.stop after (.joining session)) →
      (s.step (.task waiter env)).isSome) ∨
  (∀ env, (s.step (.recvPoll session env)).isSome) ∨
  ((s.task (.poll session)).waiting = false ∧ ∀ env, (s.step (.task (.poll session) env)).isSome) ∨
  ∃ holder, s.frontMutex = some holder ∧ ∀ env, (s.step (.task holder env)).isSome

/-- The thread that Stop joins has been told to stop and each of its steps is nearer its end, as are
those of the poll threads for which its callbacks wait; and nothing holds up the last of these. -/
def StopRequestKept (s : ZmqClientBase) : Prop :=
  ∀ thread after session, s.task thread = .reset (.stop after (.joining session)) →
    s.bRun = false ∧
    (∀ number, Relation.ReflTransGen s.Joins session number →
      ∀ env next, s.step (.recvPoll number env) = some next →
        (next.poll number).remaining < (s.poll number).remaining) ∧
    (s.crashed = false → ∃ last, Relation.ReflTransGen s.Joins session last ∧ s.GoesOn last)

theorem StopHeard.goesOn (heard : s.StopHeard) (running : s.crashed = false) {session : Nat}
    (created : session < s.sessions) (waits : (s.task (.poll session)).waiting = false)
    (free : ∀ other, ¬s.Joins session other) : s.GoesOn session := by
  have last (after : AfterStop) (other : Nat) :
      s.task (.poll session) ≠ .reset (.stop after (.joining other)) :=
    fun joins => free other ⟨after, joins⟩
  by_cases finished : s.poll session = .finished
  · left
    refine ⟨finished, fun waiter after env joins => ?_⟩
    simp [ZmqClientBase.step, running, taskStep, joins, resetStep, stopStep, finished]
  · by_cases idle : s.task (.poll session) = .idle
    · right; left
      intro env
      have enabled : (s.recvPollStep session env (s.poll session)).isSome :=
        recvPollStep_enabled finished idle
      simp [ZmqClientBase.step, running, created, enabled]
    · by_cases mutex : (s.task (.poll session)).locking = true → s.frontMutex = none
      · right; right; left
        exact ⟨waits, task_enabled running idle mutex
          (fun after here => heard.created.joinable _ after .join (.inr rfl) here)
          fun after other joins => absurd joins (last after other)⟩
      · right; right; right
        rw [Classical.not_imp] at mutex
        obtain ⟨holder, holds⟩ := Option.ne_none_iff_exists'.mp mutex.2
        have locks := heard.held holder holds
        have inside {task : Task} (same : s.task holder = task) : task.locks = true := by
          rw [← same]
          exact locks
        refine ⟨holder, holds, task_enabled running ?_ ?_ ?_ ?_⟩
        · intro never
          cases inside never
        · intro locking
          cases (Task.not_locking locks).symm.trans locking
        · intro after never
          cases inside never
        · intro after other never
          cases inside never

theorem StopHeard.kept (heard : s.StopHeard) : s.StopRequestKept := by
  intro thread after session joining
  have stopping : (s.task thread).stopping = true := by
    rw [joining]
    rfl
  have stopped := heard.bRun thread stopping
  have created (number : Nat) (chain : Relation.ReflTransGen s.Joins session number) :
      number < s.sessions := by
    cases chain with
    | refl => exact heard.created.joining thread after session joining
    | tail _ last =>
        obtain ⟨after, joins⟩ := last
        exact heard.created.joining _ after number joins
  refine ⟨stopped, fun number chain env next taken => ?_, fun running => ?_⟩
  · cases step_moves taken with
    | recvPoll _ _ polled pc _ moved =>
        have out := (heard.settled thread stopping number (created number chain)).1
        rw [setPoll_poll, Function.update_self]
        exact recvPollStep_remaining moved out fun _ => stopped
  · obtain ⟨last, chain, free⟩ := (heard.ends session).last
    have waits := (heard.settled thread stopping last (created last chain)).2
    exact ⟨last, chain, heard.goesOn running (created last chain) waits free⟩

-- Of three threads started at once two run callbacks that join each other.
example : (Transition.run step (constructed .other 0 false)
    (callSteps (.user 0) (.resetAddr "tcp://a:1" (some 0) (some 1)) 18 ++
      [1, 2].flatMap (fun user =>
        callSteps (.user user) (.resetAddr "tcp://a:1" (some 0) (some 1)) 15) ++
      taskSteps (.user 2) 1 ++ [0, 2, 1].flatMap (fun session => pollSteps session 14) ++
      [0, 2].flatMap (fun session => [.recvPoll session { monitor := true },
        .recvPoll session { event := some .connected }] ++ pollSteps session 2) ++
      callSteps (.poll 0) .reset 9 ++ taskSteps (.user 0) 1 ++
      callSteps (.poll 2) .reset 9)).any (fun state => !state.bRun &&
        decide (state.task (.poll 0) = .reset (.stop .finish (.joining 2)) ∧
          state.task (.poll 2) = .reset (.stop .finish (.joining 0)))) = true := by
  decide +kernel

end ZmqClientBase

end Zmqcpp
