import Zmqcpp.ThreadGroup.Account

set_option autoImplicit false

namespace Zmqcpp

namespace ThreadGroupImpl

/-- What Stop leaves: the threads joined are those ever created, each once. -/
structure Cleared (s : ThreadGroupImpl) : Prop where
  bRunning : s.bRunning = false
  threads : s.threads = []
  initNumbers : s.initNumbers = 0
  joined : s.joined = List.range s.created

/-- No Stop has gone past the end of m_threads, and between the calls a group that runs has all its
threads. -/
structure Clean (s : ThreadGroupImpl) : Prop where
  safe : s.crashed = false
  running : s.task = .idle → s.destroyed = false → s.bRunning = true →
    s.threads.length = s.threadNumbers ∧ s.initNumbers = s.threadNumbers

def CleansUp (s : ThreadGroupImpl) (action : GroupAction) : Prop :=
  ∀ next, s.step action = some next → next.Clean ∧
    ∀ caller pc, s.task = .stop caller pc → next.task = .idle → next.Cleared

/-- Creating a thread does not fail; where the constructor throws there is no group. -/
def CreatesThreads (s : ThreadGroupImpl) (action : GroupAction) : Prop :=
  ∀ creation i, action = .task creation → s.task = .start (.create i) → i < s.threadNumbers →
    creation = .created ∨ (creation = .thrown ∧ s.constructed = false)

variable {s next : ThreadGroupImpl} {action : GroupAction} {thread : Nat}

-- Stop is called with all threads there, never from Start.
def Whole (s : ThreadGroupImpl) : GroupTask → Prop
  | .idle | .start .testRunning => s.destroyed = false → s.bRunning = true →
      s.threads.length = s.threadNumbers ∧
        ∀ thread < s.created, s.threadsRun thread ≠ .increment
  | .start _ => True
  | .stop caller .testRunning =>
      caller ≠ .start ∧ (s.bRunning = true → s.threads.length = s.threadNumbers)
  | .stop caller .pop => caller ≠ .start
  | .stop caller _ => caller ≠ .start ∧ s.threads.length = s.threadNumbers

structure Kept (s : ThreadGroupImpl) : Prop where
  sized : s.Sized
  ledger : s.Ledger
  safe : s.crashed = false
  whole : s.Whole s.task

theorem Whole.endStop (stopped : s.bRunning = false) {caller : StopCaller} (other : caller ≠ .start) :
    (s.endStop caller).Whole (s.endStop caller).task := by
  cases caller with
  | start => exact absurd rfl other
  | user | destructor =>
      intro _ running
      rw [show s.bRunning = true from running] at stopped
      cases stopped

theorem endStop_crashed (caller : StopCaller) : (s.endStop caller).crashed = s.crashed := by
  cases caller <;> rfl

theorem Whole.pool (whole : s.Whole s.task)
    (taken : s.threadsRunStep thread (s.threadsRun thread) = some next) :
    next.Whole next.task := by
  obtain ⟨pc, io, rfl, counted, -⟩ := threadsRunStep_spec taken
  have past (before : ∀ other < s.created, s.threadsRun other ≠ .increment) :
      ∀ other < s.created, Function.update s.threadsRun thread pc other ≠ .increment := by
    intro other known
    by_cases own : other = thread
    · rw [own, Function.update_self]
      exact counted
    · rw [Function.update_of_ne own]
      exact before other known
  cases task : s.task with
  | idle =>
      rw [task] at whole
      intro alive running
      exact ⟨(whole alive running).1, past (whole alive running).2⟩
  | start pc =>
      cases pc with
      | testRunning =>
          rw [task] at whole
          intro alive running
          exact ⟨(whole alive running).1, past (whole alive running).2⟩
      | makeWork | create | waitInit => trivial
  | stop caller pc =>
      rw [task] at whole
      cases pc <;> exact whole

theorem Kept.whole_step (kept : s.Kept) (alive : s.destroyed = false)
    (creates : s.CreatesThreads action) (moves : Moves s action next) :
    next.crashed = false ∧ next.Whole next.task := by
  have safe := kept.safe
  have whole := kept.whole
  have phase := kept.sized.phase
  cases moves with
  | call call idle =>
      rw [idle] at whole
      cases call with
      | start => exact ⟨safe, whole⟩
      | stop | destroy => exact ⟨safe, by simp, fun running => (whole alive running).1⟩
      | post handler | dispatch handler =>
          refine ⟨safe, ?_⟩
          simp only [callStep, post, idle]
          exact whole
  | startAgain creation task running =>
      rw [task] at whole
      exact ⟨safe, whole⟩
  | startBegin creation task stopped => exact ⟨safe, trivial⟩
  | makeWork creation task => exact ⟨safe, trivial⟩
  | create i task below => exact ⟨safe, trivial⟩
  | createNull i task below =>
      rcases creates .null i rfl task below with created | ⟨thrown, -⟩
      · cases created
      · cases thrown
  | createThrown i task below =>
      rcases creates .thrown i rfl task below with created | ⟨-, begun⟩
      · cases created
      · exact ⟨safe, fun present => by simp [throwStart, begun] at present⟩
  | createdAll creation i task all => exact ⟨safe, trivial⟩
  | waitEnd creation task all =>
      rw [task] at phase
      have same : s.unjoined = s.threads := by simp [unjoined, task]
      have full : s.initNumbers = s.threads.length := by rw [all, phase.2]
      exact ⟨safe, fun _ _ => ⟨phase.2, kept.ledger.all_past same full⟩⟩
  | waitInit creation task => exact ⟨safe, whole⟩
  | stopAgain creation caller task stopped =>
      rw [task] at whole
      exact ⟨(endStop_crashed caller).trans safe, Whole.endStop stopped whole.1⟩
  | stopBegin creation caller task running =>
      rw [task] at whole
      exact ⟨safe, whole.1, whole.2 running⟩
  | resetWork creation caller task =>
      rw [task] at whole
      obtain ⟨io, finished, -⟩ := workFinished_spec
        { s with spIoServiceWork := false, task := .stop caller .stopService }
      rw [finished]
      exact ⟨safe, whole⟩
  | stopService creation caller task =>
      rw [task] at whole
      exact ⟨safe, whole⟩
  | joinOutside creation caller i task below outside =>
      rw [task] at whole
      have length := whole.2
      omega
  | join creation caller i thread task below held returned =>
      rw [task] at whole
      exact ⟨safe, whole⟩
  | joinedAll creation caller i task all =>
      rw [task] at whole
      exact ⟨safe, whole.1⟩
  | popEnd creation caller task empty =>
      rw [task] at whole phase
      exact ⟨(endStop_crashed caller).trans safe, Whole.endStop phase whole⟩
  | pop creation caller task =>
      refine ⟨safe, ?_⟩
      rw [task] at whole ⊢
      exact whole
  | pool thread next known taken =>
      refine ⟨?_, whole.pool taken⟩
      obtain ⟨pc, io, rfl, -⟩ := threadsRunStep_spec taken
      exact safe

theorem Kept.step (kept : s.Kept) (creates : s.CreatesThreads action)
    (taken : s.step action = some next) : next.Kept := by
  have moves := step_moves taken
  obtain ⟨safe, whole⟩ := kept.whole_step (step_enabled taken).2 creates moves
  exact ⟨kept.sized.step moves, kept.ledger.step kept.sized moves, safe, whole⟩

theorem Kept.clean (kept : s.Kept) : s.Clean := by
  refine ⟨kept.safe, fun idle alive running => ?_⟩
  have whole := kept.whole
  rw [idle] at whole
  obtain ⟨length, counted⟩ := whole alive running
  have order := congrArg List.length kept.ledger.order
  have count := kept.ledger.count
  rw [past_all.mpr counted] at count
  simp only [unjoined, idle, List.length_append, List.length_range] at order
  omega

theorem Kept.cleared (kept : s.Kept) (idle : s.task = .idle) (ended : s.bRunning = false) :
    s.Cleared := by
  have phase := kept.sized.phase
  rw [idle] at phase
  have threads : s.threads = [] := phase ended
  have joined : s.joined = List.range s.created := by
    simpa [unjoined, idle, threads] using kept.ledger.order
  refine ⟨ended, threads, ?_, joined⟩
  have counted : ∀ thread < s.created, s.threadsRun thread ≠ .increment := by
    intro thread known
    rw [kept.ledger.ended thread (by rw [joined]; exact List.mem_range.mpr known)]
    simp
  have count := kept.ledger.count
  rw [past_all.mpr counted, joined, List.length_range] at count
  omega

theorem stop_returns {caller : StopCaller} {pc : GroupStopPc} (sized : s.Sized)
    (moves : Moves s action next) (stopping : s.task = .stop caller pc) (idle : next.task = .idle) :
    next.bRunning = false := by
  cases moves with
  | stopAgain creation caller task stopped => cases caller <;> exact stopped
  | popEnd creation caller task empty =>
      have phase := sized.phase
      rw [task] at phase
      cases caller <;> exact phase
  | resetWork creation caller task =>
      obtain ⟨io, finished, -⟩ := workFinished_spec
        { s with spIoServiceWork := false, task := .stop caller .stopService }
      rw [finished] at idle
      cases idle
  | pool thread next known taken =>
      obtain ⟨pc, io, rfl, -⟩ := threadsRunStep_spec taken
      rw [show s.task = .idle from idle] at stopping
      cases stopping
  | _ => simp_all

theorem Kept.cleans (kept : s.Kept) (creates : s.CreatesThreads action) : s.CleansUp action := by
  intro next taken
  have after := kept.step creates taken
  refine ⟨after.clean, fun caller pc stopping idle => after.cleared idle ?_⟩
  exact stop_returns kept.sized (step_moves taken) stopping idle

theorem initial_kept (threadNumbers : Nat) : Kept { threadNumbers } where
  sized := ⟨Nat.zero_le _, fun _ => rfl⟩
  ledger := ⟨rfl, rfl, by simp, by simp⟩
  safe := rfl
  whole _ running := by cases running

/-- While no thread fails to be created every Stop cleans up, and a group that runs is complete. -/
theorem stop_cleans_up (threadNumbers : Nat) (actions : List GroupAction)
    (creates : Transition.Along step CreatesThreads { threadNumbers } actions) :
    Transition.Along step CleansUp { threadNumbers } actions := by
  refine Transition.along_imp Kept ?_ ?_ (initial_kept threadNumbers) creates
  · intro s action next kept creates taken
    exact kept.step creates taken
  · intro s action kept creates
    exact kept.cleans creates

-- A group of two threads is stopped with a handler still queued.
def startStop : List GroupAction :=
  [.task .created, .task .created, .task .created, .task .created, .task .created, .pool 1, .pool 0,
    .task .created, .call (.post 7), .pool 0, .call .stop, .task .created, .task .created,
    .task .created, .pool 0, .pool 1, .task .created, .task .created, .task .created,
    .task .created, .task .created, .task .created]

theorem stop_cleans_up_queued :
    Transition.Along step CleansUp { threadNumbers := 2 } startStop ∧
      ∃ reached, Transition.run step { threadNumbers := 2 } startStop = some reached ∧
        reached.task = .idle ∧ reached.joined = [0, 1] := by
  refine ⟨stop_cleans_up 2 startStop ?_, _, rfl, rfl, rfl⟩
  have sound : Transition.Along step (fun _ action => action ≠ .task .null ∧ action ≠ .task .thrown)
      { threadNumbers := 2 } startStop := Transition.along_of_forall (by decide) _
  refine Transition.along_mono ?_ sound
  rintro s action ⟨notNull, notThrown⟩ creation i rfl task below
  cases creation with
  | created => exact .inl rfl
  | null => exact absurd rfl notNull
  | thrown => exact absurd rfl notThrown

-- No thread for the constructor: Stop joins the first element of an empty m_threads.
def nullStart : List GroupAction :=
  [.task .created, .task .created, .task .null, .task .created, .task .created, .task .created,
    .task .created]

-- No thread for a restart: the group counts as running without one.
def thrownRestart : List GroupAction :=
  [.task .created, .task .created, .task .created, .task .created, .pool 0, .task .created,
    .call .stop, .task .created, .task .created, .task .created, .pool 0, .task .created,
    .task .created, .task .created, .task .created, .call .start, .task .created, .task .created,
    .task .thrown]

theorem stop_out_of_range :
    (∃ reached, Transition.run step { threadNumbers := 1 } nullStart = some reached ∧
        reached.crashed = true) ∧
      ¬Transition.Along step CleansUp { threadNumbers := 1 } nullStart ∧
      (∃ reached, Transition.run step { threadNumbers := 1 } thrownRestart = some reached ∧
        reached.task = .idle ∧ reached.bRunning = true ∧ reached.threads = []) ∧
      ¬Transition.Along step CleansUp { threadNumbers := 1 } thrownRestart := by
  refine ⟨⟨_, rfl, rfl⟩, fun along => ?_, ⟨_, rfl, rfl, rfl, rfl⟩, fun along => ?_⟩
  · rw [show nullStart = nullStart.dropLast ++ [.task .created] from rfl] at along
    cases ((Transition.along_append rfl along).2.1 _ rfl).1.safe
  · rw [show thrownRestart = thrownRestart.dropLast ++ [.task .thrown] from rfl] at along
    cases (((Transition.along_append rfl along).2.1 _ rfl).1.running rfl rfl rfl).1

end ThreadGroupImpl

end Zmqcpp
