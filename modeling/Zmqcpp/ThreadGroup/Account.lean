import Zmqcpp.ThreadGroup.ThreadGroupImpl

set_option autoImplicit false

namespace Zmqcpp

namespace ThreadGroupImpl

inductive Moves (s : ThreadGroupImpl) : GroupAction → ThreadGroupImpl → Prop
  | call (call : GroupCall) (idle : s.task = .idle) : Moves s (.call call) (s.callStep call)
  | startAgain (creation : Creation) (task : s.task = .start .testRunning)
      (running : s.bRunning = true) : Moves s (.task creation) (s.endStart true)
  | startBegin (creation : Creation) (task : s.task = .start .testRunning)
      (stopped : s.bRunning = false) :
      Moves s (.task creation) { s with bRunning := true, task := .start .makeWork }
  | makeWork (creation : Creation) (task : s.task = .start .makeWork) :
      Moves s (.task creation) { s with spIoServiceWork := true, task := .start (.create 0) }
  | create (i : Nat) (task : s.task = .start (.create i)) (below : i < s.threadNumbers) :
      Moves s (.task .created) { s with
        threads := s.threads ++ [s.created]
        created := s.created + 1
        threadsRun := Function.update s.threadsRun s.created .increment
        task := .start (.create (i + 1)) }
  | createNull (i : Nat) (task : s.task = .start (.create i)) (below : i < s.threadNumbers) :
      Moves s (.task .null) { s with task := .stop .start .testRunning }
  | createThrown (i : Nat) (task : s.task = .start (.create i)) (below : i < s.threadNumbers) :
      Moves s (.task .thrown) s.throwStart
  | createdAll (creation : Creation) (i : Nat) (task : s.task = .start (.create i))
      (all : s.threadNumbers ≤ i) : Moves s (.task creation) { s with task := .start .waitInit }
  | waitEnd (creation : Creation) (task : s.task = .start .waitInit)
      (all : s.initNumbers = s.threadNumbers) : Moves s (.task creation) (s.endStart true)
  | waitInit (creation : Creation) (task : s.task = .start .waitInit) :
      Moves s (.task creation) s
  | stopAgain (creation : Creation) (caller : StopCaller) (task : s.task = .stop caller .testRunning)
      (stopped : s.bRunning = false) : Moves s (.task creation) (s.endStop caller)
  | stopBegin (creation : Creation) (caller : StopCaller) (task : s.task = .stop caller .testRunning)
      (running : s.bRunning = true) :
      Moves s (.task creation) { s with bRunning := false, task := .stop caller .resetWork }
  | resetWork (creation : Creation) (caller : StopCaller) (task : s.task = .stop caller .resetWork) :
      Moves s (.task creation)
        { s with spIoServiceWork := false, task := .stop caller .stopService }.workFinished
  | stopService (creation : Creation) (caller : StopCaller)
      (task : s.task = .stop caller .stopService) :
      Moves s (.task creation) { s with
        ioService := { s.ioService with stopped := true }
        task := .stop caller (.join 0) }
  | joinOutside (creation : Creation) (caller : StopCaller) (i : Nat)
      (task : s.task = .stop caller (.join i)) (below : i < s.threadNumbers)
      (outside : s.threads.length ≤ i) : Moves s (.task creation) { s with crashed := true }
  | join (creation : Creation) (caller : StopCaller) (i thread : Nat)
      (task : s.task = .stop caller (.join i)) (below : i < s.threadNumbers)
      (held : s.threads[i]? = some thread) (returned : s.threadsRun thread = .returned) :
      Moves s (.task creation) { s with
        joined := s.joined ++ [thread]
        initNumbers := s.initNumbers - 1
        task := .stop caller (.join (i + 1)) }
  | joinedAll (creation : Creation) (caller : StopCaller) (i : Nat)
      (task : s.task = .stop caller (.join i)) (all : s.threadNumbers ≤ i) :
      Moves s (.task creation) { s with task := .stop caller .pop }
  | popEnd (creation : Creation) (caller : StopCaller) (task : s.task = .stop caller .pop)
      (empty : s.threads = []) : Moves s (.task creation) (s.endStop caller)
  | pop (creation : Creation) (caller : StopCaller) (task : s.task = .stop caller .pop) :
      Moves s (.task creation) { s with threads := s.threads.dropLast }
  | pool (thread : Nat) (next : ThreadGroupImpl) (known : thread < s.created)
      (taken : s.threadsRunStep thread (s.threadsRun thread) = some next) :
      Moves s (.pool thread) next

variable {s next : ThreadGroupImpl} {action : GroupAction} {thread other : Nat}

theorem startStep_moves {creation : Creation} {pc : GroupStartPc} (task : s.task = .start pc) :
    Moves s (.task creation) (s.startStep creation pc) := by
  cases pc with
  | testRunning =>
      cases running : s.bRunning with
      | true => simpa [startStep, running] using Moves.startAgain creation task running
      | false => simpa [startStep, running] using Moves.startBegin creation task running
  | makeWork => exact .makeWork creation task
  | create i =>
      by_cases below : i < s.threadNumbers
      · cases creation with
        | created => simpa [startStep, below] using Moves.create i task below
        | null => simpa [startStep, below] using Moves.createNull i task below
        | thrown => simpa [startStep, below] using Moves.createThrown i task below
      · simpa [startStep, below] using Moves.createdAll creation i task (not_lt.mp below)
  | waitInit =>
      by_cases all : s.initNumbers = s.threadNumbers
      · simpa [startStep, all] using Moves.waitEnd creation task all
      · simpa [startStep, all] using Moves.waitInit creation task

theorem stopStep_moves {creation : Creation} {caller : StopCaller} {pc : GroupStopPc}
    (task : s.task = .stop caller pc) (taken : s.stopStep caller pc = some next) :
    Moves s (.task creation) next := by
  cases pc with
  | testRunning =>
      cases taken
      cases running : s.bRunning with
      | true => simpa [running] using Moves.stopBegin creation caller task running
      | false => simpa [running] using Moves.stopAgain creation caller task running
  | resetWork =>
      cases taken
      exact .resetWork creation caller task
  | stopService =>
      cases taken
      exact .stopService creation caller task
  | join i =>
      simp only [stopStep] at taken
      split_ifs at taken with below
      · split at taken
        next outside =>
          cases taken
          exact .joinOutside creation caller i task below (List.getElem?_eq_none_iff.mp outside)
        next thread held =>
          simp only [Option.ite_none_right_eq_some, Option.some.injEq] at taken
          obtain ⟨returned, rfl⟩ := taken
          exact .join creation caller i thread task below held returned
      · cases taken
        exact .joinedAll creation caller i task (not_lt.mp below)
  | pop =>
      cases taken
      cases threads : s.threads with
      | nil => simpa [threads] using Moves.popEnd creation caller task threads
      | cons first rest => simpa [threads] using Moves.pop creation caller task

theorem step_enabled (taken : s.step action = some next) :
    s.crashed = false ∧ s.destroyed = false := by
  simp only [step, Option.ite_none_left_eq_some] at taken
  simpa using taken.1

theorem step_moves (taken : s.step action = some next) : Moves s action next := by
  obtain ⟨safe, alive⟩ := step_enabled taken
  simp only [step, safe, alive, Bool.or_self, Bool.false_eq_true, if_false] at taken
  cases action with
  | call call =>
      simp only [Option.ite_none_right_eq_some, Option.some.injEq] at taken
      obtain ⟨idle, rfl⟩ := taken
      exact .call call idle
  | task creation =>
      cases task : s.task with
      | idle => simp [task] at taken
      | start pc =>
          simp only [task, Option.some.injEq] at taken
          rw [← taken]
          exact startStep_moves task
      | stop caller pc =>
          simp only [task] at taken
          exact stopStep_moves task taken
  | pool thread =>
      simp only [Option.ite_none_right_eq_some] at taken
      exact .pool thread next taken.1 taken.2

theorem workFinished_spec (s : ThreadGroupImpl) : ∃ io, s.workFinished = { s with ioService := io } ∧
    (s.ioService.stopped = true → io.stopped = true) ∧
    (s.spIoServiceWork = true → io = s.ioService) ∧ (s.outstanding = false → io.stopped = true) := by
  cases outstanding : s.outstanding with
  | true => exact ⟨s.ioService, by simp [workFinished, outstanding], by simp⟩
  | false =>
      refine ⟨{ s.ioService with stopped := true }, by simp [workFinished, outstanding], by simp, ?_,
        by simp⟩
      intro work
      simp [ThreadGroupImpl.outstanding, work] at outstanding

theorem threadsRunStep_spec (taken : s.threadsRunStep thread (s.threadsRun thread) = some next) :
    ∃ pc io, next = { s with
        ioService := io
        initNumbers := s.initNumbers + if s.threadsRun thread = .increment then 1 else 0
        threadsRun := Function.update s.threadsRun thread pc } ∧
      pc ≠ .increment ∧ s.threadsRun thread ≠ .returned ∧ (pc = .returned → io.stopped = true) ∧
      (s.ioService.stopped = true → io.stopped = true) ∧
      (s.spIoServiceWork = true → io.stopped = s.ioService.stopped) := by
  cases run : s.threadsRun thread with
  | increment =>
      rw [run] at taken
      cases taken
      exact ⟨.callRun, s.ioService, by simp [setThread], by simp⟩
  | callRun =>
      rw [run] at taken
      cases taken
      obtain ⟨io, finished, keeps, work, empty⟩ := workFinished_spec s
      by_cases ends : (s.ioService.stopped || !s.outstanding) = true
      · rw [if_pos ends, finished]
        refine ⟨.returned, io, by simp [setThread], by simp, by simp, fun _ => ?_, keeps,
          fun held => by rw [work held]⟩
        rcases Bool.or_eq_true_iff.mp ends with stopped | nothing
        · exact keeps stopped
        · exact empty (by simpa using nothing)
      · rw [if_neg ends]
        exact ⟨.waiting, s.ioService, by simp [setThread], by simp⟩
  | waiting =>
      rw [run] at taken
      simp only [threadsRunStep] at taken
      split_ifs at taken with stopped
      · cases taken
        exact ⟨.returned, s.ioService, by simp [setThread], by simp [stopped]⟩
      · split at taken
        next => cases taken
        next handler queue _ =>
          cases taken
          exact ⟨.executing handler, { s.ioService with queue }, by simp [setThread], by simp⟩
  | executing handler =>
      rw [run] at taken
      cases taken
      obtain ⟨io, finished, keeps, work, -⟩ := workFinished_spec (s.setThread thread .waiting)
      rw [finished]
      refine ⟨.waiting, io, by simp [setThread], by simp, by simp, by simp, keeps, ?_⟩
      intro held
      rw [work held]
      rfl
  | returned =>
      rw [run] at taken
      cases taken

def past (threadsRun : Nat → ThreadsRunPc) (created : Nat) : Nat :=
  (List.range created).countP fun thread => threadsRun thread ≠ .increment

theorem past_succ (threadsRun : Nat → ThreadsRunPc) (created : Nat) :
    past threadsRun (created + 1) =
      past threadsRun created + if threadsRun created = .increment then 0 else 1 := by
  simp only [past, List.range_succ, List.countP_append, List.countP_singleton]
  split_ifs <;> simp_all

theorem past_beyond (threadsRun : Nat → ThreadsRunPc) {created : Nat} (beyond : created ≤ thread)
    (pc : ThreadsRunPc) :
    past (Function.update threadsRun thread pc) created = past threadsRun created := by
  induction created with
  | zero => rfl
  | succ created ih =>
      rw [past_succ, past_succ, ih (by omega), Function.update_of_ne (by omega)]

theorem past_update (threadsRun : Nat → ThreadsRunPc) {created : Nat} (known : thread < created)
    {pc : ThreadsRunPc} (counted : pc ≠ .increment) :
    past (Function.update threadsRun thread pc) created =
      past threadsRun created + if threadsRun thread = .increment then 1 else 0 := by
  induction created with
  | zero => omega
  | succ created ih =>
      rw [past_succ, past_succ]
      by_cases last : thread = created
      · subst last
        rw [past_beyond threadsRun (Nat.le_refl _), Function.update_self, if_neg counted]
        split_ifs <;> omega
      · rw [ih (by omega), Function.update_of_ne (Ne.symm last)]
        omega

theorem past_all {threadsRun : Nat → ThreadsRunPc} {created : Nat} :
    past threadsRun created = created ↔ ∀ thread < created, threadsRun thread ≠ .increment := by
  have all : past threadsRun created = (List.range created).length ↔
      ∀ thread ∈ List.range created, decide (threadsRun thread ≠ .increment) = true :=
    List.countP_eq_length
  simpa using all

def Phase (s : ThreadGroupImpl) : GroupTask → Prop
  | .idle | .start .testRunning | .stop _ .testRunning => s.bRunning = false → s.threads = []
  | .start .makeWork => s.bRunning = true ∧ s.threads = []
  | .start (.create i) => s.bRunning = true ∧ s.threads.length = i
  | .start .waitInit => s.bRunning = true ∧ s.threads.length = s.threadNumbers
  | .stop _ _ => s.bRunning = false

structure Sized (s : ThreadGroupImpl) : Prop where
  within : s.threads.length ≤ s.threadNumbers
  phase : s.Phase s.task

theorem Sized.endStop (within : s.threads.length ≤ s.threadNumbers)
    (cleared : s.bRunning = false → s.threads = []) (caller : StopCaller) :
    (s.endStop caller).Sized := by
  cases caller <;> exact ⟨within, cleared⟩

theorem Sized.step (sized : s.Sized) (moves : Moves s action next) : next.Sized := by
  have within := sized.within
  have phase := sized.phase
  cases moves with
  | call call idle =>
      cases call with
      | post handler | dispatch handler => exact ⟨within, phase⟩
      | start | stop | destroy =>
          rw [idle] at phase
          exact ⟨within, phase⟩
  | startAgain creation task running =>
      rw [task] at phase
      exact ⟨within, phase⟩
  | startBegin creation task stopped =>
      rw [task] at phase
      exact ⟨within, rfl, phase stopped⟩
  | makeWork creation task =>
      rw [task] at phase
      exact ⟨within, phase.1, by rw [phase.2]; rfl⟩
  | create i task below =>
      rw [task] at phase
      obtain ⟨running, length⟩ := phase
      have longer : (s.threads ++ [s.created]).length = i + 1 := by simp [length]
      exact ⟨by rw [longer]; exact below, running, longer⟩
  | createNull i task below =>
      rw [task] at phase
      exact ⟨within, fun stopped => by simp [phase.1] at stopped⟩
  | createThrown i task below =>
      rw [task] at phase
      exact ⟨within, fun stopped => by simp [throwStart, phase.1] at stopped⟩
  | createdAll creation i task all =>
      rw [task] at phase
      obtain ⟨running, length⟩ := phase
      have full : s.threads.length = s.threadNumbers := by omega
      exact ⟨within, running, full⟩
  | waitEnd creation task all =>
      rw [task] at phase
      exact ⟨within, fun stopped => by simp [endStart, phase.1] at stopped⟩
  | waitInit creation task => exact sized
  | stopAgain creation caller task stopped =>
      rw [task] at phase
      exact Sized.endStop within phase caller
  | stopBegin creation caller task running => exact ⟨within, rfl⟩
  | resetWork creation caller task =>
      rw [task] at phase
      obtain ⟨io, finished, -⟩ := workFinished_spec
        { s with spIoServiceWork := false, task := .stop caller .stopService }
      rw [finished]
      exact ⟨within, phase⟩
  | stopService creation caller task =>
      rw [task] at phase
      exact ⟨within, phase⟩
  | joinOutside creation caller i task below outside => exact ⟨within, phase⟩
  | join creation caller i thread task below held returned =>
      rw [task] at phase
      exact ⟨within, phase⟩
  | joinedAll creation caller i task all =>
      rw [task] at phase
      exact ⟨within, phase⟩
  | popEnd creation caller task empty => exact Sized.endStop within (fun _ => empty) caller
  | pop creation caller task =>
      refine ⟨(List.dropLast_sublist s.threads).length_le.trans within, ?_⟩
      rw [task] at phase ⊢
      exact phase
  | pool thread next known taken =>
      obtain ⟨pc, io, rfl, -⟩ := threadsRunStep_spec taken
      exact ⟨within, phase⟩

def unjoined (s : ThreadGroupImpl) : List Nat :=
  match s.task with
  | .stop _ (.join i) => s.threads.drop i
  | .stop _ .pop => []
  | _ => s.threads

/-- m_initNumbers counts the threads that have counted themselves in and are not joined, and a
thread returns from io_service::run only once the service is stopped. -/
structure Ledger (s : ThreadGroupImpl) : Prop where
  order : s.joined ++ s.unjoined = List.range s.created
  count : s.initNumbers + s.joined.length = past s.threadsRun s.created
  ended : ∀ thread ∈ s.joined, s.threadsRun thread = .returned
  serving : s.ioService.stopped = false → ∀ thread < s.created, s.threadsRun thread ≠ .returned

def counters (s : ThreadGroupImpl) : List Nat × Nat × Int × (Nat → ThreadsRunPc) :=
  (s.joined, s.created, s.initNumbers, s.threadsRun)

theorem still_running {before after : Bool} (keeps : before = true → after = true)
    (running : after = false) : before = false := by
  rw [Bool.eq_false_iff]
  intro stopped
  simp [keeps stopped] at running

theorem Ledger.moved (ledger : s.Ledger) (unjoined : next.unjoined = s.unjoined)
    (same : next.counters = s.counters)
    (keeps : s.ioService.stopped = true → next.ioService.stopped = true) : next.Ledger := by
  simp only [counters, Prod.mk.injEq] at same
  obtain ⟨joined, created, initNumbers, threadsRun⟩ := same
  refine ⟨?_, ?_, ?_, fun running => ?_⟩
  · rw [unjoined, joined, created, ledger.order]
  · rw [initNumbers, joined, threadsRun, created, ledger.count]
  · rw [joined, threadsRun]
    exact ledger.ended
  · rw [created, threadsRun]
    exact ledger.serving (still_running keeps running)

theorem Ledger.endStop (ledger : s.Ledger) (same : s.unjoined = s.threads) (caller : StopCaller) :
    (s.endStop caller).Ledger := by
  cases caller <;> exact ledger.moved same.symm rfl id

theorem Ledger.create (ledger : s.Ledger) {i : Nat} (task : s.task = .start (.create i)) :
    Ledger { s with
      threads := s.threads ++ [s.created]
      created := s.created + 1
      threadsRun := Function.update s.threadsRun s.created .increment
      task := .start (.create (i + 1)) } where
  order := by
    have order := ledger.order
    simp only [unjoined, task] at order ⊢
    rw [← List.append_assoc, order, List.range_succ]
  count := by
    have count := ledger.count
    simp only [past_succ, past_beyond s.threadsRun (Nat.le_refl _), Function.update_self, if_true,
      Nat.add_zero]
    exact count
  ended thread member := by
    have known : thread < s.created := by
      rw [← List.mem_range, ← ledger.order]
      exact List.mem_append_left _ member
    simp only [Function.update_of_ne (Nat.ne_of_lt known)]
    exact ledger.ended thread member
  serving running thread known := by
    by_cases new : thread = s.created
    · simp [new]
    · simp only [Function.update_of_ne new]
      exact ledger.serving running thread (lt_of_le_of_ne (Nat.lt_succ_iff.mp known) new)

theorem Ledger.join (ledger : s.Ledger) {caller : StopCaller} {i : Nat}
    (task : s.task = .stop caller (.join i)) (held : s.threads[i]? = some thread)
    (returned : s.threadsRun thread = .returned) :
    Ledger { s with
      joined := s.joined ++ [thread]
      initNumbers := s.initNumbers - 1
      task := .stop caller (.join (i + 1)) } where
  order := by
    have order := ledger.order
    obtain ⟨below, same⟩ := List.getElem?_eq_some_iff.mp held
    simp only [unjoined, task, List.drop_eq_getElem_cons below, same] at order ⊢
    rw [List.append_assoc, ← order]
    rfl
  count := by
    have count := ledger.count
    simp only [List.length_append, List.length_singleton]
    omega
  ended other member := by
    rcases List.mem_append.mp member with earlier | last
    · exact ledger.ended other earlier
    · rw [List.mem_singleton.mp last]
      exact returned
  serving := ledger.serving

theorem Ledger.pool (ledger : s.Ledger) (known : thread < s.created)
    (taken : s.threadsRunStep thread (s.threadsRun thread) = some next) : next.Ledger := by
  obtain ⟨pc, io, rfl, counted, alive, ends, keeps, -⟩ := threadsRunStep_spec taken
  refine ⟨ledger.order, ?_, fun other member => ?_, fun running other below => ?_⟩
  · have count := ledger.count
    simp only [past_update s.threadsRun known counted]
    split_ifs <;> push_cast <;> omega
  · have returned := ledger.ended other member
    have different : other ≠ thread := by
      rintro rfl
      exact alive returned
    simp only [Function.update_of_ne different]
    exact returned
  · by_cases own : other = thread
    · intro returned
      simp only [own, Function.update_self] at returned
      have stopped := ends returned
      simp only [stopped] at running
      cases running
    · simp only [Function.update_of_ne own]
      exact ledger.serving (still_running keeps running) other below

theorem Ledger.step (ledger : s.Ledger) (sized : s.Sized) (moves : Moves s action next) :
    next.Ledger := by
  cases moves with
  | call call idle =>
      cases call with
      | post handler | dispatch handler => exact ledger.moved rfl rfl id
      | start | stop | destroy => exact ledger.moved (by simp [unjoined, idle, callStep]) rfl id
  | startAgain creation task running =>
      exact ledger.moved (by simp [unjoined, task, endStart]) rfl id
  | startBegin creation task stopped => exact ledger.moved (by simp [unjoined, task]) rfl id
  | makeWork creation task => exact ledger.moved (by simp [unjoined, task]) rfl id
  | create i task below => exact ledger.create task
  | createNull i task below => exact ledger.moved (by simp [unjoined, task]) rfl id
  | createThrown i task below => exact ledger.moved (by simp [unjoined, task, throwStart]) rfl id
  | createdAll creation i task all => exact ledger.moved (by simp [unjoined, task]) rfl id
  | waitEnd creation task all => exact ledger.moved (by simp [unjoined, task, endStart]) rfl id
  | waitInit creation task => exact ledger
  | stopAgain creation caller task stopped => exact ledger.endStop (by simp [unjoined, task]) caller
  | stopBegin creation caller task running => exact ledger.moved (by simp [unjoined, task]) rfl id
  | resetWork creation caller task =>
      obtain ⟨io, finished, keeps, -⟩ := workFinished_spec
        { s with spIoServiceWork := false, task := .stop caller .stopService }
      rw [finished]
      exact ledger.moved (by simp [unjoined, task]) rfl keeps
  | stopService creation caller task =>
      exact ledger.moved (by simp [unjoined, task]) rfl fun _ => rfl
  | joinOutside creation caller i task below outside => exact ledger.moved rfl rfl id
  | join creation caller i thread task below held returned => exact ledger.join task held returned
  | joinedAll creation caller i task all =>
      have nothing : s.threads.drop i = [] := List.drop_eq_nil_of_le (sized.within.trans all)
      exact ledger.moved (by simp [unjoined, task, nothing]) rfl id
  | popEnd creation caller task empty =>
      exact ledger.endStop (by simp [unjoined, task, empty]) caller
  | pop creation caller task => exact ledger.moved (by simp [unjoined, task]) rfl id
  | pool thread next known taken => exact ledger.pool known taken

theorem Ledger.known (ledger : s.Ledger) (same : s.unjoined = s.threads) (member : thread ∈ s.threads) :
    thread < s.created := by
  have order := ledger.order
  rw [same] at order
  rw [← List.mem_range, ← order]
  exact List.mem_append_right _ member

theorem Ledger.distinct (ledger : s.Ledger) (same : s.unjoined = s.threads) : s.threads.Nodup := by
  have order := ledger.order
  rw [same] at order
  have all : (s.joined ++ s.threads).Nodup := order ▸ List.nodup_range
  exact all.of_append_right

-- The wait of Start ends once every thread has counted itself in.
theorem Ledger.all_past (ledger : s.Ledger) (same : s.unjoined = s.threads)
    (full : s.initNumbers = s.threads.length) :
    ∀ thread < s.created, s.threadsRun thread ≠ .increment := by
  have order := congrArg List.length ledger.order
  have count := ledger.count
  rw [same, List.length_append, List.length_range] at order
  apply past_all.mp
  omega

end ThreadGroupImpl

end Zmqcpp
