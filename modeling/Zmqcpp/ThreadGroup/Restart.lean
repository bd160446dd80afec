import Zmqcpp.ThreadGroup.Account

set_option autoImplicit false

namespace Zmqcpp

-- Inside io_service::run, or at its call.
def ThreadsRunPc.serves : ThreadsRunPc → Bool
  | .callRun | .waiting | .executing _ => true
  | .increment | .returned => false

def GroupCall.handler : GroupCall → Option Nat
  | .post handler | .dispatch handler => some handler
  | _ => none

namespace ThreadGroupImpl

/-- Each of the m_threadNumbers threads takes handlers from an open service. -/
def Serving (s : ThreadGroupImpl) : Prop :=
  s.ioService.stopped = false ∧ s.threads.length = s.threadNumbers ∧ s.threads.Nodup ∧
    ∀ thread ∈ s.threads, (s.threadsRun thread).serves = true

def ExecutesPosted (s : ThreadGroupImpl) (action : GroupAction) : Prop :=
  ∀ call handler next, action = .call call → call.handler = some handler → s.started = true →
    s.step action = some next → handler ∈ next.ioService.queue ∧ next.Serving

/-- A handler is posted to a group that is started before the first Stop. -/
def PostsBeforeStop (s : ThreadGroupImpl) (action : GroupAction) : Prop :=
  ∀ call handler next, action = .call call → call.handler = some handler → s.started = true →
    s.step action = some next → .stop ∉ s.calls

variable {s next : ThreadGroupImpl} {action : GroupAction} {thread : Nat}

theorem serves_of {pc : ThreadsRunPc} (counted : pc ≠ .increment) (alive : pc ≠ .returned) :
    pc.serves = true := by
  cases pc <;> first | rfl | contradiction

theorem Ledger.serving_all (ledger : s.Ledger) (same : s.unjoined = s.threads)
    (running : s.ioService.stopped = false) (length : s.threads.length = s.threadNumbers)
    (full : s.initNumbers = s.threadNumbers) : s.Serving := by
  refine ⟨running, length, ledger.distinct same, fun thread member => ?_⟩
  have known := ledger.known same member
  refine serves_of (ledger.all_past same ?_ thread known) (ledger.serving running thread known)
  rw [full, length]

theorem Serving.pool (serving : s.Serving) (work : s.spIoServiceWork = true)
    (taken : s.threadsRunStep thread (s.threadsRun thread) = some next) : next.Serving := by
  obtain ⟨pc, io, rfl, counted, -, ends, -, keeps⟩ := threadsRunStep_spec taken
  obtain ⟨open_, length, distinct, serves⟩ := serving
  have running : io.stopped = false := (keeps work).trans open_
  refine ⟨running, length, distinct, fun other member => ?_⟩
  by_cases own : other = thread
  · simp only [own, Function.update_self]
    refine serves_of counted fun returned => ?_
    rw [ends returned] at running
    cases running
  · simp only [Function.update_of_ne own]
    exact serves other member

/-- The constructor's Start: a Stop inside it runs past the end of m_threads. -/
def Building (s : ThreadGroupImpl) : GroupTask → Prop
  | .idle => s.destroyed = true
  | .start .testRunning => s.bRunning = false ∧ s.created = 0 ∧ s.ioService.stopped = false
  | .start .makeWork => s.created = 0 ∧ s.ioService.stopped = false
  | .start _ => s.spIoServiceWork = true ∧ s.ioService.stopped = false
  | .stop caller .testRunning =>
      caller = .start ∧ s.threads.length < s.threadNumbers ∧ s.bRunning = true
  | .stop caller (.join i) =>
      caller = .start ∧ s.threads.length < s.threadNumbers ∧ i ≤ s.threads.length
  | .stop _ .pop => False
  | .stop caller _ => caller = .start ∧ s.threads.length < s.threadNumbers

-- After the first Stop nothing opens the service again.
def Built (s : ThreadGroupImpl) : GroupTask → Prop
  | .idle | .start .testRunning =>
      (.stop ∈ s.calls → s.ioService.stopped = true) ∧
        (.stop ∉ s.calls → s.destroyed = false →
          s.bRunning = true ∧ s.spIoServiceWork = true ∧ s.Serving)
  | .start _ => .stop ∈ s.calls ∧ s.ioService.stopped = true
  | .stop caller .testRunning =>
      (caller = .destructor ∨ .stop ∈ s.calls) ∧
        (s.bRunning = false → s.ioService.stopped = true)
  | .stop caller .resetWork | .stop caller .stopService => caller = .destructor ∨ .stop ∈ s.calls
  | .stop caller _ => (caller = .destructor ∨ .stop ∈ s.calls) ∧ s.ioService.stopped = true

structure Tracked (s : ThreadGroupImpl) : Prop where
  building : s.constructed = false → s.calls = [] ∧ s.Building s.task
  built : s.constructed = true → s.Built s.task

theorem Building.step (building : s.Building s.task) (begun : s.constructed = false)
    (unused : s.calls = []) (alive : s.destroyed = false) (sized : s.Sized) (ledger : s.Ledger)
    (moves : Moves s action next) : next.Tracked := by
  have phase := sized.phase
  have still {after : ThreadGroupImpl} (constructed : after.constructed = s.constructed)
      (calls : after.calls = s.calls) (held : after.Building after.task) : after.Tracked := by
    refine ⟨fun _ => ⟨calls.trans unused, held⟩, fun built => ?_⟩
    rw [constructed, begun] at built
    cases built
  cases moves with
  | call call idle =>
      rw [idle] at building
      rw [show s.destroyed = true from building] at alive
      cases alive
  | startAgain creation task running =>
      rw [task] at building
      rw [building.1] at running
      cases running
  | startBegin creation task stopped =>
      rw [task] at building
      exact still rfl rfl building.2
  | makeWork creation task =>
      rw [task] at building
      exact still rfl rfl ⟨rfl, building.2⟩
  | create i task below =>
      rw [task] at building
      exact still rfl rfl building
  | createNull i task below =>
      rw [task] at phase
      obtain ⟨running, length⟩ := phase
      exact still rfl rfl ⟨rfl, by simpa [length] using below, running⟩
  | createThrown i task below => exact still rfl rfl (by simp [throwStart, Building, begun])
  | createdAll creation i task all =>
      rw [task] at building
      exact still rfl rfl building
  | waitEnd creation task all =>
      rw [task] at phase building
      have same : s.unjoined = s.threads := by simp [unjoined, task]
      have serving := ledger.serving_all same building.2 phase.2 all
      constructor
      · intro unbuilt
        cases unbuilt
      · refine fun _ => ⟨fun stop => ?_, fun _ _ => ⟨phase.1, building.1, serving⟩⟩
        rw [show (s.endStart true).calls = s.calls from rfl, unused] at stop
        cases stop
  | waitInit creation task => exact still rfl rfl building
  | stopAgain creation caller task stopped =>
      rw [task] at building
      rw [building.2.2] at stopped
      cases stopped
  | stopBegin creation caller task running =>
      rw [task] at building
      exact still rfl rfl ⟨building.1, building.2.1⟩
  | resetWork creation caller task =>
      rw [task] at building
      obtain ⟨io, finished, -⟩ := workFinished_spec
        { s with spIoServiceWork := false, task := .stop caller .stopService }
      rw [finished]
      exact still rfl rfl building
  | stopService creation caller task =>
      rw [task] at building
      exact still rfl rfl ⟨building.1, building.2, Nat.zero_le _⟩
  | joinOutside creation caller i task below outside => exact still rfl rfl building
  | join creation caller i thread task below held returned =>
      rw [task] at building
      obtain ⟨inside, -⟩ := List.getElem?_eq_some_iff.mp held
      exact still rfl rfl ⟨building.1, building.2.1, inside⟩
  | joinedAll creation caller i task all =>
      rw [task] at building
      obtain ⟨-, short, reached⟩ := building
      omega
  | popEnd creation caller task empty =>
      rw [task] at building
      exact building.elim
  | pop creation caller task =>
      rw [task] at building
      exact building.elim
  | pool thread next known taken =>
      obtain ⟨pc, io, rfl, -, -, -, -, keeps⟩ := threadsRunStep_spec taken
      refine still rfl rfl ?_
      cases task : s.task with
      | idle =>
          rw [task] at building
          exact building
      | stop caller pc =>
          rw [task] at building
          cases pc <;> exact building
      | start pc =>
          rw [task] at building
          cases pc with
          -- There is no thread yet.
          | testRunning =>
              obtain ⟨-, none, -⟩ := building
              omega
          | makeWork =>
              obtain ⟨none, -⟩ := building
              omega
          | create | waitInit => exact ⟨building.1, (keeps building.1).trans building.2⟩

theorem Built.endStop (stop : .stop ∈ s.calls) (stopped : s.ioService.stopped = true)
    (caller : StopCaller) : (s.endStop caller).Built (s.endStop caller).task := by
  cases caller <;> exact ⟨fun _ => stopped, fun none => absurd stop none⟩

theorem endStop_constructed (caller : StopCaller) (built : s.constructed = true) :
    (s.endStop caller).constructed = true := by
  cases caller <;> simp [ThreadGroupImpl.endStop, endStart, built]

theorem Built.stopped (caller : StopCaller) (why : caller = .destructor ∨ .stop ∈ s.calls)
    (stopped : s.ioService.stopped = true) : (s.endStop caller).Built (s.endStop caller).task := by
  rcases why with rfl | stop
  · exact ⟨fun _ => stopped, fun _ present => by cases present⟩
  · exact Built.endStop stop stopped caller

theorem Built.idle_stopped (built : s.Built .idle) (alive : s.destroyed = false)
    (ended : s.bRunning = false) : .stop ∈ s.calls ∧ s.ioService.stopped = true := by
  by_cases stop : .stop ∈ s.calls
  · exact ⟨stop, built.1 stop⟩
  · have running := (built.2 stop alive).1
    rw [ended] at running
    cases running

theorem stop_called {call : GroupCall} (other : call ≠ .stop) :
    .stop ∈ s.calls ++ [call] ↔ .stop ∈ s.calls := by
  simp [Ne.symm other]

theorem Built.call (built : s.Built .idle) (alive : s.destroyed = false) (idle : s.task = .idle)
    (call : GroupCall) : (s.callStep call).Built (s.callStep call).task := by
  cases call with
  | start =>
      refine ⟨fun stop => built.1 ?_, fun none present => built.2 ?_ present⟩
      · exact (stop_called (by simp)).mp stop
      · exact fun stop => none ((stop_called (by simp)).mpr stop)
  | stop =>
      refine ⟨.inr (by simp [callStep]), fun ended => (built.idle_stopped alive ended).2⟩
  | destroy => exact ⟨.inl rfl, fun ended => (built.idle_stopped alive ended).2⟩
  | post handler | dispatch handler =>
      simp only [callStep, post, idle]
      refine ⟨fun stop => built.1 ?_, fun none present => built.2 ?_ present⟩
      · exact (stop_called (by simp)).mp stop
      · exact fun stop => none ((stop_called (by simp)).mpr stop)

theorem Built.pool (built : s.Built s.task)
    (taken : s.threadsRunStep thread (s.threadsRun thread) = some next) : next.Built next.task := by
  have serving (work : s.spIoServiceWork = true) (serving : s.Serving) := serving.pool work taken
  obtain ⟨pc, io, rfl, -, -, -, keeps, -⟩ := threadsRunStep_spec taken
  cases task : s.task with
  | idle =>
      rw [task] at built
      refine ⟨fun stop => keeps (built.1 stop), fun none present => ?_⟩
      obtain ⟨running, work, open_⟩ := built.2 none present
      exact ⟨running, work, serving work open_⟩
  | start pc =>
      rw [task] at built
      cases pc with
      | testRunning =>
          refine ⟨fun stop => keeps (built.1 stop), fun none present => ?_⟩
          obtain ⟨running, work, open_⟩ := built.2 none present
          exact ⟨running, work, serving work open_⟩
      | makeWork | create | waitInit => exact ⟨built.1, keeps built.2⟩
  | stop caller pc =>
      rw [task] at built
      cases pc with
      | testRunning => exact ⟨built.1, fun ended => keeps (built.2 ended)⟩
      | resetWork | stopService => exact built
      | join | pop => exact ⟨built.1, keeps built.2⟩

theorem Built.step (built : s.Built s.task) (done : s.constructed = true)
    (alive : s.destroyed = false) (moves : Moves s action next) : next.Tracked := by
  have still {after : ThreadGroupImpl} (constructed : after.constructed = true)
      (held : after.Built after.task) : after.Tracked := by
    refine ⟨fun begun => ?_, fun _ => held⟩
    rw [constructed] at begun
    cases begun
  cases moves with
  | call call idle =>
      rw [idle] at built
      have constructed : (s.callStep call).constructed = true := by cases call <;> exact done
      exact still constructed (built.call alive idle call)
  | startAgain creation task running =>
      rw [task] at built
      exact still rfl built
  | startBegin creation task stopped =>
      rw [task] at built
      have idle : s.Built .idle := built
      exact still done (idle.idle_stopped alive stopped)
  | makeWork creation task =>
      rw [task] at built
      exact still done built
  | create i task below =>
      rw [task] at built
      exact still done built
  | createNull i task below =>
      rw [task] at built
      exact still done ⟨.inr built.1, fun _ => built.2⟩
  | createThrown i task below =>
      rw [task] at built
      exact still done ⟨fun _ => built.2, fun none => absurd built.1 none⟩
  | createdAll creation i task all =>
      rw [task] at built
      exact still done built
  | waitEnd creation task all =>
      rw [task] at built
      exact still rfl ⟨fun _ => built.2, fun none => absurd built.1 none⟩
  | waitInit creation task => exact still done built
  | stopAgain creation caller task stopped =>
      rw [task] at built
      exact still (endStop_constructed caller done) (Built.stopped caller built.1 (built.2 stopped))
  | stopBegin creation caller task running =>
      rw [task] at built
      exact still done built.1
  | resetWork creation caller task =>
      rw [task] at built
      obtain ⟨io, finished, -⟩ := workFinished_spec
        { s with spIoServiceWork := false, task := .stop caller .stopService }
      rw [finished]
      exact still done built
  | stopService creation caller task =>
      rw [task] at built
      exact still done ⟨built, rfl⟩
  | joinOutside creation caller i task below outside => exact still done built
  | join creation caller i thread task below held returned =>
      rw [task] at built
      exact still done built
  | joinedAll creation caller i task all =>
      rw [task] at built
      exact still done built
  | popEnd creation caller task empty =>
      rw [task] at built
      exact still (endStop_constructed caller done) (Built.stopped caller built.1 built.2)
  | pop creation caller task =>
      refine still done ?_
      rw [task] at built ⊢
      exact built
  | pool thread next known taken =>
      refine still ?_ (built.pool taken)
      obtain ⟨pc, io, rfl, -⟩ := threadsRunStep_spec taken
      exact done

structure Sound (s : ThreadGroupImpl) : Prop where
  sized : s.Sized
  ledger : s.Ledger
  tracked : s.Tracked

theorem Sound.step (sound : s.Sound) (taken : s.step action = some next) : next.Sound := by
  have moves := step_moves taken
  have alive := (step_enabled taken).2
  refine ⟨sound.sized.step moves, sound.ledger.step sound.sized moves, ?_⟩
  cases constructed : s.constructed with
  | false =>
      obtain ⟨unused, building⟩ := sound.tracked.building constructed
      exact building.step constructed unused alive sound.sized sound.ledger moves
  | true => exact (sound.tracked.built constructed).step constructed alive moves

theorem initial_sound (threadNumbers : Nat) : Sound { threadNumbers } where
  sized := ⟨Nat.zero_le _, fun _ => rfl⟩
  ledger := ⟨rfl, rfl, by simp, by simp⟩
  tracked := ⟨fun _ => ⟨rfl, rfl, rfl, rfl⟩, fun built => by cases built⟩

theorem Sound.called (sound : s.Sound) {call : GroupCall}
    (taken : s.step (.call call) = some next) :
    next = s.callStep call ∧ s.destroyed = false ∧ s.Built .idle := by
  have alive := (step_enabled taken).2
  cases step_moves taken with
  | call call idle =>
      refine ⟨rfl, alive, ?_⟩
      rw [← idle]
      apply sound.tracked.built
      by_contra begun
      have building := (sound.tracked.building (by simpa using begun)).2
      rw [idle] at building
      rw [show s.destroyed = true from building] at alive
      cases alive

theorem posted {call : GroupCall} {handler : Nat} (carries : call.handler = some handler) :
    s.callStep call = { s with calls := s.calls ++ [call] }.post handler := by
  cases call <;> cases carries <;> rfl

/-- The handlers posted to a group that is started are taken if and only if all are posted before
the first Stop. -/
theorem posts_executed (threadNumbers : Nat) (actions : List GroupAction) :
    Transition.Along step ExecutesPosted { threadNumbers } actions ↔
      Transition.Along step PostsBeforeStop { threadNumbers } actions := by
  refine Transition.along_iff Sound (fun s action next sound _ taken => sound.step taken) ?_
    (initial_sound threadNumbers)
  intro s action sound
  constructor
  · rintro executes call handler next rfl carries started taken stop
    obtain ⟨-, open_, -⟩ := executes call handler next rfl carries started taken
    obtain ⟨rfl, -, built⟩ := sound.called taken
    have stopped := built.1 stop
    rw [posted carries] at open_
    rw [show s.ioService.stopped = false from open_] at stopped
    cases stopped
  · rintro first call handler next rfl carries started taken
    have never := first call handler next rfl carries started taken
    obtain ⟨rfl, alive, built⟩ := sound.called taken
    obtain ⟨-, -, serving⟩ := built.2 never alive
    rw [posted carries]
    exact ⟨by simp [post], serving⟩

-- A group of one thread is stopped and started again: the thread returns from io_service::run at
-- once.
def restart : List GroupAction :=
  [.task .created, .task .created, .task .created, .task .created, .pool 0, .task .created,
    .call .stop, .task .created, .task .created, .task .created, .pool 0, .task .created,
    .task .created, .task .created, .task .created,
    .call .start, .task .created, .task .created, .task .created, .task .created, .pool 1,
    .task .created, .pool 1]

theorem posted_after_restart : ∃ reached next,
    Transition.run step { threadNumbers := 1 } restart = some reached ∧ reached.started = true ∧
    reached.step (.call (.post 7)) = some next ∧ next.ioService.queue = [7] ∧
    next.threads = [1] ∧ next.threadsRun 1 = .returned ∧
    ¬Transition.Along step ExecutesPosted { threadNumbers := 1 } (restart ++ [.call (.post 7)]) := by
  refine ⟨_, _, rfl, rfl, rfl, rfl, rfl, rfl, fun along => ?_⟩
  have reached : Transition.run step { threadNumbers := 1 } restart = some _ := rfl
  have executes := (Transition.along_append reached along).2.1
  obtain ⟨-, -, -, -, serves⟩ := executes (.post 7) 7 _ rfl rfl rfl rfl
  exact absurd (serves 1 (List.mem_singleton_self 1)) (by decide)

end ThreadGroupImpl

end Zmqcpp
