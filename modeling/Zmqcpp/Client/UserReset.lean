import Zmqcpp.Client.Settings
import Zmqcpp.Client.StaleSockets

set_option autoImplicit false

namespace Zmqcpp

def InitPc.storing : InitPc → Bool
  | .testJoinable | .updateLastPong | .testAutoConnect | .startTimer _ | .setConnectStateFunc
  | .setRecvFunc => true
  | _ => false

-- The task is in a Reset(addr, ...) with a store of the address or of a function to come.
def Task.replaying : Task → Bool
  | .reset (.stop (.start _ _ _) _) | .reset (.setAddress _ _ _) => true
  | .reset (.init _ _ pc) => pc.storing
  | _ => false

/-- What the task has yet to store is the address and the functions given. -/
def Task.Replays (addr : String) (connectStateFn recvFn : Option Nat) : Task → Prop
  | .reset (.stop (.start addr' connectStateFn' recvFn') _)
  | .reset (.setAddress addr' connectStateFn' recvFn') =>
      addr' = addr ∧ connectStateFn' = connectStateFn ∧ recvFn' = recvFn
  | .reset (.init connectStateFn' recvFn' pc) =>
      pc.storing = true → connectStateFn' = connectStateFn ∧ recvFn' = recvFn
  | _ => True

theorem Task.replays_of_not_replaying {addr : String} {connectStateFn recvFn : Option Nat}
    {task : Task} (quiet : task.replaying = false) : task.Replays addr connectStateFn recvFn := by
  unfold Task.Replays
  split
  · cases quiet
  · cases quiet
  · intro storing
    simp only [Task.replaying, storing] at quiet
    cases quiet
  · trivial

namespace ZmqClientBase

variable {s next : ZmqClientBase} {action : Action} {number : Nat} {addr : String}
  {connectStateFn recvFn : Option Nat}

-- The timer's thread has copied a member and not stored all of its copies.
def copying (s : ZmqClientBase) : Bool :=
  match s.onTimeout with
  | .workRoutine (.copyRecvFunc _) | .workRoutine (.copyAddress _ _) => true
  | _ => (s.task .timer).replaying

theorem initStep_storing {env : Env} {before pc : InitPc}
    (moved : (s.initStep env connectStateFn recvFn before).2 = .inl pc)
    (storing : pc.storing = true) : before.storing = true := by
  cases before with
  | setUndefine | newThread | storeThread =>
      cases moved
      cases storing
  | testState =>
      simp only [initStep, Sum.inl.injEq] at moved
      split_ifs at moved <;> (subst moved; cases storing)
  | readResult => cases moved
  | _ => rfl

theorem step_replaying {thread : Tid} (taken : s.step action = some next)
    (replaying : (next.task thread).replaying = true) :
    (s.task thread).replaying = true ∨
      (∃ call, action = .call thread call ∧ call.controls = true) ∨
      thread = .timer ∧ ∃ env connectStateFunc recvFunc, action = .onTimeout env ∧
        s.onTimeout = .workRoutine (.copyAddress connectStateFunc recvFunc) := by
  cases step_task thread taken with
  | same same =>
      rw [same] at replaying
      exact .inl replaying
  | call call called idle task =>
      rw [task] at replaying
      cases call <;> first
        | exact .inr (.inl ⟨_, called, rfl⟩)
        | cases replaying
  | flow env own flow =>
      left
      generalize s.task thread = task at flow
      generalize next.task thread = after at flow replaying
      cases flow with
      | stopTimer pc rest => cases rest <;> cases replaying
      | stop after pc rest flow =>
          cases after with
          | start => rfl
          | finish => cases rest <;> cases replaying
      | setAddress => rfl
      | init env connectStateFn recvFn pc =>
          cases moved : (s.initStep env connectStateFn recvFn pc).2 with
          | inl after =>
              rw [moved] at replaying
              exact initStep_storing moved replaying
          | inr value =>
              rw [moved] at replaying
              cases replaying
      | send pc rest flow => cases rest <;> cases replaying
      | startTimer pc rest => cases rest <;> cases replaying
      | _ => cases replaying
  | autoConnect env connectStateFunc recvFunc timer ticked here =>
      exact .inr (.inr ⟨timer, env, connectStateFunc, recvFunc, ticked, here⟩)

theorem step_replays {thread : Tid} (taken : s.step action = some next)
    (uncalled : ∀ call, action = .call thread call → call.controls = false)
    (copied : ∀ connectStateFunc recvFunc, thread = .timer →
      s.onTimeout = .workRoutine (.copyAddress connectStateFunc recvFunc) →
        s.address = addr ∧ connectStateFunc = connectStateFn ∧ recvFunc = recvFn)
    (replays : (s.task thread).Replays addr connectStateFn recvFn) :
    (next.task thread).Replays addr connectStateFn recvFn := by
  cases step_task thread taken with
  | same same =>
      rw [same]
      exact replays
  | call call called idle task =>
      have harmless := uncalled call called
      rw [task]
      cases call with
      | resetAddr | resetIp => cases harmless
      | _ => trivial
  | flow env own flow =>
      generalize s.task thread = task at flow replays
      generalize next.task thread = after at flow
      cases flow with
      | stopTimer pc rest => cases rest <;> trivial
      | stop after pc rest flow =>
          cases after with
          | start => cases rest <;> exact replays
          | finish => cases rest <;> trivial
      | setAddress => exact fun _ => replays.2
      | init env first second pc =>
          cases moved : (s.initStep env first second pc).2 with
          | inl after => exact fun storing => replays (initStep_storing moved storing)
          | inr value => trivial
      | send pc rest flow => cases rest <;> trivial
      | startTimer pc rest => cases rest <;> trivial
      | _ => trivial
  | autoConnect env connectStateFunc recvFunc timer ticked here task =>
      rw [task]
      exact copied connectStateFunc recvFunc timer here

structure Holds (number : Nat) (addr : String) (connectStateFn recvFn : Option Nat)
    (s : ZmqClientBase) : Prop where
  address : s.address = addr
  connectStateFunc : s.connectStateFunc = connectStateFn
  recvFunc : s.recvFunc = recvFn
  copyRecvFunc : ∀ first, s.onTimeout = .workRoutine (.copyRecvFunc first) → first = connectStateFn
  copyAddress : ∀ first second, s.onTimeout = .workRoutine (.copyAddress first second) →
    first = connectStateFn ∧ second = recvFn
  timer : (s.task .timer).Replays addr connectStateFn recvFn
  user : (s.task (.user number)).replaying = false

def ByUser (number : Nat) (_ : ZmqClientBase) (action : Action) : Prop :=
  ∀ thread call, action = .call thread call → call.controls = true → thread = .user number

def ResetBy (number : Nat) (s : ZmqClientBase) : Prop :=
  ∀ thread, (s.task thread).controls = true → thread = .user number ∨ thread = .timer

theorem ResetBy.step (resetBy : s.ResetBy number) (byUser : ByUser number s action)
    (taken : s.step action = some next) : next.ResetBy number := by
  intro thread controls
  rcases step_controls taken controls with before | ⟨call, called, starts⟩ | ⟨timer, -⟩
  · exact resetBy thread before
  · exact .inl (byUser thread call called starts)
  · exact .inr timer

-- Outside the user's own stores every store of a member is the timer's.
theorem ResetBy.timer_of_replaying (resetBy : s.ResetBy number)
    (quiet : (s.task (.user number)).replaying = false) {thread : Tid} {task : Task}
    (here : s.task thread = task) (replaying : task.replaying = true)
    (controls : task.controls = true) : thread = .timer := by
  rcases resetBy thread (by rw [here]; exact controls) with rfl | timer
  · rw [here, replaying] at quiet
    cases quiet
  · exact timer

theorem Holds.replays (holds : s.Holds number addr connectStateFn recvFn)
    (resetBy : s.ResetBy number) {thread : Tid} {task : Task} (here : s.task thread = task)
    (replaying : task.replaying = true) (controls : task.controls = true) :
    task.Replays addr connectStateFn recvFn := by
  have timer := resetBy.timer_of_replaying holds.user here replaying controls
  rw [← here, timer]
  exact holds.timer

theorem Holds.members_step (holds : s.Holds number addr connectStateFn recvFn)
    (resetBy : s.ResetBy number) (taken : s.step action = some next) :
    next.address = addr ∧ next.connectStateFunc = connectStateFn ∧ next.recvFunc = recvFn := by
  refine ⟨?_, ?_, ?_⟩
  · rcases step_address taken with same | ⟨thread, env, addr', first, second, -, here, stored⟩
    · rw [same]
      exact holds.address
    · rw [stored]
      exact (holds.replays resetBy here rfl rfl).1
  · rcases step_connectStateFunc taken with same | ⟨thread, env, first, second, -, here, stored⟩
    · rw [same]
      exact holds.connectStateFunc
    · rw [stored]
      exact (holds.replays resetBy here rfl rfl rfl).1
  · rcases step_recvFunc taken with same | ⟨thread, env, first, second, -, here, stored⟩
    · rw [same]
      exact holds.recvFunc
    · rw [stored]
      exact (holds.replays resetBy here rfl rfl rfl).2

-- The timer is a thread without calls of its own.
theorem not_called_timer (taken : s.step action = some next) (call : Call) :
    action ≠ .call .timer call := by
  rintro rfl
  cases step_moves taken with
  | call _ _ _ may => cases may

theorem Holds.step (holds : s.Holds number addr connectStateFn recvFn)
    (resetBy : s.ResetBy number)
    (uncalled : ∀ call, action = .call (.user number) call → call.controls = false)
    (taken : s.step action = some next) : next.Holds number addr connectStateFn recvFn := by
  obtain ⟨address, first, second⟩ := holds.members_step resetBy taken
  refine
    { address := address
      connectStateFunc := first
      recvFunc := second
      copyRecvFunc := ?_
      copyAddress := ?_
      timer := ?_
      user := ?_ }
  · intro copy here
    rcases step_into_workRoutine taken here with
      ⟨before, -⟩ | entry | ⟨env, pc, -, before, flow⟩
    · exact holds.copyRecvFunc copy before
    · cases entry
    · cases flow with
      | copyConnectStateFunc => exact holds.connectStateFunc
  · intro copy copy' here
    rcases step_into_workRoutine taken here with
      ⟨before, -⟩ | entry | ⟨env, pc, -, before, flow⟩
    · exact holds.copyAddress copy copy' before
    · cases entry
    · cases flow with
      | copyRecvFunc => exact ⟨holds.copyRecvFunc copy before, holds.recvFunc⟩
  · apply step_replays taken
    · intro call called
      exact absurd called (not_called_timer taken call)
    · intro copy copy' _ here
      exact ⟨holds.address, holds.copyAddress copy copy' here⟩
    · exact holds.timer
  · by_contra replaying
    simp only [Bool.not_eq_false] at replaying
    rcases step_replaying taken replaying with before | ⟨call, called, controls⟩ | ⟨timer, -⟩
    · rw [holds.user] at before
      cases before
    · rw [uncalled call called] at controls
      cases controls
    · cases timer

/-- The user stores an address only while the timer holds no copies it has yet to store, and
AutoConnect begins to copy only while the user's Init has no function to store. -/
structure CopiesApart (number : Nat) (s : ZmqClientBase) (action : Action) : Prop where
  stores : ∀ env addr connectStateFn recvFn, action = .task (.user number) env →
    s.task (.user number) = .reset (.setAddress addr connectStateFn recvFn) → s.copying = false
  copies : ∀ env connectStateFn recvFn pc, action = .onTimeout env →
    s.onTimeout = .workRoutine .copyConnectStateFunc →
      s.task (.user number) = .reset (.init connectStateFn recvFn pc) → pc.storing = false

theorem timer_of_not_copying (apart : s.copying = false) :
    (s.task .timer).replaying = false ∧
      (∀ first, s.onTimeout ≠ .workRoutine (.copyRecvFunc first)) ∧
      ∀ first second, s.onTimeout ≠ .workRoutine (.copyAddress first second) := by
  unfold copying at apart
  split at apart
  · cases apart
  · cases apart
  · next others others' => exact ⟨apart, others, others'⟩

theorem copying_step (apart : s.copying = false)
    (begins : ∀ env, action = .onTimeout env → s.onTimeout ≠ .workRoutine .copyConnectStateFunc)
    (taken : s.step action = some next) : next.copying = false := by
  obtain ⟨quiet, first, second⟩ := timer_of_not_copying apart
  have replaying : (next.task .timer).replaying = false := by
    by_contra replaying
    simp only [Bool.not_eq_false] at replaying
    rcases step_replaying taken replaying with before | ⟨call, called, -⟩ | ⟨-, env, f, g, -, here⟩
    · rw [quiet] at before
      cases before
    · exact not_called_timer taken call called
    · exact second f g here
  unfold copying
  split
  · next copy here =>
      rcases step_into_workRoutine taken here with
        ⟨before, -⟩ | entry | ⟨env, pc, own, before, flow⟩
      · exact absurd before (first copy)
      · cases entry
      · cases flow with
        | copyConnectStateFunc => exact absurd before (begins env own)
  · next copy copy' here =>
      rcases step_into_workRoutine taken here with
        ⟨before, -⟩ | entry | ⟨env, pc, -, before, flow⟩
      · exact absurd before (second copy copy')
      · cases entry
      · cases flow with
        | copyRecvFunc => exact absurd before (first copy)
  · exact replaying

/-- Where the user's Reset(addr, ...) is, and what of it the members hold by then. -/
def Phase (number : Nat) (addr : String) (connectStateFn recvFn : Option Nat) (s : ZmqClientBase) :
    Task → Prop
  | .reset (.stop after _) => after = .start addr connectStateFn recvFn
  | .reset (.setAddress addr' connectStateFn' recvFn') =>
      addr' = addr ∧ connectStateFn' = connectStateFn ∧ recvFn' = recvFn
  | .reset (.init connectStateFn' recvFn' pc) =>
      connectStateFn' = connectStateFn ∧ recvFn' = recvFn ∧
        if pc.storing then
          s.address = addr ∧ s.copying = false ∧
            (pc = .setRecvFunc → s.connectStateFunc = connectStateFn)
        else s.Holds number addr connectStateFn recvFn
  | .reset (.result true) => s.Holds number addr connectStateFn recvFn
  | .reset (.result false) | .idle => True
  | _ => False

theorem ResetBy.own_of_replaying (resetBy : s.ResetBy number) (apart : s.copying = false)
    {thread : Tid} {task : Task} (here : s.task thread = task) (replaying : task.replaying = true)
    (controls : task.controls = true) : thread = .user number := by
  rcases resetBy thread (by rw [here]; exact controls) with own | rfl
  · exact own
  · rw [← here, (timer_of_not_copying apart).1] at replaying
    cases replaying

theorem phase_other (resetBy : s.ResetBy number) (apart : CopiesApart number s action)
    (uncalled : ∀ call, action = .call (.user number) call → call.controls = false)
    (other : ∀ env, action ≠ .task (.user number) env) (taken : s.step action = some next)
    {task : Task} (here : s.task (.user number) = task)
    (phase : s.Phase number addr connectStateFn recvFn task) :
    next.Phase number addr connectStateFn recvFn task := by
  have kept (holds : s.Holds number addr connectStateFn recvFn) :
      next.Holds number addr connectStateFn recvFn := holds.step resetBy uncalled taken
  cases task with
  | reset pc =>
      cases pc with
      | init first second pc =>
          obtain ⟨rfl, rfl, phase⟩ := phase
          refine ⟨rfl, rfl, ?_⟩
          by_cases storing : pc.storing = true
          · simp only [storing, if_true] at phase ⊢
            obtain ⟨address, quiet, stored⟩ := phase
            have begins (env : Env) (own : action = .onTimeout env) :
                s.onTimeout ≠ .workRoutine .copyConnectStateFunc := by
              intro copies
              have done := apart.copies env first second pc own copies here
              rw [storing] at done
              cases done
            refine ⟨?_, copying_step quiet begins taken, ?_⟩
            · rcases step_address taken with same | ⟨thread, env, a, f, g, own, there, -⟩
              · exact same.trans address
              · have mine := resetBy.own_of_replaying quiet there rfl rfl
                rw [mine, here] at there
                cases there
            · intro last
              rcases step_connectStateFunc taken with same | ⟨thread, env, f, g, own, there, -⟩
              · exact same.trans (stored last)
              · have mine := resetBy.own_of_replaying quiet there rfl rfl
                subst mine
                exact absurd own (other env)
          · simp only [storing, Bool.false_eq_true, if_false] at phase ⊢
            exact kept phase
      | result value =>
          cases value with
          | true => exact kept phase
          | false => trivial
      | _ => exact phase
  | _ => exact phase

-- Init before its last store goes on to another, or finds the client joinable and returns.
theorem initStep_before_recvFunc {env : Env} {first second : Option Nat} {pc : InitPc}
    (storing : pc.storing = true) (before : pc ≠ .setRecvFunc) :
    (s.initStep env first second pc).2 = .inr false ∨
      ∃ later, (s.initStep env first second pc).2 = .inl later ∧ later.storing = true ∧
        (later = .setRecvFunc → pc = .setConnectStateFunc) := by
  cases pc with
  | testJoinable =>
      by_cases joinable : s.joinable = true
      · exact .inl (by simp [initStep, joinable])
      · exact .inr ⟨.updateLastPong, by simp [initStep, joinable], rfl, by simp⟩
  | updateLastPong => exact .inr ⟨.testAutoConnect, rfl, rfl, by simp⟩
  | testAutoConnect =>
      by_cases autoConnect : s.bAutoConnect = true
      · exact .inr ⟨.startTimer .testRunning, by simp [initStep, autoConnect], rfl, by simp⟩
      · exact .inr ⟨.setConnectStateFunc, by simp [initStep, autoConnect], rfl, by simp⟩
  | startTimer start =>
      right
      cases rest : (s.autoConnectTimer.startStep start).2 with
      | none =>
          refine ⟨.setConnectStateFunc, ?_, rfl, by simp⟩
          simp [initStep, rest, InitPc.afterStartTimer]
      | some after =>
          refine ⟨.startTimer after, ?_, rfl, by simp⟩
          simp [initStep, rest, InitPc.afterStartTimer]
  | setConnectStateFunc => exact .inr ⟨.setRecvFunc, rfl, rfl, fun _ => rfl⟩
  | setRecvFunc => exact absurd rfl before
  | _ => cases storing

-- With its last store the members are those of the user's Reset.
theorem holds_of_setRecvFunc {env : Env} {first second : Option Nat}
    (here : s.task (.user number) = .reset (.init first second .setRecvFunc))
    (taken : s.step (.task (.user number) env) = some next)
    (stored : s.connectStateFunc = first) (address : next.address = addr)
    (still : next.copying = false) : next.Holds number addr first second := by
  have moved := step_init here taken
  obtain ⟨timer, copyRecvFunc, copyAddress⟩ := timer_of_not_copying still
  exact
    { address := address
      connectStateFunc := by
        rw [moved]
        exact stored
      recvFunc := by
        rw [moved]
        rfl
      copyRecvFunc := fun copy there => absurd there (copyRecvFunc copy)
      copyAddress := fun copy copy' there => absurd there (copyAddress copy copy')
      timer := Task.replays_of_not_replaying timer
      user := by
        rw [moved]
        simp [initStep, ResetPc.afterInit, Task.replaying, InitPc.storing] }

theorem phase_init {env : Env} {first second : Option Nat} {pc : InitPc}
    (resetBy : s.ResetBy number) (here : s.task (.user number) = .reset (.init first second pc))
    (taken : s.step (.task (.user number) env) = some next)
    (phase : s.Phase number addr connectStateFn recvFn (.reset (.init first second pc))) :
    next.Phase number addr connectStateFn recvFn (next.task (.user number)) := by
  obtain ⟨rfl, rfl, phase⟩ := phase
  have moved := step_init here taken
  have task : next.task (.user number) =
      .reset (.afterInit first second (s.initStep env first second pc).2) := by
    rw [moved]
    simp
  rw [task]
  by_cases storing : pc.storing = true
  · simp only [storing, if_true] at phase
    obtain ⟨address, quiet, stored⟩ := phase
    have still : next.copying = false := copying_step quiet (by simp) taken
    have same : next.address = addr := by
      rcases step_address taken with same | ⟨thread, env', a, f, g, own, there, -⟩
      · exact same.trans address
      · cases own
        rw [here] at there
        cases there
    by_cases last : pc = .setRecvFunc
    · subst last
      exact ⟨rfl, rfl, holds_of_setRecvFunc here taken (stored rfl) same still⟩
    · rcases initStep_before_recvFunc storing last with returns | ⟨later, after, storing', first'⟩
      · rw [returns]
        trivial
      · rw [after]
        refine ⟨rfl, rfl, ?_⟩
        rw [if_pos storing']
        refine ⟨same, still, fun there => ?_⟩
        cases first' there
        rw [moved]
        rfl
  · simp only [storing, Bool.false_eq_true, if_false] at phase
    have holds : next.Holds number addr first second := phase.step resetBy (by simp) taken
    cases after : (s.initStep env first second pc).2 with
    | inl pc' =>
        refine ⟨rfl, rfl, ?_⟩
        have stays : ¬pc'.storing = true := fun storing' => storing (initStep_storing after storing')
        rw [if_neg stays]
        exact holds
    | inr value =>
        cases value with
        | true => exact holds
        | false => trivial

theorem phase_step (resetBy : s.ResetBy number) (apart : CopiesApart number s action)
    (uncalled : ∀ call, action ≠ .call (.user number) call) (taken : s.step action = some next)
    (phase : s.Phase number addr connectStateFn recvFn (s.task (.user number))) :
    next.Phase number addr connectStateFn recvFn (next.task (.user number)) := by
  by_cases own : ∃ env, action = .task (.user number) env
  · obtain ⟨env, rfl⟩ := own
    cases here : s.task (.user number) with
    | idle =>
        have stuck := step_not_crashed taken
        simp [step, stuck, here, taskStep] at taken
    | reset pc =>
        rw [here] at phase
        cases pc with
        | stopTimer pc => cases phase
        | stop after pc =>
            cases phase
            obtain ⟨stopped, rest, -, moved⟩ := step_stop here taken
            have task : next.task (.user number) =
                .reset (.afterStop (.start addr connectStateFn recvFn) rest) := by
              rw [moved]
              simp
            rw [task]
            cases rest with
            | none => exact ⟨rfl, rfl, rfl⟩
            | some pc => rfl
        | setAddress addr' first second =>
            obtain ⟨rfl, rfl, rfl⟩ := phase
            have quiet := apart.stores env addr' first second rfl here
            have still : next.copying = false := copying_step quiet (by simp) taken
            have moved := step_setAddress here taken
            have task : next.task (.user number) = .reset (.init first second .testJoinable) := by
              rw [moved]
              simp
            have stored : next.address = addr' := by
              rw [moved]
              rfl
            rw [task]
            exact ⟨rfl, rfl, stored, still, by simp⟩
        | init first second pc => exact phase_init resetBy here taken phase
        | result value =>
            rw [step_result here taken]
            simp [Phase]
    | _ =>
        rw [here] at phase
        cases phase
  · have other (env : Env) : action ≠ .task (.user number) env := fun same => own ⟨env, same⟩
    have same : next.task (.user number) = s.task (.user number) := by
      cases step_task (.user number) taken with
      | same same => exact same
      | call call called => exact absurd called (uncalled call)
      | flow env own => exact absurd own (other env)
      | autoConnect env connectStateFunc recvFunc timer => cases timer
    rw [same]
    exact phase_other resetBy apart (fun call called => absurd called (uncalled call)) other taken
      rfl phase

/-- Sessions from `first` on connect to the address and call the functions of the user's Reset. -/
structure Serves (addr : String) (connectStateFn recvFn : Option Nat) (first : Nat)
    (s : ZmqClientBase) : Prop where
  address : s.address = addr
  connectStateFunc : s.connectStateFunc = connectStateFn
  recvFunc : s.recvFunc = recvFn
  connected : ∀ session addr', first ≤ session → s.clientAddress session = some addr' → addr' = addr
  called : ∀ session call, first ≤ session → (session, call) ∈ s.callbacks →
    call.Of connectStateFn recvFn

/-- From a Reset(addr, ...) of the user that returned true until the user's next, sessions that
start use its address and functions. -/
def UserResetKept (number : Nat) (start : ZmqClientBase) (actions : List Action) : Prop :=
  ∀ call addr connectStateFn recvFn env earlier between later began calling returning returned final,
    actions = earlier ++ .call (.user number) call ::
      (between ++ .task (.user number) env :: later) →
    call.target = some (addr, connectStateFn, recvFn) →
    Transition.run step start earlier = some began →
    began.step (.call (.user number) call) = some calling →
    Transition.run step calling between = some returning →
    (∀ other, .call (.user number) other ∉ between) →
    returning.task (.user number) = .reset (.result true) →
    returning.step (.task (.user number) env) = some returned →
    Transition.run step returned later = some final →
    (∀ other, .call (.user number) other ∈ later → other.controls = false) →
    final.Serves addr connectStateFn recvFn returned.sessions

structure Uncreated (s : ZmqClientBase) : Prop where
  connected : ∀ session, s.sessions ≤ session → s.clientAddress session = none
  called : ∀ session call, (session, call) ∈ s.callbacks → session < s.sessions

theorem Uncreated.step (uncreated : s.Uncreated) (taken : s.step action = some next) :
    next.Uncreated := by
  have grown := step_sessions_le taken
  refine ⟨?_, step_called uncreated.called taken⟩
  intro session beyond
  rcases step_clientAddress session taken with same | ⟨created, -⟩
  · rw [same]
    apply uncreated.connected
    omega
  · omega

theorem Uncreated.serves (uncreated : s.Uncreated)
    (holds : s.Holds number addr connectStateFn recvFn) :
    s.Serves addr connectStateFn recvFn s.sessions := by
  refine ⟨holds.address, holds.connectStateFunc, holds.recvFunc, ?_, ?_⟩
  · intro session addr' beyond connected
    rw [uncreated.connected session beyond] at connected
    cases connected
  · intro session call beyond member
    have created := uncreated.called session call member
    omega

theorem Serves.step {first : Nat} (serves : s.Serves addr connectStateFn recvFn first)
    (taken : s.step action = some next) (holds : next.Holds number addr connectStateFn recvFn) :
    next.Serves addr connectStateFn recvFn first := by
  refine ⟨holds.address, holds.connectStateFunc, holds.recvFunc, ?_, ?_⟩
  · intro session addr' later connected
    rcases step_clientAddress session taken with same | ⟨-, stored⟩
    · rw [same] at connected
      exact serves.connected session addr' later connected
    · rw [stored, serves.address] at connected
      cases connected
      rfl
  · intro session call later member
    rcases step_callbacks taken with same | ⟨other, env, added, -, -, -, of, appended⟩
    · rw [same] at member
      exact serves.called session call later member
    · rw [appended, List.mem_append, List.mem_singleton] at member
      rcases member with before | new
      · exact serves.called session call later before
      · cases new
        rw [serves.connectStateFunc, serves.recvFunc] at of
        exact of

theorem constructed_resetBy (number : Nat) (build : Build) (lastpong : UInt32)
    (bStopMonitor : Bool) : (constructed build lastpong bStopMonitor).ResetBy number := by
  simp [ResetBy, constructed, Task.controls]

theorem constructed_uncreated (build : Build) (lastpong : UInt32) (bStopMonitor : Bool) :
    (constructed build lastpong bStopMonitor).Uncreated := by
  constructor <;> simp [constructed]

/-- In every run of one user thread's Resets and AutoConnect's in which their copies stay apart, a
Reset of the user that returned true is kept until the user's next one. -/
theorem user_reset_kept (number : Nat) (build : Build) (lastpong : UInt32) (bStopMonitor : Bool)
    (actions : List Action)
    (byUser : Transition.Along step (ByUser number) (constructed build lastpong bStopMonitor) actions)
    (apart : Transition.Along step (CopiesApart number) (constructed build lastpong bStopMonitor)
      actions) : (constructed build lastpong bStopMonitor).UserResetKept number actions := by
  rintro call addr connectStateFn recvFn env earlier between later began calling returning returned
    final rfl target reached called middle uncalled returns last remaining kept
  have along := Transition.along_append reached (Transition.along_and byUser apart)
  have resetBy : began.ResetBy number :=
    Transition.run_invariant (ResetBy number)
      (fun _ _ _ resetBy allowed taken => resetBy.step allowed.1 taken)
      (constructed_resetBy number build lastpong bStopMonitor) along.1 reached
  have uncreated : began.Uncreated :=
    Transition.run_invariant Uncreated (fun _ _ _ uncreated _ taken => uncreated.step taken)
      (constructed_uncreated build lastpong bStopMonitor) along.1 reached
  have entered : calling.Phase number addr connectStateFn recvFn (calling.task (.user number)) := by
    cases step_moves called with
    | call =>
        rw [setTask_task, Function.update_self, Call.task_of_target target]
        rfl
  have during := Transition.along_append middle (along.2.2 calling called)
  have own : ∀ action ∈ between, ∀ other, action ≠ .call (.user number) other := by
    rintro action member other rfl
    exact uncalled other member
  obtain ⟨resetBy, uncreated, phase⟩ := Transition.run_invariant
    (fun state => state.ResetBy number ∧ state.Uncreated ∧
      state.Phase number addr connectStateFn recvFn (state.task (.user number)))
    (fun _ _ _ ⟨resetBy, uncreated, phase⟩ ⟨allowed, apart⟩ taken =>
      ⟨resetBy.step allowed.1 taken, uncreated.step taken,
        phase_step resetBy allowed.2 apart taken phase⟩)
    ⟨resetBy.step along.2.1.1 called, uncreated.step called, entered⟩
    (Transition.along_and during.1 (Transition.along_of_forall own calling)) middle
  rw [returns] at phase
  have holds : returned.Holds number addr connectStateFn recvFn := phase.step resetBy (by simp) last
  have rest : ∀ action ∈ later, ∀ other, action = .call (.user number) other →
      other.controls = false := by
    rintro action member other rfl
    exact kept other member
  obtain ⟨-, -, serves⟩ := Transition.run_invariant
    (fun state => state.ResetBy number ∧ state.Holds number addr connectStateFn recvFn ∧
      state.Serves addr connectStateFn recvFn returned.sessions)
    (fun _ _ _ ⟨resetBy, holds, serves⟩ ⟨allowed, uncalled⟩ taken =>
      have after := holds.step resetBy uncalled taken
      ⟨resetBy.step allowed.1 taken, after, serves.step taken after⟩)
    ⟨resetBy.step during.2.1.1 last, holds, (uncreated.step last).serves holds⟩
    (Transition.along_and (during.2.2 returned last) (Transition.along_of_forall rest returned))
    remaining
  exact serves

def apartCheck (number : Nat) (s : ZmqClientBase) : Action → Bool
  | .call thread call => !call.controls || decide (thread = .user number)
  | .task thread _ =>
      match s.task thread with
      | .reset (.setAddress _ _ _) => decide (thread ≠ .user number) || !s.copying
      | _ => true
  | .onTimeout _ =>
      match s.task (.user number) with
      | .reset (.init _ _ pc) =>
          decide (s.onTimeout ≠ .workRoutine .copyConnectStateFunc) || !pc.storing
      | _ => true
  | .recvPoll _ _ => true

theorem byUser_of_check (checked : apartCheck number s action = true) : ByUser number s action := by
  rintro thread call rfl controls
  simpa [apartCheck, controls] using checked

theorem copiesApart_of_check (checked : apartCheck number s action = true) :
    CopiesApart number s action := by
  refine ⟨?_, ?_⟩
  · rintro env addr first second rfl here
    simpa [apartCheck, here] using checked
  · rintro env first second pc rfl copies here
    simpa [apartCheck, here, copies] using checked

-- A session is up at "tcp://a:1" with the functions 0 and 1.
def upSteps : List Action :=
  callSteps (.user 0) (.resetAddr "tcp://a:1" (some 0) (some 1)) 19 ++ pollSteps 0 14 ++
    taskSteps (.user 0) 3

-- The session's connection is lost and its poll thread ends.
def lostSteps (session : Nat) : List Action :=
  [.recvPoll session { monitor := true }, .recvPoll session { event := some .disconnected }] ++
    pollSteps session 7 ++ [.recvPoll session { event := some .stopped }] ++ pollSteps session 2

-- The session's poll thread leaves its loop after a Stop.
def endedSteps (session : Nat) : List Action :=
  pollSteps session 4 ++ [.recvPoll session { event := some .stopped }] ++ pollSteps session 2

def eventSteps (session : Nat) : List Action :=
  [.recvPoll session { monitor := true }, .recvPoll session { event := some .connected }] ++
    pollSteps session 2

-- The second session ends and AutoConnect starts a third one.
def reconnectSteps : List Action :=
  lostSteps 1 ++ List.replicate 12 (.onTimeout {}) ++ taskSteps .timer 18 ++ pollSteps 2 14 ++
    taskSteps .timer 3 ++ eventSteps 2

theorem user_reset_kept_reconnected : ∃ final,
    Transition.run step (constructed .other 0 false)
      (upSteps ++ .call (.user 0) (.resetAddr "tcp://b:1" (some 2) (some 3)) ::
        ((taskSteps (.user 0) 7 ++ endedSteps 0 ++ taskSteps (.user 0) 12 ++ pollSteps 1 14 ++
          taskSteps (.user 0) 2) ++ .task (.user 0) {} :: reconnectSteps)) = some final ∧
    final.Serves "tcp://b:1" (some 2) (some 3) 2 ∧ final.sessions = 3 := by
  have accepted : (Transition.run step (constructed .other 0 false) upSteps).any (fun began =>
      (began.step (.call (.user 0) (.resetAddr "tcp://b:1" (some 2) (some 3)))).any fun calling =>
        (Transition.run step calling (taskSteps (.user 0) 7 ++ endedSteps 0 ++
          taskSteps (.user 0) 12 ++ pollSteps 1 14 ++ taskSteps (.user 0) 2)).any fun returning =>
            decide (returning.task (.user 0) = .reset (.result true)) &&
            (returning.step (.task (.user 0) {})).any fun returned =>
              decide (returned.sessions = 2) &&
              (Transition.run step returned reconnectSteps).any fun final =>
                decide (final.sessions = 3)) = true := by
    decide +kernel
  obtain ⟨began, reached, accepted⟩ := Transition.reached_of_check accepted
  simp only [Bool.and_eq_true, decide_eq_true_eq, Option.any_eq_true] at accepted
  obtain ⟨calling, called, returning, middle, returns, returned, last, two, final, remaining,
    three⟩ := accepted
  have checked : Transition.accepts step (apartCheck 0) (constructed .other 0 false)
      (upSteps ++ .call (.user 0) (.resetAddr "tcp://b:1" (some 2) (some 3)) ::
        ((taskSteps (.user 0) 7 ++ endedSteps 0 ++ taskSteps (.user 0) 12 ++ pollSteps 1 14 ++
          taskSteps (.user 0) 2) ++ .task (.user 0) {} :: reconnectSteps)) = true := by
    decide +kernel
  have serves := user_reset_kept 0 .other 0 false _
    (Transition.along_of_accepts (fun _ => True) (apartCheck 0) (fun _ _ _ _ _ _ => trivial)
      (fun _ _ _ checked => byUser_of_check checked) trivial checked)
    (Transition.along_of_accepts (fun _ => True) (apartCheck 0) (fun _ _ _ _ _ _ => trivial)
      (fun _ _ _ checked => copiesApart_of_check checked) trivial checked)
    (.resetAddr "tcp://b:1" (some 2) (some 3)) "tcp://b:1" (some 2) (some 3) {} _ _ _ began calling
    returning returned final rfl rfl reached called middle
    (by simp [taskSteps, pollSteps, endedSteps]) returns last remaining
    (by simp [reconnectSteps, lostSteps, eventSteps, taskSteps, pollSteps])
  have tail := Transition.run_cons_some.mpr ⟨returned, last, remaining⟩
  have rest := Transition.run_append_some.mpr ⟨returning, middle, tail⟩
  have run := Transition.run_append_some.mpr
    ⟨began, reached, Transition.run_cons_some.mpr ⟨calling, called, rest⟩⟩
  exact ⟨final, run, two ▸ serves, three⟩

-- AutoConnect has copied the functions when the user's Reset begins, and the address after it.
theorem user_reset_overwritten :
    ¬(constructed .other 0 false).UserResetKept 0
      ((upSteps ++ lostSteps 0 ++ List.replicate 11 (.onTimeout {})) ++
        .call (.user 0) (.resetAddr "tcp://b:1" (some 2) (some 3)) ::
          ((taskSteps (.user 0) 18 ++ pollSteps 1 14 ++ taskSteps (.user 0) 3) ++
            .task (.user 0) {} ::
              ([.onTimeout {}] ++ taskSteps .timer 7 ++ endedSteps 1 ++ taskSteps .timer 12 ++
                pollSteps 2 14 ++ taskSteps .timer 3 ++ eventSteps 2))) := by
  have accepted : (Transition.run step (constructed .other 0 false)
      (upSteps ++ lostSteps 0 ++ List.replicate 11 (.onTimeout {}))).any (fun began =>
        (began.step (.call (.user 0) (.resetAddr "tcp://b:1" (some 2) (some 3)))).any fun calling =>
          (Transition.run step calling
            (taskSteps (.user 0) 18 ++ pollSteps 1 14 ++ taskSteps (.user 0) 3)).any fun returning =>
              decide (returning.task (.user 0) = .reset (.result true)) &&
              (returning.step (.task (.user 0) {})).any fun returned =>
                decide (returned.sessions = 2) &&
                (Transition.run step returned ([.onTimeout {}] ++ taskSteps .timer 7 ++
                  endedSteps 1 ++ taskSteps .timer 12 ++ pollSteps 2 14 ++ taskSteps .timer 3 ++
                  eventSteps 2)).any fun final =>
                    decide ((2, .connectState 0 .onEventConnected) ∈ final.callbacks)) = true := by
    decide +kernel
  obtain ⟨began, reached, accepted⟩ := Transition.reached_of_check accepted
  simp only [Bool.and_eq_true, decide_eq_true_eq, Option.any_eq_true] at accepted
  obtain ⟨calling, called, returning, middle, returns, returned, last, two, final, remaining,
    member⟩ := accepted
  intro kept
  have serves := kept (.resetAddr "tcp://b:1" (some 2) (some 3)) "tcp://b:1" (some 2) (some 3) {}
    _ _ _ began calling returning returned final rfl rfl reached called middle
    (by simp [taskSteps, pollSteps]) returns last remaining
    (by simp [endedSteps, eventSteps, taskSteps, pollSteps])
  have of := serves.called 2 _ two.le member
  exact absurd of (by simp [CallbackCall.Of])

end ZmqClientBase

end Zmqcpp
