import Mathlib.Logic.Function.Basic
import Zmqcpp.Client.TimerWorker
import Zmqcpp.Shared.Transition

set_option autoImplicit false

/-!
# The tick chain of a timer

Any threads call Start and Stop, the work routine among them, while the group's thread runs
OnTimeout.
-/

namespace Zmqcpp

namespace TimerWorker

inductive CallPc
  | start (pc : StartPc)
  | stop (pc : StopPc)
  deriving DecidableEq, Repr

/-- The timer, the call each thread is in, and OnTimeout on the group's thread, which is `none`
among the callers: it makes calls from inside the work routine. -/
structure Callers (Thread : Type) where
  timer : TimerWorker := {}
  call : Option Thread → Option CallPc := fun _ => none
  onTimeout : OnTimeoutPc Unit := .idle

inductive CallerAction (Thread : Type)
  | start (caller : Option Thread)
  | stop (caller : Option Thread)
  | call (caller : Option Thread)
  | onTimeout
  deriving DecidableEq, Repr

-- Start has set m_bRunning and is still to post OnTimeout.
def CallPc.posting : CallPc → Bool
  | .start .resetInterrupter | .start .post => true
  | _ => false

namespace Callers

variable {Thread : Type} {s next : Callers Thread} {action : CallerAction Thread}

def chains (s : Callers Thread) : Nat :=
  s.timer.posted + if s.onTimeout = .idle then 0 else 1

def posting (s : Callers Thread) (caller : Option Thread) : Bool :=
  (s.call caller).any CallPc.posting

def OneChain (s : Callers Thread) : Prop :=
  s.timer.bRunning = true → (∀ caller pc, s.call caller ≠ some (.start pc)) → s.chains = 1

/-- Start sets m_bRunning only while no OnTimeout is queued or executing and no other Start is
about to post one. -/
def SetsAlone (s : Callers Thread) (action : CallerAction Thread) : Prop :=
  ∀ caller, action = .call caller → s.call caller = some (.start .setRunning) →
    s.chains = 0 ∧ ∀ other, s.posting other = false

structure Chained (s : Callers Thread) : Prop where
  alone : ∀ left right, s.posting left = true → s.posting right = true → left = right
  unposted : ∀ caller, s.posting caller = true → s.chains = 0
  single : s.chains ≤ 1
  running : s.timer.bRunning = true → s.chains = 1 ∨ ∃ caller, s.posting caller = true

-- OnTimeout ends a chain only when it has found m_bRunning false.
theorem onTimeoutStep_chains {timer : TimerWorker} {pc : OnTimeoutPc Unit}
    (taken : s.timer.onTimeoutStep () s.onTimeout = some (timer, pc)) :
    Callers.chains { s with timer, onTimeout := pc } = s.chains ∨
      s.timer.bRunning = false ∧ Callers.chains { s with timer, onTimeout := pc } + 1 = s.chains := by
  unfold chains
  cases here : s.onTimeout with
  | idle =>
      simp only [here, onTimeoutStep, Option.ite_none_left_eq_some, Option.some.injEq,
        Prod.mk.injEq] at taken
      obtain ⟨queued, rfl, rfl⟩ := taken
      left
      simp
      omega
  | testBeforeWait | testAfterWait =>
      simp only [here, onTimeoutStep, Option.some.injEq, Prod.mk.injEq] at taken
      obtain ⟨rfl, rfl⟩ := taken
      cases running : s.timer.bRunning <;> simp
  | wait =>
      simp only [here, onTimeoutStep, Option.some.injEq, Prod.mk.injEq] at taken
      obtain ⟨rfl, rfl⟩ := taken
      simp
  | workRoutine work => simp [here, onTimeoutStep] at taken
  | post =>
      simp only [here, onTimeoutStep, Option.some.injEq, Prod.mk.injEq] at taken
      obtain ⟨rfl, rfl⟩ := taken
      left
      simp

theorem Chained.oneChain (chained : s.Chained) : s.OneChain := by
  intro runs unstarted
  rcases chained.running runs with one | ⟨caller, posting⟩
  · exact one
  · obtain ⟨call, here, posts⟩ := (Option.any_eq_true _ _).mp posting
    cases call with
    | start pc => exact absurd here (unstarted caller pc)
    | stop pc => cases posts

section Steps

variable [DecidableEq Thread]

def setCall (s : Callers Thread) (caller : Option Thread) (call : Option CallPc) :
    Callers Thread :=
  { s with call := Function.update s.call caller call }

def mayCall (s : Callers Thread) : Option Thread → Bool
  | some _ => true
  | none => decide (s.onTimeout = .workRoutine ())

def callStep (s : Callers Thread) (caller : Option Thread) : CallPc → Callers Thread
  | .start pc =>
      { s with timer := (s.timer.startStep pc).1 }.setCall caller
        ((s.timer.startStep pc).2.map .start)
  | .stop pc =>
      { s with timer := (s.timer.stopStep pc).1 }.setCall caller
        ((s.timer.stopStep pc).2.map .stop)

def step (s : Callers Thread) : CallerAction Thread → Option (Callers Thread)
  | .start caller =>
      if s.call caller = none ∧ s.mayCall caller then
        some (s.setCall caller (some (.start .testRunning)))
      else none
  | .stop caller =>
      if s.call caller = none ∧ s.mayCall caller then
        some (s.setCall caller (some (.stop .clearRunning)))
      else none
  | .call caller => (s.call caller).map (s.callStep caller)
  | .onTimeout =>
      match s.onTimeout with
      -- The work routine returns when none of its calls is in progress.
      | .workRoutine () => if s.call none = none then some { s with onTimeout := .post } else none
      | pc =>
          (s.timer.onTimeoutStep () pc).map fun result =>
            { s with timer := result.1, onTimeout := result.2 }

@[simp]
theorem setCall_posting (caller : Option Thread) (call : Option CallPc) (other : Option Thread) :
    (s.setCall caller call).posting other =
      if other = caller then call.any CallPc.posting else s.posting other := by
  by_cases own : other = caller <;> simp [posting, setCall, own]

/-- What a step does to the chains, the flag and the Starts about to post. -/
inductive Moves (s : Callers Thread) (action : CallerAction Thread) (next : Callers Thread) : Prop
  | same (chains : next.chains = s.chains) (running : next.timer.bRunning = s.timer.bRunning)
      (posting : next.posting = s.posting)
  | sets (caller : Option Thread) (called : action = .call caller)
      (here : s.call caller = some (.start .setRunning)) (chains : next.chains = s.chains)
      (posting : next.posting = Function.update s.posting caller true)
  | posts (caller : Option Thread) (was : s.posting caller = true)
      (chains : next.chains = s.chains + 1) (running : next.timer.bRunning = s.timer.bRunning)
      (posting : next.posting = Function.update s.posting caller false)
  | stops (chains : next.chains = s.chains) (running : next.timer.bRunning = false)
      (posting : next.posting = s.posting)
  | ends (stopped : s.timer.bRunning = false) (chains : next.chains + 1 = s.chains)
      (running : next.timer.bRunning = false) (posting : next.posting = s.posting)

theorem setCall_posting_same {caller : Option Thread} {call : Option CallPc}
    (same : call.any CallPc.posting = s.posting caller) :
    (s.setCall caller call).posting = s.posting := by
  funext other
  rw [setCall_posting]
  split_ifs with own
  · rw [own, same]
  · rfl

theorem setCall_posting_update (caller : Option Thread) (call : Option CallPc) :
    (s.setCall caller call).posting =
      Function.update s.posting caller (call.any CallPc.posting) := by
  funext other
  rw [setCall_posting, Function.update_apply]

theorem step_moves (taken : s.step action = some next) : Moves s action next := by
  cases action with
  | start caller =>
      simp only [step, Option.ite_none_right_eq_some, Option.some.injEq] at taken
      obtain ⟨⟨idle, -⟩, rfl⟩ := taken
      exact .same rfl rfl (setCall_posting_same (by simp [posting, idle, CallPc.posting]))
  | stop caller =>
      simp only [step, Option.ite_none_right_eq_some, Option.some.injEq] at taken
      obtain ⟨⟨idle, -⟩, rfl⟩ := taken
      exact .same rfl rfl (setCall_posting_same (by simp [posting, idle, CallPc.posting]))
  | call caller =>
      simp only [step, Option.map_eq_some_iff] at taken
      obtain ⟨call, here, rfl⟩ := taken
      cases call with
      | start pc =>
          cases pc with
          | testRunning =>
              refine .same rfl rfl (setCall_posting_same ?_)
              cases running : s.timer.bRunning <;>
                simp [startStep, running, posting, here, CallPc.posting]
          | setRunning =>
              exact .sets caller rfl here rfl (setCall_posting_update caller _)
          | resetInterrupter =>
              refine .same rfl rfl (setCall_posting_same ?_)
              simp [startStep, posting, here, CallPc.posting]
          | post =>
              refine .posts caller ?_ ?_ rfl (setCall_posting_update caller _)
              · simp [posting, here, CallPc.posting]
              · exact Nat.add_right_comm s.timer.posted 1 _
      | stop pc =>
          cases pc with
          | clearRunning =>
              refine .stops rfl rfl (setCall_posting_same ?_)
              simp [stopStep, posting, here, CallPc.posting]
          | interrupt =>
              refine .same rfl rfl (setCall_posting_same ?_)
              simp [stopStep, posting, here, CallPc.posting]
  | onTimeout =>
      cases here : s.onTimeout with
      | workRoutine work =>
          simp only [step, here, Option.ite_none_right_eq_some, Option.some.injEq] at taken
          obtain ⟨-, rfl⟩ := taken
          exact .same (by simp [chains, here]) rfl rfl
      | _ =>
          simp only [step, here, Option.map_eq_some_iff] at taken
          obtain ⟨⟨timer, pc⟩, moved, rfl⟩ := taken
          have running := onTimeoutStep_bRunning moved
          rw [← here] at moved
          rcases onTimeoutStep_chains moved with same | ⟨stopped, fewer⟩
          · exact .same same running rfl
          · exact .ends stopped fewer (running.trans stopped) rfl

theorem Chained.step (chained : s.Chained) (alone : SetsAlone s action)
    (taken : s.step action = some next) : next.Chained := by
  cases step_moves taken with
  | same chains running posting =>
      exact
        { alone := by rw [posting]; exact chained.alone
          unposted := by rw [posting, chains]; exact chained.unposted
          single := by rw [chains]; exact chained.single
          running := by rw [posting, chains, running]; exact chained.running }
  | sets caller called here chains posting =>
      obtain ⟨none_alive, none_posting⟩ := alone caller called here
      have own (other : Option Thread) (sets : next.posting other = true) : other = caller := by
        by_contra different
        simp [posting, different, none_posting other] at sets
      refine ⟨?_, ?_, ?_, ?_⟩
      · intro left right leftSets rightSets
        exact (own left leftSets).trans (own right rightSets).symm
      · intro _ _
        rw [chains, none_alive]
      · rw [chains, none_alive]
        exact Nat.zero_le 1
      · intro _
        exact .inr ⟨caller, by simp [posting]⟩
  | posts caller was chains running posting =>
      have none_alive := chained.unposted caller was
      have none_left (other : Option Thread) : next.posting other = false := by
        rw [posting]
        by_cases own : other = caller
        · simp [own]
        · by_contra sets
          simp only [Function.update_of_ne own, Bool.not_eq_false] at sets
          exact own (chained.alone other caller sets was)
      refine ⟨?_, ?_, ?_, ?_⟩
      · intro left right sets
        simp [none_left left] at sets
      · intro other sets
        simp [none_left other] at sets
      · exact Nat.le_of_eq (by rw [chains, none_alive])
      · intro _
        exact .inl (by rw [chains, none_alive])
  | stops chains running posting =>
      refine ⟨?_, ?_, ?_, ?_⟩
      · rw [posting]
        exact chained.alone
      · rw [posting, chains]
        exact chained.unposted
      · rw [chains]
        exact chained.single
      · intro runs
        rw [running] at runs
        cases runs
  | ends stopped chains running posting =>
      have single := chained.single
      refine ⟨?_, ?_, by omega, ?_⟩
      · rw [posting]
        exact chained.alone
      · intro other sets
        rw [posting] at sets
        have none_alive := chained.unposted other sets
        omega
      · intro runs
        rw [running] at runs
        cases runs

/-- In every run in which no Start sets the flag behind a chain that is alive, a running timer
has exactly one. -/
theorem one_tick_chain (actions : List (CallerAction Thread)) (reached : Callers Thread)
    (alone : Transition.Along step SetsAlone {} actions)
    (run : Transition.run step {} actions = some reached) : reached.OneChain := by
  have initial : Chained ({} : Callers Thread) := by
    constructor <;> simp [posting, chains]
  exact (Transition.run_invariant Chained
    (fun _ _ _ chained alone taken => chained.step alone taken) initial alone run).oneChain

end Steps

def setsAloneCheck (s : Callers Unit) : CallerAction Unit → Bool
  | .call caller =>
      decide (s.call caller ≠ some (.start .setRunning)) ||
        decide (s.chains = 0) && !s.posting none && !s.posting (some ())
  | _ => true

theorem setsAlone_of_check {s : Callers Unit} {action : CallerAction Unit}
    (checked : s.setsAloneCheck action = true) : s.SetsAlone action := by
  intro caller called here
  subst called
  simp only [setsAloneCheck, here, ne_eq, not_true, decide_false, Bool.false_or,
    Bool.and_eq_true, decide_eq_true_eq, Bool.not_eq_true'] at checked
  refine ⟨checked.1.1, fun other => ?_⟩
  cases other with
  | none => exact checked.1.2
  | some thread => exact checked.2

-- A timer started by one thread, with OnTimeout in its wait.
theorem one_tick_chain_waiting : ∃ reached : Callers Unit,
    Transition.run step {} [.start (some ()), .call (some ()), .call (some ()), .call (some ()),
      .call (some ()), .onTimeout, .onTimeout] = some reached ∧
    reached.OneChain ∧ reached.timer.bRunning = true ∧ reached.onTimeout = .wait := by
  have alone : Transition.Along step SetsAlone ({} : Callers Unit) [.start (some ()),
      .call (some ()), .call (some ()), .call (some ()), .call (some ()), .onTimeout,
      .onTimeout] :=
    Transition.along_of_accepts (fun _ => True) setsAloneCheck (fun _ _ _ _ _ _ => trivial)
      (fun _ _ _ checked => setsAlone_of_check checked) trivial (by decide)
  exact ⟨_, rfl, one_tick_chain _ _ alone rfl, rfl, rfl⟩

-- Stop and Start while OnTimeout is in its wait.
theorem two_tick_chains : ∃ reached : Callers Unit,
    Transition.run step {} [.start (some ()), .call (some ()), .call (some ()), .call (some ()),
      .call (some ()), .onTimeout, .onTimeout, .stop (some ()), .call (some ()), .call (some ()),
      .start (some ()), .call (some ()), .call (some ()), .call (some ()), .call (some ())] =
      some reached ∧
    reached.chains = 2 ∧ ¬reached.OneChain := by
  refine ⟨_, rfl, rfl, fun one => ?_⟩
  have single := one rfl (by rintro (_ | _) pc <;> nofun)
  exact absurd single (by decide)

end Callers

end TimerWorker

end Zmqcpp
