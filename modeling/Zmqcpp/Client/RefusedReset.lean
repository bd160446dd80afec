import Zmqcpp.Client.Settings
import Zmqcpp.Client.StaleSockets

set_option autoImplicit false

namespace Zmqcpp

namespace ZmqClientBase

variable {s next : ZmqClientBase} {action : Action}

structure Unchanged (before after : ZmqClientBase) : Prop where
  address : after.address = before.address
  connectStateFunc : after.connectStateFunc = before.connectStateFunc
  recvFunc : after.recvFunc = before.recvFunc
  frontsockets : after.frontsockets = before.frontsockets
  session : before.bRun = true →
    after.bRun = true ∧ after.transportState = before.transportState

/-- The steps of the call itself, and steps of other threads that do not touch what it is to
leave as it was. -/
structure OwnCall (thread : Tid) (s : ZmqClientBase) (action : Action) : Prop where
  uncalled : ∀ call, action ≠ .call thread call
  others : ∀ next, (∀ env, action ≠ .task thread env) → s.step action = some next →
    next.address = s.address ∧ next.connectStateFunc = s.connectStateFunc ∧
      next.recvFunc = s.recvFunc ∧ next.frontsockets = s.frontsockets ∧ next.bRun = s.bRun

def Torn (start : ZmqClientBase) (addr : String) (s : ZmqClientBase) : Task → Prop
  | .reset (.stop after pc) =>
      (∃ connectStateFn recvFn, after = .start addr connectStateFn recvFn) ∧
        s.address = start.address ∧ s.connectStateFunc = start.connectStateFunc ∧
        s.recvFunc = start.recvFunc ∧ (pc ≠ .clearRun → s.bRun = false) ∧
        (pc.afterDelete = true → s.frontsockets = [])
  | .reset (.setAddress addr' _ _) =>
      addr' = addr ∧ s.connectStateFunc = start.connectStateFunc ∧ s.recvFunc = start.recvFunc ∧
        s.bRun = false ∧ s.frontsockets = []
  | .reset (.init _ _ .testJoinable) =>
      s.address = addr ∧ s.connectStateFunc = start.connectStateFunc ∧
        s.recvFunc = start.recvFunc ∧ s.bRun = false ∧ s.frontsockets = []
  | .reset (.init _ _ _) | .reset (.result _) | .idle => True
  | _ => False

variable {start : ZmqClientBase} {addr : String} {thread : Tid}

theorem torn_stop {stopped : ZmqClientBase} {after : AfterStop} {pc : StopPc}
    {rest : Option StopPc} (torn : Torn start addr s (.reset (.stop after pc)))
    (taken : s.stopStep thread pc = some (stopped, rest)) :
    Torn start addr stopped (.reset (.afterStop after rest)) := by
  have frame := stopStep_frame taken
  have settings := stopStep_settings taken
  have flow := stopStep_flow taken
  obtain ⟨⟨connectStateFn, recvFn, rfl⟩, address, first, second, stops, deletes⟩ := torn
  have address' : stopped.address = start.address := (congrArg Settings.address settings).trans address
  have first' : stopped.connectStateFunc = start.connectStateFunc :=
    (congrArg Settings.connectStateFunc settings).trans first
  have second' : stopped.recvFunc = start.recvFunc :=
    (congrArg Settings.recvFunc settings).trans second
  have bRun : stopped.bRun = false := by
    by_cases clears : pc = .clearRun
    · subst clears
      cases taken
      rfl
    · rw [frame.bRun clears]
      exact stops clears
  cases rest with
  | some next =>
      refine ⟨⟨connectStateFn, recvFn, rfl⟩, address', first', second', fun _ => bRun, ?_⟩
      intro deleted
      cases flow with
      | empty entries =>
          rw [frame.frontsockets (by simp)]
          exact entries
      | joinable | notJoinable | samePollThread | otherThread | join | joined =>
          rw [frame.frontsockets (by simp)]
          exact deletes rfl
      | _ => cases deleted
  | none =>
      refine ⟨rfl, first', second', bRun, ?_⟩
      cases flow with
      | clearIdentity =>
          rw [frame.frontsockets (by simp)]
          exact deletes rfl

theorem torn_init {env : Env} {connectStateFn recvFn : Option Nat} (pc : InitPc) :
    Torn start addr next (.reset (.afterInit connectStateFn recvFn
      (s.initStep env connectStateFn recvFn pc).2)) := by
  cases pc with
  | testJoinable | testAutoConnect | testState =>
      simp only [initStep]
      split_ifs <;> trivial
  | startTimer start =>
      simp only [initStep]
      cases (s.autoConnectTimer.startStep start).2 <;> trivial
  | _ => trivial

theorem torn_same (address : next.address = s.address)
    (connectStateFunc : next.connectStateFunc = s.connectStateFunc)
    (recvFunc : next.recvFunc = s.recvFunc) (frontsockets : next.frontsockets = s.frontsockets)
    (bRun : next.bRun = s.bRun) {task : Task} (torn : Torn start addr s task) :
    Torn start addr next task := by
  unfold Torn at torn ⊢
  rw [address, connectStateFunc, recvFunc, frontsockets, bRun]
  exact torn

theorem torn_step (user : thread ≠ .timer) (torn : Torn start addr s (s.task thread))
    (own : OwnCall thread s action) (taken : s.step action = some next) :
    Torn start addr next (next.task thread) := by
  by_cases mine : ∃ env, action = .task thread env
  · obtain ⟨env, rfl⟩ := mine
    cases here : s.task thread with
    | idle => simp [step, step_not_crashed taken, here, taskStep] at taken
    | reset pc =>
        rw [here] at torn
        cases pc with
        | stopTimer pc => cases torn
        | stop after pc =>
            obtain ⟨stopped, rest, moved, rfl⟩ := step_stop here taken
            rw [setTask_task, Function.update_self]
            have stopped := torn_stop torn moved
            exact torn_same rfl rfl rfl rfl rfl stopped
        | setAddress addr' connectStateFn recvFn =>
            rw [step_setAddress here taken, setTask_task, Function.update_self]
            exact torn
        | init connectStateFn recvFn pc =>
            rw [step_init here taken, setTask_task, Function.update_self]
            exact torn_init pc
        | result value =>
            rw [step_result here taken, setTask_task, Function.update_self]
            trivial
    | _ =>
        rw [here] at torn
        cases torn
  · have unmoved : next.task thread = s.task thread := by
      cases step_task thread taken with
      | same same => exact same
      | call call called => exact absurd called (own.uncalled call)
      | flow env taking => exact absurd ⟨env, taking⟩ mine
      | autoConnect env connectStateFunc recvFunc timer => exact absurd timer user
    obtain ⟨address, first, second, fronts, bRun⟩ :=
      own.others next (fun env same => mine ⟨env, same⟩) taken
    rw [unmoved]
    exact torn_same address first second fronts bRun torn

/-- A Reset that is refused leaves the client as it was exactly when it is given the address the
client has, no front socket exists and m_bRun is false already. -/
theorem refused_reset (start began guard final : ZmqClientBase) (thread : Tid) (call : Call)
    (addr : String) (connectStateFn recvFn : Option Nat) (during : List Action) (env : Env)
    (target : call.target = some (addr, connectStateFn, recvFn))
    (begins : start.step (.call thread call) = some began)
    (own : Transition.Along step (OwnCall thread) began during)
    (run : Transition.run step began during = some guard)
    (here : guard.task thread = .reset (.init connectStateFn recvFn .testJoinable))
    (refused : guard.joinable = true)
    (returns : guard.step (.task thread env) = some final) :
    final.task thread = .reset (.result false) ∧
      (Unchanged start final ↔
        start.address = addr ∧ start.frontsockets = [] ∧ start.bRun = false) := by
  have user : thread ≠ .timer := by
    rintro rfl
    cases step_moves begins with
    | call _ _ _ may => cases may
  have initial : Torn start addr began (began.task thread) := by
    cases step_moves begins with
    | call _ _ _ may =>
        rw [setTask_task, Function.update_self, Call.task_of_target target]
        refine ⟨⟨connectStateFn, recvFn, rfl⟩, rfl, rfl, rfl, ?_, ?_⟩
        · intro later
          exact absurd rfl later
        · intro deleted
          cases deleted
  have torn := Transition.run_invariant (fun state => Torn start addr state (state.task thread))
    (fun _ _ _ torn own taken => torn_step user torn own taken) initial own run
  rw [here] at torn
  obtain ⟨address, first, second, bRun, fronts⟩ := torn
  rw [step_init here returns]
  simp only [initStep, refused, if_true, setTask_task, Function.update_self]
  refine ⟨rfl, ?_⟩
  constructor
  · intro unchanged
    refine ⟨unchanged.address.symm.trans address, unchanged.frontsockets.symm.trans fronts, ?_⟩
    by_contra running
    simp only [Bool.not_eq_false] at running
    have still : guard.bRun = true := (unchanged.session running).1
    rw [bRun] at still
    cases still
  · rintro ⟨same, empty, stopped⟩
    refine ⟨address.trans same.symm, first, second, fronts.trans empty.symm, ?_⟩
    intro running
    rw [stopped] at running
    cases running

theorem ownCall_taskSteps (s : ZmqClientBase) (thread : Tid) (count : Nat) :
    Transition.Along step (OwnCall thread) s (taskSteps thread count) := by
  have all : ∀ action ∈ taskSteps thread count, action = .task thread {} := by
    intro action member
    exact List.eq_of_mem_replicate member
  apply Transition.along_mono _ (Transition.along_of_forall all s)
  rintro state action rfl
  constructor
  · intro call called
    cases called
  · intro next others
    exact absurd rfl (others {})

-- A callback of the session of Reset("tcp://a:1", ...).
def inCallbackSteps (event : MonitorEvent) (count : Nat) : List Action :=
  callSteps (.user 0) (.resetAddr "tcp://a:1" (some 0) (some 1)) 19 ++ pollSteps 0 14 ++
    taskSteps (.user 0) 3 ++ [.recvPoll 0 { monitor := true }, .recvPoll 0 { event := some event }] ++
    pollSteps 0 count

-- The connection is lost, and the callback resets to the same address.
theorem refused_reset_disconnected : ∃ start final,
    Transition.run step (constructed .other 0 false) (inCallbackSteps .disconnected 3) =
      some start ∧
    Transition.run step start
      (callSteps (.poll 0) (.resetAddr "tcp://a:1" (some 2) (some 3)) 9) = some final ∧
    final.task (.poll 0) = .reset (.result false) ∧ Unchanged start final := by
  have accepted : (Transition.run step (constructed .other 0 false)
      (inCallbackSteps .disconnected 3)).any (fun start =>
        decide (start.address = "tcp://a:1" ∧ start.frontsockets = [] ∧ start.bRun = false) &&
        (start.step (.call (.poll 0) (.resetAddr "tcp://a:1" (some 2) (some 3)))).any fun began =>
          (Transition.run step began (taskSteps (.poll 0) 8)).any fun guard =>
            decide (guard.task (.poll 0) = .reset (.init (some 2) (some 3) .testJoinable)) &&
              guard.joinable && (guard.step (.task (.poll 0) {})).isSome) = true := by
    decide +kernel
  obtain ⟨start, run, checked⟩ := Transition.reached_of_check accepted
  simp only [Bool.and_eq_true, decide_eq_true_eq, Option.any_eq_true,
    Option.isSome_iff_exists] at checked
  obtain ⟨same, began, begins, guard, reached, ⟨here, refused⟩, final, returns⟩ := checked
  have result := refused_reset start began guard final (.poll 0) _ "tcp://a:1" (some 2) (some 3)
    (taskSteps (.poll 0) 8) {} rfl begins (ownCall_taskSteps began (.poll 0) 8) reached here refused
    returns
  refine ⟨start, final, run, ?_, result.1, result.2.mpr same⟩
  apply Transition.run_cons_some.mpr
  refine ⟨began, begins, ?_⟩
  have appended : Transition.run step began (taskSteps (.poll 0) 8 ++ taskSteps (.poll 0) 1) =
      some final :=
    Transition.run_append_some.mpr ⟨guard, reached, Transition.run_cons_some.mpr ⟨final, returns, rfl⟩⟩
  exact appended

-- A Reset to another address in the callback of a running session, and AutoConnect after it.
theorem refused_reset_stored : ∃ start final later,
    Transition.run step (constructed .other 0 false) (inCallbackSteps .connected 2) = some start ∧
    Transition.run step start
      (callSteps (.poll 0) (.resetAddr "tcp://b:1" (some 2) (some 3)) 9) = some final ∧
    final.task (.poll 0) = .reset (.result false) ∧ ¬Unchanged start final ∧
    Transition.run step final (List.replicate 12 (.onTimeout {})) = some later ∧
    later.task .timer = .reset (.stop (.start "tcp://b:1" (some 0) (some 1)) .clearRun) := by
  have accepted : (Transition.run step (constructed .other 0 false)
      (inCallbackSteps .connected 2)).any (fun start =>
        decide (start.address = "tcp://a:1") &&
        (Transition.run step start
          (callSteps (.poll 0) (.resetAddr "tcp://b:1" (some 2) (some 3)) 9)).any fun final =>
            decide (final.task (.poll 0) = .reset (.result false) ∧
              final.address = "tcp://b:1") &&
            (Transition.run step final (List.replicate 12 (.onTimeout {}))).any fun later =>
              decide (later.task .timer =
                .reset (.stop (.start "tcp://b:1" (some 0) (some 1)) .clearRun))) = true := by
    decide +kernel
  obtain ⟨start, run, checked⟩ := Transition.reached_of_check accepted
  simp only [Bool.and_eq_true, decide_eq_true_eq, Option.any_eq_true] at checked
  obtain ⟨before, final, called, ⟨refused, after⟩, later, ticked, mixed⟩ := checked
  refine ⟨start, final, later, run, called, refused, fun unchanged => ?_, ticked, mixed⟩
  have same := unchanged.address
  rw [before, after] at same
  exact absurd same (by decide)

end ZmqClientBase

end Zmqcpp
