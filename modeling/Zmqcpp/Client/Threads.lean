import Zmqcpp.Client.Writes
import Zmqcpp.Shared.Transition

set_option autoImplicit false

/-!
# Runs of given threads

The poll threads run, and of the threads that make calls only those of a list.
-/

namespace Zmqcpp

def byThreads (threads : List Tid) : Action → Bool
  | .call thread _ | .task thread _ => decide (thread ∈ threads)
  | .recvPoll _ _ => true
  | .onTimeout _ => decide (.timer ∈ threads)

-- A call of a thread and its first steps, with nothing refused by libzmq.
def callSteps (thread : Tid) (call : Call) (count : Nat) : List Action :=
  .call thread call :: List.replicate count (.task thread {})

def taskSteps (thread : Tid) (count : Nat) : List Action :=
  List.replicate count (.task thread {})

def pollSteps (session count : Nat) : List Action :=
  List.replicate count (.recvPoll session {})

-- Reset(addr, ...) of user thread 0 up to its return, with thread 0 in its poll loop.
def connectedSteps : List Action :=
  callSteps (.user 0) (.resetAddr "tcp://a:1" none none) 19 ++ pollSteps 0 14 ++
    taskSteps (.user 0) 3

namespace ZmqClientBase

variable {s next : ZmqClientBase} {action : Action} {threads : List Tid}

def Only (threads : List Tid) (s : ZmqClientBase) : Prop :=
  ∀ other, other ∉ threads → s.task other = .idle

theorem constructed_only (threads : List Tid) (build : Build) (lastpong : UInt32)
    (bStopMonitor : Bool) : (constructed build lastpong bStopMonitor).Only threads := by
  intro other _
  rfl

theorem Only.step (only : s.Only threads) (mine : byThreads threads action = true)
    (taken : s.step action = some next) : next.Only threads := by
  intro other outside
  cases step_task other taken with
  | same same =>
      rw [same]
      exact only other outside
  | call call called idle task =>
      subst called
      simp only [byThreads, decide_eq_true_eq] at mine
      exact absurd mine outside
  | flow env own flow =>
      subst own
      simp only [byThreads, decide_eq_true_eq] at mine
      exact absurd mine outside
  | autoConnect env connectStateFunc recvFunc timer ticked here task =>
      subst timer ticked
      simp only [byThreads, decide_eq_true_eq] at mine
      exact absurd mine outside

theorem Only.run {actions : List Action} (only : s.Only threads)
    (mine : actions.all (byThreads threads) = true)
    (run : Transition.run ZmqClientBase.step s actions = some next) : next.Only threads := by
  have all : ∀ action ∈ actions, byThreads threads action = true := by simpa using mine
  exact Transition.run_invariant (Only threads)
    (fun _ _ _ only mine taken => only.step mine taken) only
    (Transition.along_of_forall all s) run

-- While one thread steps, no other of a client with one calling thread is in a call.
theorem Only.caller_or_idle {thread caller : Tid} {env : Env} (only : s.Only [thread])
    (mine : byThreads [thread] (.task caller env) = true) (other : Tid) :
    other = caller ∨ s.task other = .idle := by
  simp only [byThreads, List.mem_singleton, decide_eq_true_eq] at mine
  by_cases own : other = caller
  · exact .inl own
  · right
    apply only other
    rw [List.mem_singleton, ← mine]
    exact own

theorem only_along {allowed : ZmqClientBase → Action → Prop} (check : ZmqClientBase → Action → Bool)
    (permits : ∀ state action, state.Only threads → byThreads threads action = true →
      check state action = true → allowed state action)
    {actions : List Action} (initial : s.Only threads)
    (accepted : Transition.accepts ZmqClientBase.step
      (fun state action => byThreads threads action && check state action) s actions = true) :
    Transition.Along ZmqClientBase.step allowed s actions := by
  refine Transition.along_of_accepts (Only threads)
    (fun state action => byThreads threads action && check state action) ?_ ?_ initial accepted
  · intro state action next only checked taken
    simp only [Bool.and_eq_true] at checked
    exact only.step checked.1 taken
  · intro state action only checked
    simp only [Bool.and_eq_true] at checked
    exact permits state action only checked.1 checked.2

end ZmqClientBase

end Zmqcpp
