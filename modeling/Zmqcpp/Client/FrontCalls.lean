import Zmqcpp.Client.FrontSockets

set_option autoImplicit false

namespace Zmqcpp

def Task.inCall : Task → Option FrontSocket
  | .send (.inSetup _ socket) | .send (.abandoning socket) | .send (.sending socket)
  | .send (.closing socket _) => some socket
  | .reset (.stop _ (.disconnecting socket _)) | .reset (.stop _ (.closing socket)) => some socket
  | _ => none

theorem Task.inCall_cases {task : Task} {socket : FrontSocket} (calls : task.inCall = some socket) :
    task.uses = some socket ∨ task.drops = some socket := by
  unfold Task.inCall at calls
  split at calls <;> first | exact .inl calls | exact .inr calls | cases calls

namespace ZmqClientBase

variable {s next : ZmqClientBase} {action : Action}

def OneCaller (s : ZmqClientBase) : Prop :=
  ∀ left right socket, (s.task left).inCall = some socket → (s.task right).inCall = some socket →
    left = right

def MapUnused (s : ZmqClientBase) (action : Action) : Prop :=
  ∀ thread env after, action = .task thread env → s.task thread = .reset (.stop after .lockFront) →
    ∀ owner socket, (owner, some socket) ∈ s.frontsockets →
      ∀ user, (s.task user).sock ≠ some socket

structure FrontOwned (s : ZmqClientBase) : Prop where
  locked : s.Locked
  entry : ∀ owner socket, (owner, some socket) ∈ s.frontsockets → socket.owner = owner
  used : ∀ thread socket, (s.task thread).uses = some socket → socket.owner = thread
  closing : ∀ thread socket value, s.task thread = .send (.closing socket value) →
    (thread, some socket) ∉ s.frontsockets
  emptied : ∀ thread, (s.task thread).deleting = true → ∀ owner socket,
    (owner, some socket) ∈ s.frontsockets → ∀ user, (s.task user).uses ≠ some socket
  dropped : ∀ thread socket, (s.task thread).drops = some socket →
    ∀ user, (s.task user).uses ≠ some socket

theorem FrontOwned.oneCaller (owned : s.FrontOwned) : s.OneCaller := by
  intro left right socket leftCalls rightCalls
  rcases Task.inCall_cases leftCalls with leftUses | leftDrops
  · rcases Task.inCall_cases rightCalls with rightUses | rightDrops
    · exact (owned.used left socket leftUses).symm.trans (owned.used right socket rightUses)
    · exact absurd leftUses (owned.dropped right socket rightDrops left)
  · rcases Task.inCall_cases rightCalls with rightUses | rightDrops
    · exact absurd rightUses (owned.dropped left socket leftDrops right)
    · exact owned.locked.unique (Task.locks_of_deleting (Task.deleting_of_drops leftDrops))
        (Task.locks_of_deleting (Task.deleting_of_drops rightDrops))

theorem step_closing {thread : Tid} {socket : FrontSocket} {value : Bool}
    (taken : s.step action = some next) (closing : next.task thread = .send (.closing socket value)) :
    s.task thread = .send (.closing socket value) ∨
      s.task thread = .send (.release socket value) ∧ (thread, some socket) ∉ s.frontsockets := by
  cases step_task thread taken with
  | same same =>
      rw [same] at closing
      exact .inl closing
  | call call called idle task =>
      rw [task] at closing
      cases call <;> cases closing
  | flow env own flow =>
      generalize s.task thread = task at flow
      generalize next.task thread = after at flow closing
      cases flow with
      | send pc rest flow =>
          cases flow with
          | closing held result gone =>
              cases closing
              exact .inr ⟨rfl, gone⟩
          | _ => cases closing
      | init env connectStateFn recvFn pc =>
          cases ended : (s.initStep env connectStateFn recvFn pc).2 <;> cases closing
      | startTimer pc rest => cases rest <;> cases closing
      | _ => cases closing
  | autoConnect env connectStateFunc recvFunc timer ticked here task =>
      rw [task] at closing
      cases closing

theorem step_drops {thread : Tid} {socket : FrontSocket} (taken : s.step action = some next)
    (drops : (next.task thread).drops = some socket) :
    (s.task thread).drops = some socket ∨
      (s.task thread).deleting = true ∧ ∃ owner, (owner, some socket) ∈ s.frontsockets := by
  cases step_task thread taken with
  | same same =>
      rw [same] at drops
      exact .inl drops
  | call call called idle task =>
      rw [task, Call.task_drops] at drops
      cases drops
  | flow env own flow =>
      generalize s.task thread = task at flow
      generalize next.task thread = after at flow drops
      cases flow with
      | stop after pc rest flow =>
          cases flow with
          | head owner held rest entries =>
              cases drops
              exact .inr ⟨rfl, owner, by simp [entries]⟩
          | disconnected | unheld => exact .inl drops
          | clearIdentity => cases after <;> cases drops
          | _ => cases drops
      | stopTimer pc rest => cases rest <;> cases drops
      | init env connectStateFn recvFn pc =>
          cases ended : (s.initStep env connectStateFn recvFn pc).2 <;>
            simp [ended, ResetPc.afterInit, Task.drops] at drops
      | send pc rest flow => cases rest <;> cases drops
      | startTimer pc rest => cases rest <;> cases drops
      | _ => cases drops
  | autoConnect env connectStateFunc recvFunc timer ticked here task =>
      rw [task] at drops
      cases drops

theorem Locked.uses_before {thread user : Tid} {socket : FrontSocket} (locked : s.Locked)
    (taken : s.step action = some next) (deleting : (s.task thread).deleting = true)
    (uses : (next.task user).uses = some socket) : (s.task user).uses = some socket := by
  rcases step_uses taken uses with before | ⟨lookup, -⟩
  · exact before
  · have inside : (s.task user).locks = true := by
      rw [lookup]
      rfl
    have same := locked.unique inside (Task.locks_of_deleting deleting)
    rw [← same, lookup] at deleting
    cases deleting

theorem FrontOwned.entry_before {thread owner : Tid} {socket : FrontSocket} (owned : s.FrontOwned)
    (taken : s.step action = some next) (deleting : (next.task thread).deleting = true)
    (member : (owner, some socket) ∈ next.frontsockets) : (owner, some socket) ∈ s.frontsockets := by
  rcases step_entry taken member with before | ⟨env, own, stores⟩
  · exact before
  · have holds : s.frontMutex = some owner := by
      apply owned.locked owner
      rw [stores]
      rfl
    rcases step_deleting taken deleting with before | ⟨_, _, _, _, free, _⟩
    · have also := owned.locked thread (Task.locks_of_deleting before)
      rw [holds] at also
      cases also
      rw [stores] at before
      cases before
    · rw [holds] at free
      cases free

theorem FrontOwned.unused {thread owner user : Tid} {socket : FrontSocket} {env : Env}
    {after : AfterStop} (owned : s.FrontOwned) (unused : MapUnused s (.task thread env))
    (here : s.task thread = .reset (.stop after .lockFront)) (free : s.frontMutex = none)
    (member : (owner, some socket) ∈ s.frontsockets) : (s.task user).uses ≠ some socket := by
  intro uses
  have idle := unused thread env after rfl here owner socket member user
  cases held : s.task user with
  | send pc =>
      rw [held] at uses idle
      cases pc with
      | abandoning socket =>
          have holds := owned.locked user (by rw [held]; rfl)
          rw [free] at holds
          cases holds
      | closing inside value =>
          cases uses
          have same := owned.entry owner socket member
          rw [← same, owned.used user socket (by rw [held]; rfl)] at member
          exact owned.closing user socket value held member
      | _ => exact idle uses
  | _ =>
      rw [held] at uses
      cases uses

theorem FrontOwned.step (owned : s.FrontOwned) (unused : MapUnused s action)
    (taken : s.step action = some next) : next.FrontOwned := by
  have locked := owned.locked.step taken
  have emptied : ∀ thread, (next.task thread).deleting = true → ∀ owner socket,
      (owner, some socket) ∈ next.frontsockets → ∀ user, (next.task user).uses ≠ some socket := by
    intro thread deleting owner socket member user uses
    have member := owned.entry_before taken deleting member
    rcases step_deleting taken deleting with before | ⟨env, after, own, here, free, held⟩
    · exact owned.emptied thread before owner socket member user
        (owned.locked.uses_before taken before uses)
    · subst own
      have unchanged : (s.task user).uses = some socket := by
        rcases step_uses taken uses with before | ⟨lookup, -⟩
        · exact before
        · have holds := owned.locked user (by rw [lookup]; rfl)
          rw [free] at holds
          cases holds
      exact owned.unused unused here free member unchanged
  refine
    { locked := locked
      entry := ?_
      used := ?_
      closing := ?_
      emptied := emptied
      dropped := ?_ }
  · intro owner socket member
    rcases step_entry taken member with before | ⟨env, own, stores⟩
    · exact owned.entry owner socket before
    · exact owned.used owner socket (by rw [stores]; rfl)
  · intro thread socket uses
    rcases step_uses taken uses with before | ⟨-, member | same⟩
    · exact owned.used thread socket before
    · exact owned.entry thread socket member
    · rw [same]
  · intro thread socket value closing member
    rcases step_entry taken member with before | ⟨env, own, stores⟩
    · rcases step_closing taken closing with already | ⟨-, gone⟩
      · exact owned.closing thread socket value already before
      · exact gone before
    · rcases step_closing taken closing with already | ⟨release, -⟩
      · rw [stores] at already
        cases already
      · rw [stores] at release
        cases release
  · intro thread socket drops user uses
    rcases step_drops taken drops with before | ⟨deleting, owner, member⟩
    · have deleting := Task.deleting_of_drops before
      exact owned.dropped thread socket before user (owned.locked.uses_before taken deleting uses)
    · exact owned.emptied thread deleting owner socket member user
        (owned.locked.uses_before taken deleting uses)

theorem one_caller (build : Build) (lastpong : UInt32) (bStopMonitor : Bool) (actions : List Action)
    (reached : ZmqClientBase)
    (unused : Transition.Along step MapUnused (constructed build lastpong bStopMonitor) actions)
    (run : Transition.run step (constructed build lastpong bStopMonitor) actions = some reached) :
    reached.OneCaller := by
  have initial : (constructed build lastpong bStopMonitor).FrontOwned := by
    refine ⟨constructed_locked build lastpong bStopMonitor, ?_, ?_, ?_, ?_, ?_⟩ <;>
      simp [constructed, Task.uses, Task.drops]
  exact (Transition.run_invariant FrontOwned
    (fun _ _ _ owned unused taken => owned.step unused taken) initial unused run).oneCaller

def unusedCheck (threads : List Tid) (s : ZmqClientBase) : Action → Bool
  | .task thread _ =>
      match s.task thread with
      | .reset (.stop _ .lockFront) =>
          threads.all fun user => s.frontsockets.all fun entry =>
            decide (entry.2 = none ∨ (s.task user).sock ≠ entry.2)
      | _ => true
  | _ => true

theorem Only.mapUnused {threads : List Tid} (only : s.Only threads)
    (checked : unusedCheck threads s action = true) : MapUnused s action := by
  intro thread env after same here owner socket member user
  subst same
  by_cases listed : user ∈ threads
  · simp only [unusedCheck, here, List.all_eq_true, decide_eq_true_eq] at checked
    simpa using checked user listed (owner, some socket) member
  · rw [only user listed]
    simp [Task.sock]

-- Reset() disconnects the socket that thread 1 has used.
theorem one_caller_disconnecting : ∃ reached,
    Transition.run step (constructed .other 0 false)
      (connectedSteps ++ callSteps (.user 1) .sendData 19 ++ callSteps (.user 0) .reset 6) =
        some reached ∧
    reached.OneCaller ∧ (reached.task (.user 0)).inCall = some ⟨.user 1, 0⟩ := by
  have accepted : (Transition.run step (constructed .other 0 false)
      (connectedSteps ++ callSteps (.user 1) .sendData 19 ++ callSteps (.user 0) .reset 6)).any
        (fun state => decide ((state.task (.user 0)).inCall = some ⟨.user 1, 0⟩)) = true := by
    decide +kernel
  obtain ⟨reached, run, calls⟩ := Transition.reached_of_check accepted
  have unused : Transition.Along step MapUnused (constructed .other 0 false)
      (connectedSteps ++ callSteps (.user 1) .sendData 19 ++ callSteps (.user 0) .reset 6) :=
    only_along (unusedCheck [.user 0, .user 1]) (fun _ _ only _ checked => only.mapUnused checked)
      (constructed_only _ _ _ _) (by decide +kernel)
  exact ⟨reached, run, one_caller .other 0 false _ reached unused run, by simpa using calls⟩

-- Reset() disconnects the socket on which thread 1 is sending.
theorem two_callers : ∃ reached,
    Transition.run step (constructed .other 0 false)
      (connectedSteps ++ callSteps (.user 1) .sendData 16 ++ callSteps (.user 0) .reset 6) =
        some reached ∧
    ¬reached.OneCaller := by
  have accepted : (Transition.run step (constructed .other 0 false)
      (connectedSteps ++ callSteps (.user 1) .sendData 16 ++ callSteps (.user 0) .reset 6)).any
        (fun state => decide ((state.task (.user 0)).inCall = some ⟨.user 1, 0⟩ ∧
          (state.task (.user 1)).inCall = some ⟨.user 1, 0⟩)) = true := by
    decide +kernel
  obtain ⟨reached, run, calls⟩ := Transition.reached_of_check accepted
  simp only [decide_eq_true_eq] at calls
  refine ⟨reached, run, fun alone => ?_⟩
  exact absurd (alone _ _ _ calls.1 calls.2) (by decide)

end ZmqClientBase

end Zmqcpp
