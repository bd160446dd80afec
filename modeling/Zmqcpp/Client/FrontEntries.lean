import Zmqcpp.Client.FrontMap
import Zmqcpp.Client.FrontSockets

set_option autoImplicit false

/-!
# The entries of the front-socket map

A layer on the client that records which set-up calls have succeeded on which socket.
-/

namespace Zmqcpp

structure FrontHistory where
  client : ZmqClientBase
  -- The set-up call a thread is making on a socket.
  trying : FrontSocket → Option FrontSetup := fun _ => none
  succeeded : List (FrontSocket × FrontSetup) := []

-- NewFrontSockets has left a null entry and has stored no socket in it.
def SendPc.fills : SendPc → Bool
  | .setup _ _ | .inSetup _ _ | .abandoning _ | .unlock none => true
  | _ => false

theorem null_mem_touchFront {frontsockets : List (Tid × Option FrontSocket)} {thread : Tid}
    (absent : lookupFront frontsockets thread = none) :
    (thread, none) ∈ touchFront frontsockets thread := by
  have known : hasFront (touchFront frontsockets thread) thread = true := hasFront_touchFront
  have nothing : lookupFront (touchFront frontsockets thread) thread = none := by simpa using absent
  generalize touchFront frontsockets thread = touched at known nothing ⊢
  induction touched with
  | nil => cases known
  | cons entry rest ih =>
      obtain ⟨owner, held⟩ := entry
      rw [lookupFront_cons] at nothing
      by_cases own : thread = owner
      · rw [if_pos own] at nothing
        simp only at nothing
        simp [own, nothing]
      · rw [if_neg own] at nothing
        have later : hasFront rest thread = true := by simpa [hasFront, Ne.symm own] using known
        exact List.mem_cons_of_mem _ (ih later nothing)

namespace ZmqClientBase

variable {s next : ZmqClientBase} {action : Action} {thread : Tid} {env : Env}

theorem locks_of_fills {pc : SendPc} (here : s.task thread = .send pc) (fills : pc.fills = true) :
    (s.task thread).locks = true := by
  rw [here]
  unfold SendPc.fills at fills
  split at fills <;> first | rfl | cases fills

theorem step_send_other {pc : SendPc} (taken : s.step action = some next)
    (other : ∀ env, action ≠ .task thread env) (here : s.task thread = .send pc) :
    next.task thread = .send pc := by
  cases step_task thread taken with
  | same same => exact same.trans here
  | call call called idle =>
      rw [idle] at here
      cases here
  | flow env own => exact absurd own (other env)
  | autoConnect env connectStateFunc recvFunc timer ticked inside task idle =>
      rw [idle] at here
      cases here

theorem step_sending {pc : SendPc} (taken : s.step action = some next)
    (sending : next.task thread = .send pc) :
    pc = .testState ∨ (∃ before env, action = .task thread env ∧ s.task thread = .send before) ∨
      (∀ env, action ≠ .task thread env) ∧ s.task thread = .send pc := by
  cases step_task thread taken with
  | same same =>
      by_cases own : ∃ env, action = .task thread env
      · obtain ⟨env, own⟩ := own
        exact .inr (.inl ⟨pc, env, own, same.symm.trans sending⟩)
      · exact .inr (.inr ⟨not_exists.mp own, same.symm.trans sending⟩)
  | call call called idle task =>
      rw [task] at sending
      cases call <;> cases sending
      exact .inl rfl
  | flow env own flow =>
      rw [sending] at flow
      generalize s.task thread = task at flow
      generalize reached : Task.send pc = after at flow
      cases flow with
      | send before rest flow => exact .inr (.inl ⟨before, env, own, rfl⟩)
      | startTimer pc rest => cases rest <;> cases reached
      | _ => cases reached
  | autoConnect env connectStateFunc recvFunc timer ticked inside task =>
      rw [task] at sending
      cases sending

theorem step_frontsockets (taken : s.step action = some next) :
    next.frontsockets = s.frontsockets ∨
      ∃ thread env, action = .task thread env ∧ (s.task thread).locks = true := by
  cases step_frontChange taken with
  | same same => exact .inl same
  | erased thread env after socket own here => exact .inr ⟨thread, env, own, by rw [here]; rfl⟩
  | touched thread env own here => exact .inr ⟨thread, env, own, by rw [here]; rfl⟩
  | stored thread env socket own here => exact .inr ⟨thread, env, own, by rw [here]; rfl⟩

theorem step_null {owner : Tid} (taken : s.step action = some next)
    (member : (owner, none) ∈ next.frontsockets) :
    (owner, none) ∈ s.frontsockets ∨
      ∃ env, action = .task owner env ∧ s.task owner = .send .lookup := by
  rcases step_member taken member with before | ⟨env, own, ⟨-, here⟩ | ⟨socket, held, -⟩⟩
  · exact .inl before
  · exact .inr ⟨env, own, here⟩
  · cases held

theorem stopStep_crashed {stopped : ZmqClientBase} {pc : StopPc} {rest : Option StopPc}
    (moved : s.stopStep thread pc = some (stopped, rest)) :
    stopped.crashed = s.crashed ∨ pc = .nextFront ∧ ∃ owner, (owner, none) ∈ s.frontsockets := by
  cases pc with
  | lockFront | joining =>
      simp only [stopStep, Option.ite_none_right_eq_some] at moved
      obtain ⟨-, moved⟩ := moved
      cases moved
      exact .inl rfl
  | nextFront =>
      simp only [stopStep] at moved
      split at moved <;> cases moved
      · exact .inl rfl
      · next owner rest entries => exact .inr ⟨rfl, owner, by simp [entries]⟩
      · exact .inl rfl
  | disconnecting socket addr =>
      simp only [stopStep, Option.some.injEq, Prod.mk.injEq] at moved
      obtain ⟨rfl, -⟩ := moved
      split_ifs <;> exact .inl rfl
  | join =>
      simp only [stopStep, Option.map_eq_some_iff] at moved
      obtain ⟨session, -, moved⟩ := moved
      cases moved
      exact .inl rfl
  | _ =>
      cases moved
      exact .inl rfl

theorem sendStep_crashed {sent : ZmqClientBase} {pc : SendPc} {rest : Option SendPc}
    (moved : s.sendStep thread env pc = some (sent, rest)) : sent.crashed = s.crashed := by
  cases pc with
  | lockFront =>
      simp only [sendStep, Option.ite_none_right_eq_some] at moved
      obtain ⟨-, moved⟩ := moved
      cases moved
      rfl
  | lookup =>
      simp only [sendStep] at moved
      split at moved
      · cases moved
        rfl
      · split_ifs at moved <;> cases moved <;> rfl
  | setup todo socket =>
      cases todo with
      | nil =>
          cases moved
          rfl
      | cons first todo => cases first <;> cases moved <;> rfl
  | unlock socket => cases socket <;> cases moved <;> rfl
  | _ =>
      cases moved
      rfl

theorem recvPollStep_crashed {polled : ZmqClientBase} {session : Nat} {pc after : RecvPollPc}
    (moved : s.recvPollStep session env pc = some (polled, after)) :
    polled.crashed = s.crashed := by
  cases pc with
  | connectClient | bindBack | storeState =>
      simp only [recvPollStep] at moved
      split_ifs at moved <;> cases moved <;> rfl
  | recvCallback | monitorRecv | connectCallback =>
      simp only [recvPollStep] at moved
      split at moved <;> cases moved <;> rfl
  | inRecvFunc | inConnectStateFunc =>
      simp only [recvPollStep, Option.ite_none_right_eq_some] at moved
      obtain ⟨-, moved⟩ := moved
      cases moved
      rfl
  | finished => simp [recvPollStep] at moved
  | _ =>
      cases moved
      rfl

theorem step_crashed (taken : s.step action = some next) :
    next.crashed = false ∨
      ∃ thread owner, (s.task thread).deleting = true ∧ (owner, none) ∈ s.frontsockets := by
  have safe := step_not_crashed taken
  cases step_moves taken with
  | stop thread env after pc stopped rest here moved =>
      rcases stopStep_crashed moved with same | ⟨rfl, owner, null⟩
      · exact .inl (same.trans safe)
      · exact .inr ⟨thread, owner, by rw [here]; rfl, null⟩
  | init thread env connectStateFn recvFn pc =>
      left
      cases pc <;> exact safe
  | send thread env pc sent rest here moved => exact .inl ((sendStep_crashed moved).trans safe)
  | recvPoll session env polled pc created moved =>
      exact .inl ((recvPollStep_crashed moved).trans safe)
  | autoConnect env pc =>
      left
      cases pc <;> exact safe
  | _ => exact .inl safe

end ZmqClientBase

namespace FrontHistory

open ZmqClientBase

-- The set-up call that a step begins, and the one it ends with success.
def record (h : FrontHistory) :
    Action → (FrontSocket → Option FrontSetup) × List (FrontSocket × FrontSetup)
  | .task thread env =>
      match h.client.task thread with
      | .send (.setup (first :: _) socket) =>
          (Function.update h.trying socket (some first), h.succeeded)
      | .send (.inSetup _ socket) =>
          (h.trying, if env.ok then (h.trying socket).toList.map (Prod.mk socket) ++ h.succeeded
            else h.succeeded)
      | _ => (h.trying, h.succeeded)
  | _ => (h.trying, h.succeeded)

def step (h : FrontHistory) (action : Action) : Option FrontHistory :=
  (h.client.step action).map fun client =>
    { client, trying := (h.record action).1, succeeded := (h.record action).2 }

/-- With the mutex free each entry is a socket on which every set-up call has succeeded, and no Stop
has gone through a null one. -/
structure SetUp (h : FrontHistory) : Prop where
  entries : h.client.frontMutex = none → ∀ thread held, (thread, held) ∈ h.client.frontsockets →
    ∃ socket, held = some socket ∧ ∀ call ∈ frontSetup, (socket, call) ∈ h.succeeded
  safe : h.client.crashed = false

def KeepsSetUp (h : FrontHistory) (action : Action) : Prop :=
  ∀ next, h.step action = some next → next.SetUp

/-- NewFrontSockets does not return by a failure exit. -/
def NoFailureExit (h : FrontHistory) (action : Action) : Prop :=
  ∀ thread env, action = .task thread env → h.client.task thread ≠ .send (.unlock none)

-- A thread that fills its entry, and the set-up calls it has made.
def Fills (h : FrontHistory) (thread : Tid) : SendPc → Prop
  | .setup todo socket =>
      (thread, none) ∈ h.client.frontsockets ∧
        ∀ call ∈ frontSetup, call ∈ todo ∨ (socket, call) ∈ h.succeeded
  | .inSetup todo socket =>
      (thread, none) ∈ h.client.frontsockets ∧ ∃ first, h.trying socket = some first ∧
        ∀ call ∈ frontSetup, call ∈ first :: todo ∨ (socket, call) ∈ h.succeeded
  | .abandoning _ | .unlock none => (thread, none) ∈ h.client.frontsockets
  | _ => True

structure Filled (h : FrontHistory) : Prop where
  safe : h.client.crashed = false
  locked : h.client.Locked
  fills : ∀ thread pc, h.client.task thread = .send pc → h.Fills thread pc
  null : ∀ thread, (thread, none) ∈ h.client.frontsockets →
    ∃ pc, h.client.task thread = .send pc ∧ pc.fills = true
  filled : ∀ thread socket, (thread, some socket) ∈ h.client.frontsockets →
    ∀ call ∈ frontSetup, (socket, call) ∈ h.succeeded

variable {h next : FrontHistory} {action : Action} {thread : Tid}

theorem Filled.setUp (filled : h.Filled) : h.SetUp := by
  refine ⟨fun free thread held member => ?_, filled.safe⟩
  cases held with
  | some socket => exact ⟨socket, rfl, filled.filled thread socket member⟩
  | none =>
      obtain ⟨pc, here, fills⟩ := filled.null thread member
      have holds := filled.locked thread (locks_of_fills here fills)
      rw [free] at holds
      cases holds

theorem record_succeeded (made : FrontSocket × FrontSetup) (before : made ∈ h.succeeded) :
    made ∈ (h.record action).2 := by
  unfold record
  split
  · split
    · exact before
    · split_ifs
      · exact List.mem_append_right _ before
      · exact before
    · exact before
  · exact before

theorem record_outside
    (outside : ∀ thread env, action = .task thread env → (h.client.task thread).locks = false) :
    h.record action = (h.trying, h.succeeded) := by
  unfold record
  split
  · next thread env =>
      have unlocked := outside thread env rfl
      split
      · next first todo socket here =>
          rw [here] at unlocked
          cases unlocked
      · next todo socket here =>
          rw [here] at unlocked
          cases unlocked
      · rfl
  · rfl

theorem record_begins {env : Env} {first : FrontSetup} {todo : List FrontSetup}
    {socket : FrontSocket} (here : h.client.task thread = .send (.setup (first :: todo) socket)) :
    h.record (.task thread env) = (Function.update h.trying socket (some first), h.succeeded) := by
  simp only [record, here]

theorem record_ends {env : Env} {first : FrontSetup} {todo : List FrontSetup}
    {socket : FrontSocket} (here : h.client.task thread = .send (.inSetup todo socket))
    (ok : env.ok = true) (trying : h.trying socket = some first) :
    h.record (.task thread env) = (h.trying, (socket, first) :: h.succeeded) := by
  simp [record, here, ok, trying]

theorem Filled.own_fills (filled : h.Filled) {env : Env} {before after : SendPc}
    {client : ZmqClientBase} (here : h.client.task thread = .send before)
    (taken : h.client.step (.task thread env) = some client)
    (sending : client.task thread = .send after) :
    Fills { client, trying := (h.record (.task thread env)).1,
            succeeded := (h.record (.task thread env)).2 } thread after := by
  obtain ⟨sent, rest, moved, rfl⟩ := step_send here taken
  have fills := filled.fills thread before here
  rw [setTask_task, Function.update_self] at sending
  cases before with
  | lookup =>
      simp only [sendStep] at moved
      split at moved
      · cases moved
        cases sending
        trivial
      · next absent =>
          split_ifs at moved <;> cases moved <;> cases sending
          · refine ⟨null_mem_touchFront absent, fun call member => .inl member⟩
          · exact null_mem_touchFront absent
  | setup todo socket =>
      cases todo with
      | nil =>
          cases moved
          cases sending
          trivial
      | cons first todo =>
          have same := (sendStep_frame moved).frontsockets (by simp) (by simp)
          cases sendStep_flow moved
          cases sending
          rw [record_begins here]
          refine ⟨?_, first, by simp, fills.2⟩
          simpa [setTask, same] using fills.1
  | inSetup todo socket =>
      obtain ⟨null, first, trying, made⟩ := fills
      cases ok : env.ok with
      | false =>
          simp only [sendStep, ok] at moved
          cases moved
          cases sending
          exact null
      | true =>
          simp only [sendStep, ok] at moved
          cases moved
          cases sending
          rw [record_ends here ok trying]
          refine ⟨null, fun call member => ?_⟩
          rcases made call member with pending | already
          · rcases List.mem_cons.mp pending with rfl | later
            · exact .inr (List.mem_cons_self ..)
            · exact .inl later
          · exact .inr (List.mem_cons_of_mem _ already)
  | abandoning socket =>
      cases moved
      cases sending
      exact fills
  | _ => cases sendStep_flow moved <;> cases sending <;> trivial

theorem Fills.kept {later : FrontHistory} {pc : SendPc} (fills : h.Fills thread pc)
    (frontsockets : later.client.frontsockets = h.client.frontsockets)
    (trying : later.trying = h.trying) (succeeded : later.succeeded = h.succeeded) :
    later.Fills thread pc := by
  unfold Fills
  rw [frontsockets, trying, succeeded]
  exact fills

theorem fills_trivially {pc : SendPc} (fills : pc.fills = false) : h.Fills thread pc := by
  unfold Fills
  split <;> first | cases fills | trivial

-- A thread leaves its null entry by storing a socket in it or by a failure exit.
theorem Filled.own_null (filled : h.Filled) {env : Env} {client : ZmqClientBase} {before : SendPc}
    (here : h.client.task thread = .send before) (exits : before ≠ .unlock none)
    (filling : before.fills = true ∨ before = .lookup)
    (taken : h.client.step (.task thread env) = some client)
    (null : (thread, none) ∈ client.frontsockets) :
    ∃ pc, client.task thread = .send pc ∧ pc.fills = true := by
  obtain ⟨sent, rest, moved, rfl⟩ := step_send here taken
  rw [setTask_task, Function.update_self]
  cases before with
  | lookup =>
      simp only [sendStep] at moved
      split at moved
      · next socket found =>
          cases moved
          obtain ⟨pc, looking, fills⟩ := filled.null thread null
          rw [here] at looking
          cases looking
          cases fills
      · split_ifs at moved <;> cases moved <;> exact ⟨_, rfl, rfl⟩
  | setup todo socket =>
      cases todo with
      | nil =>
          cases moved
          rcases mem_assignFront null with ⟨-, other⟩ | ⟨-, held⟩
          · exact absurd rfl other
          · cases held
      | cons first todo =>
          cases sendStep_flow moved
          exact ⟨_, rfl, rfl⟩
  | inSetup | abandoning => cases sendStep_flow moved <;> exact ⟨_, rfl, rfl⟩
  | unlock socket =>
      cases socket with
      | none => exact absurd rfl exits
      | some socket => simp [SendPc.fills] at filling
  | _ => simp [SendPc.fills] at filling

theorem Filled.others (filled : h.Filled) {pc : SendPc} {client : ZmqClientBase}
    (here : h.client.task thread = .send pc) (fills : pc.fills = true)
    (taken : h.client.step action = some client) (other : ∀ env, action ≠ .task thread env) :
    client.frontsockets = h.client.frontsockets ∧ h.record action = (h.trying, h.succeeded) := by
  have inside := locks_of_fills here fills
  constructor
  · rcases step_frontsockets taken with same | ⟨actor, env, own, locks⟩
    · exact same
    · cases filled.locked.unique locks inside
      exact absurd own (other env)
  · apply record_outside
    rintro actor env rfl
    by_contra locks
    cases filled.locked.unique (by simpa using locks) inside
    exact other env rfl

theorem Filled.safe_step (filled : h.Filled) {client : ZmqClientBase}
    (taken : h.client.step action = some client) : client.crashed = false := by
  rcases step_crashed taken with safe | ⟨thread, owner, deleting, null⟩
  · exact safe
  · obtain ⟨pc, here, fills⟩ := filled.null owner null
    cases filled.locked.unique (Task.locks_of_deleting deleting) (locks_of_fills here fills)
    rw [here] at deleting
    cases deleting

theorem Filled.fills_step (filled : h.Filled) {client : ZmqClientBase} {pc : SendPc}
    (taken : h.client.step action = some client) (sending : client.task thread = .send pc) :
    Fills { client, trying := (h.record action).1, succeeded := (h.record action).2 } thread pc := by
  rcases step_sending taken sending with rfl | ⟨before, env, rfl, here⟩ | ⟨other, here⟩
  · trivial
  · exact filled.own_fills here taken sending
  · cases filling : pc.fills with
    | false => exact fills_trivially filling
    | true =>
        obtain ⟨same, recorded⟩ := filled.others here filling taken other
        apply (filled.fills thread pc here).kept same
        · rw [recorded]
        · rw [recorded]

theorem Filled.null_step (filled : h.Filled) (exits : h.NoFailureExit action)
    {client : ZmqClientBase} (taken : h.client.step action = some client)
    (null : (thread, none) ∈ client.frontsockets) :
    ∃ pc, client.task thread = .send pc ∧ pc.fills = true := by
  rcases step_null taken null with before | ⟨env, rfl, here⟩
  · obtain ⟨pc, here, fills⟩ := filled.null thread before
    by_cases own : ∃ env, action = .task thread env
    · obtain ⟨env, rfl⟩ := own
      apply filled.own_null here _ (.inl fills) taken null
      rintro rfl
      exact exits thread env rfl here
    · exact ⟨pc, step_send_other taken (not_exists.mp own) here, fills⟩
  · exact filled.own_null here (by simp) (.inr rfl) taken null

theorem Filled.step (filled : h.Filled) (exits : h.NoFailureExit action)
    (taken : h.step action = some next) : next.Filled := by
  simp only [FrontHistory.step, Option.map_eq_some_iff] at taken
  obtain ⟨client, taken, rfl⟩ := taken
  constructor
  · exact filled.safe_step taken
  · exact filled.locked.step taken
  · intro thread pc sending
    exact filled.fills_step taken sending
  · intro thread null
    exact filled.null_step exits taken null
  · intro thread socket member call inside
    rcases step_entry taken member with before | ⟨env, rfl, here⟩
    · exact record_succeeded _ (filled.filled thread socket before call inside)
    · rcases (filled.fills thread _ here).2 call inside with pending | made
      · cases pending
      · exact record_succeeded _ made

theorem constructed_filled (build : Build) (lastpong : UInt32) (bStopMonitor : Bool) :
    Filled { client := constructed build lastpong bStopMonitor } := by
  refine ⟨rfl, constructed_locked build lastpong bStopMonitor, ?_, ?_, ?_⟩ <;> simp [constructed]

-- A failure exit leaves its null entry to whoever takes the mutex next.
theorem Filled.exit_leaves (filled : h.Filled) (env : Env)
    (here : h.client.task thread = .send (.unlock none)) :
    ∃ next, h.step (.task thread env) = some next ∧ ¬next.SetUp := by
  have null : (thread, none) ∈ h.client.frontsockets := filled.fills thread _ here
  have taken : h.client.step (.task thread env) =
      some ({ h.client with frontMutex := none }.setTask thread (.send (.result false))) := by
    simp [ZmqClientBase.step, filled.safe, here, taskStep, sendStep]
  refine ⟨_, by rw [FrontHistory.step, taken]; rfl, fun setUp => ?_⟩
  obtain ⟨socket, filledEntry, -⟩ := setUp.entries rfl thread none null
  cases filledEntry

theorem front_entries_set_up (build : Build) (lastpong : UInt32) (bStopMonitor : Bool)
    (actions : List Action) :
    Transition.Along step KeepsSetUp { client := constructed build lastpong bStopMonitor } actions ↔
      Transition.Along step NoFailureExit { client := constructed build lastpong bStopMonitor }
        actions := by
  symm
  apply Transition.along_iff Filled
  · intro h action next filled exits taken
    exact filled.step exits taken
  · intro h action filled
    constructor
    · intro exits next taken
      exact (filled.step exits taken).setUp
    · rintro keeps thread env rfl here
      obtain ⟨next, taken, broken⟩ := filled.exit_leaves env here
      exact broken (keeps next taken)
  · exact constructed_filled build lastpong bStopMonitor

-- NewSocket fails in SendData of thread 1, and Reset() goes through the entry that this leaves.
theorem null_entry_left : ∃ left stopped,
    Transition.run step { client := constructed .other 0 false }
      (connectedSteps ++ callSteps (.user 1) .sendData 2 ++ [.task (.user 1) { ok := false }] ++
        taskSteps (.user 1) 1) = some left ∧
    ¬left.SetUp ∧
    Transition.run step left (callSteps (.user 0) .reset 6) = some stopped ∧
    stopped.client.crashed = true := by
  have accepted : (Transition.run step { client := constructed .other 0 false }
      (connectedSteps ++ callSteps (.user 1) .sendData 2 ++ [.task (.user 1) { ok := false }] ++
        taskSteps (.user 1) 1)).any (fun left =>
          decide (left.client.frontMutex = none ∧ (.user 1, none) ∈ left.client.frontsockets) &&
            (Transition.run step left (callSteps (.user 0) .reset 6)).any
              fun stopped => stopped.client.crashed) = true := by
    decide +kernel
  obtain ⟨left, run, checked⟩ := Transition.reached_of_check accepted
  simp only [Bool.and_eq_true, decide_eq_true_eq] at checked
  obtain ⟨⟨free, null⟩, stopping⟩ := checked
  obtain ⟨stopped, stops, crashed⟩ := Transition.reached_of_check stopping
  refine ⟨left, stopped, run, fun setUp => ?_, stops, crashed⟩
  obtain ⟨socket, filled, -⟩ := setUp.entries free _ _ null
  cases filled

end FrontHistory

end Zmqcpp
