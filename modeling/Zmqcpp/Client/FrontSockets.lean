import Zmqcpp.Client.Threads

set_option autoImplicit false

namespace Zmqcpp

-- NewFrontSockets is under its lock.
def SendPc.locks : SendPc → Bool
  | .lookup | .setup _ _ | .inSetup _ _ | .abandoning _ | .unlock _ => true
  | _ => false

-- DeleteFrontSockets is under its lock.
def StopPc.deleting : StopPc → Bool
  | .nextFront | .disconnecting _ _ | .eraseFront _ | .closing _ => true
  | _ => false

def Task.deleting : Task → Bool
  | .reset (.stop _ pc) => pc.deleting
  | _ => false

def Task.locks : Task → Bool
  | .send pc => pc.locks
  | task => task.deleting

-- The socket a SendData call holds or is closing.
def SendPc.uses : SendPc → Option FrontSocket
  | .abandoning socket | .closing socket _ => some socket
  | pc => pc.sock

def Task.uses : Task → Option FrontSocket
  | .send pc => pc.uses
  | _ => none

-- The socket DeleteFrontSockets is taking out of the map.
def StopPc.drops : StopPc → Option FrontSocket
  | .disconnecting socket _ | .eraseFront socket | .closing socket => some socket
  | _ => none

def Task.drops : Task → Option FrontSocket
  | .reset (.stop _ pc) => pc.drops
  | _ => none

theorem Task.locks_of_deleting {task : Task} (deleting : task.deleting = true) :
    task.locks = true := by
  cases task <;> first | exact deleting | cases deleting

theorem Task.deleting_of_drops {task : Task} {socket : FrontSocket}
    (drops : task.drops = some socket) : task.deleting = true := by
  unfold Task.drops at drops
  split at drops
  · next after pc => cases pc <;> simp [StopPc.drops] at drops <;> rfl
  · cases drops

theorem Call.task_locks (call : Call) : call.task.locks = false := by
  cases call <;> rfl

theorem Call.task_uses (call : Call) : call.task.uses = none := by
  cases call <;> rfl

theorem Call.task_drops (call : Call) : call.task.drops = none := by
  cases call <;> rfl

theorem mem_touchFront {frontsockets : List (Tid × Option FrontSocket)} {thread owner : Tid}
    {held : Option FrontSocket} (member : (owner, held) ∈ touchFront frontsockets thread) :
    (owner, held) ∈ frontsockets ∨ owner = thread ∧ held = none := by
  unfold touchFront at member
  split_ifs at member
  · exact .inl member
  · simpa [or_comm] using member

theorem mem_assignFront {frontsockets : List (Tid × Option FrontSocket)} {thread owner : Tid}
    {socket : FrontSocket} {held : Option FrontSocket}
    (member : (owner, held) ∈ assignFront frontsockets thread socket) :
    (owner, held) ∈ frontsockets ∧ owner ≠ thread ∨ owner = thread ∧ held = some socket := by
  simp only [assignFront, List.mem_map] at member
  obtain ⟨entry, inside, same⟩ := member
  split_ifs at same with own
  · cases same
    exact .inr ⟨rfl, rfl⟩
  · rw [same] at inside own
    exact .inl ⟨inside, own⟩

namespace ZmqClientBase

variable {s next : ZmqClientBase} {action : Action}

theorem step_frontMutex (taken : s.step action = some next) :
    next.frontMutex = s.frontMutex ∨
      (∃ thread, s.frontMutex = none ∧ next.frontMutex = some thread ∧
        (next.task thread).locks = true) ∨
      ∃ thread, (s.task thread).locks = true ∧ (next.task thread).locks = false ∧
        next.frontMutex = none := by
  cases step_moves taken with
  | stop thread env after pc stopped rest here moved =>
      cases pc with
      | lockFront =>
          simp only [stopStep, Option.ite_none_right_eq_some] at moved
          obtain ⟨free, moved⟩ := moved
          cases moved
          refine .inr (.inl ⟨thread, free, rfl, ?_⟩)
          rw [setTask_task, Function.update_self]
          rfl
      | nextFront =>
          simp only [stopStep] at moved
          split at moved <;> cases moved
          · refine .inr (.inr ⟨thread, ?_, ?_, rfl⟩)
            · rw [here]
              rfl
            · simp [Task.locks, Task.deleting, ResetPc.afterStop, StopPc.deleting]
          · exact .inl rfl
          · exact .inl rfl
      | _ => exact .inl ((stopStep_frame moved).frontMutex (by simp) (by simp))
  | init thread env connectStateFn recvFn pc =>
      exact .inl (initStep_frame s env connectStateFn recvFn pc).frontMutex
  | send thread env pc sent rest here moved =>
      cases pc with
      | lockFront =>
          simp only [sendStep, Option.ite_none_right_eq_some] at moved
          obtain ⟨free, moved⟩ := moved
          cases moved
          refine .inr (.inl ⟨thread, free, rfl, ?_⟩)
          rw [setTask_task, Function.update_self]
          rfl
      | unlock socket =>
          right; right
          refine ⟨thread, ?_, ?_, ?_⟩
          · rw [here]
            rfl
          · cases socket <;> cases moved <;> simp [Task.locks, SendPc.locks]
          · cases socket <;> cases moved <;> rfl
      | _ => exact .inl ((sendStep_frame moved).frontMutex (by simp) (by simp))
  | recvPoll session env polled pc created moved => exact .inl (recvPollStep_frame moved).frontMutex
  | autoConnect env pc => exact .inl (autoConnectStep_frame s env pc).frontMutex
  | _ => exact .inl rfl

theorem afterStop_deleting {after : AfterStop} {rest : Option StopPc}
    (deleting : (Task.reset (.afterStop after rest)).deleting = true) :
    ∃ pc, rest = some pc ∧ pc.deleting = true := by
  cases rest with
  | none => cases after <;> simp [ResetPc.afterStop, AfterStop.resume, Task.deleting] at deleting
  | some pc => exact ⟨pc, rfl, deleting⟩

theorem step_deleting {thread : Tid} (taken : s.step action = some next)
    (deleting : (next.task thread).deleting = true) :
    (s.task thread).deleting = true ∨
      ∃ env after, action = .task thread env ∧ s.task thread = .reset (.stop after .lockFront) ∧
        s.frontMutex = none ∧ next.frontMutex = some thread := by
  cases step_task thread taken with
  | same same =>
      rw [same] at deleting
      exact .inl deleting
  | call call called idle task =>
      rw [task] at deleting
      cases call <;> cases deleting
  | flow env own flow =>
      subst own
      generalize here : s.task thread = task at flow
      generalize next.task thread = after at flow deleting
      cases flow with
      | stop after pc rest flow =>
          obtain ⟨later, rfl, inside⟩ := afterStop_deleting deleting
          cases flow with
          | lockFront free =>
              obtain ⟨locked, rest, moved, rfl⟩ := step_stop here taken
              simp only [stopStep, Option.ite_none_right_eq_some] at moved
              obtain ⟨-, moved⟩ := moved
              cases moved
              exact .inr ⟨env, after, rfl, rfl, free, rfl⟩
          | null | head | disconnected | held | unheld | closed => exact .inl rfl
          | _ => cases inside
      | stopTimer pc rest => cases rest <;> cases deleting
      | init env connectStateFn recvFn pc =>
          cases ended : (s.initStep env connectStateFn recvFn pc).2 <;>
            simp [ended, ResetPc.afterInit, Task.deleting] at deleting
      | send pc rest flow => cases rest <;> cases deleting
      | startTimer pc rest => cases rest <;> cases deleting
      | _ => cases deleting
  | autoConnect env connectStateFunc recvFunc timer ticked here task =>
      rw [task] at deleting
      cases deleting

theorem step_locks {thread : Tid} (taken : s.step action = some next)
    (locks : (next.task thread).locks = true) :
    (s.task thread).locks = true ∨ s.frontMutex = none ∧ next.frontMutex = some thread := by
  cases step_task thread taken with
  | same same =>
      rw [same] at locks
      exact .inl locks
  | flow env own flow =>
      subst own
      generalize here : s.task thread = task at flow
      generalize there : next.task thread = after at flow locks
      cases flow with
      | send pc rest flow =>
          cases flow with
          | lockFront free =>
              obtain ⟨locked, rest, moved, rfl⟩ := step_send here taken
              simp only [sendStep, Option.ite_none_right_eq_some] at moved
              obtain ⟨-, moved⟩ := moved
              cases moved
              exact .inr ⟨free, rfl⟩
          | found | created | notCreated | stored | setup | done | failed | abandoned =>
              exact .inl rfl
          | _ => cases locks
      | stop after pc rest flow =>
          have deleting : (next.task thread).deleting = true := by
            rw [there]
            exact locks
          rcases step_deleting taken deleting with before | ⟨_, _, _, _, free, held⟩
          · rw [here] at before
            exact .inl (Task.locks_of_deleting before)
          · exact .inr ⟨free, held⟩
      | stopTimer pc rest => cases rest <;> cases locks
      | init env connectStateFn recvFn pc =>
          cases ended : (s.initStep env connectStateFn recvFn pc).2 <;>
            simp [ended, ResetPc.afterInit, Task.locks, Task.deleting] at locks
      | startTimer pc rest => cases rest <;> cases locks
      | _ => cases locks
  | call call called idle task =>
      rw [task, Call.task_locks] at locks
      cases locks
  | autoConnect env connectStateFunc recvFunc timer ticked here task =>
      rw [task] at locks
      cases locks

def Locked (s : ZmqClientBase) : Prop :=
  ∀ thread, (s.task thread).locks = true → s.frontMutex = some thread

theorem Locked.step (locked : s.Locked) (taken : s.step action = some next) : next.Locked := by
  intro thread locks
  rcases step_locks taken locks with before | ⟨-, held⟩
  · have held := locked thread before
    rcases step_frontMutex taken with same | ⟨other, free, -⟩ | ⟨other, inside, out, -⟩
    · rw [same]
      exact held
    · rw [held] at free
      cases free
    · have also := locked other inside
      rw [held] at also
      cases also
      rw [locks] at out
      cases out
  · exact held

theorem Locked.unique (locked : s.Locked) {left right : Tid}
    (leftLocks : (s.task left).locks = true) (rightLocks : (s.task right).locks = true) :
    left = right := by
  have first := locked left leftLocks
  have second := locked right rightLocks
  exact Option.some.inj (first.symm.trans second)

theorem constructed_locked (build : Build) (lastpong : UInt32) (bStopMonitor : Bool) :
    (constructed build lastpong bStopMonitor).Locked := by
  intro thread locks
  cases locks

theorem step_unlocks {thread : Tid} (taken : s.step action = some next)
    (locks : (s.task thread).locks = true) :
    (next.task thread).locks = true ∨ next.frontMutex = none := by
  cases step_task thread taken with
  | same same =>
      rw [same]
      exact .inl locks
  | call call called idle =>
      rw [idle] at locks
      cases locks
  | flow env own flow =>
      subst own
      generalize here : s.task thread = task at flow locks
      generalize next.task thread = after at flow
      cases flow with
      | stop after pc rest flow =>
          cases flow with
          | empty entries =>
              obtain ⟨stopped, rest, moved, rfl⟩ := step_stop here taken
              simp only [stopStep, entries] at moved
              cases moved
              exact .inr rfl
          | null | head | disconnected | held | unheld | closed => exact .inl rfl
          | _ => cases locks
      | send pc rest flow =>
          cases flow with
          | noSocket | ready =>
              obtain ⟨sent, rest, moved, rfl⟩ := step_send here taken
              cases moved
              exact .inr rfl
          | found | created | notCreated | stored | setup | done | failed | abandoned =>
              exact .inl rfl
          | _ => cases locks
      | _ => cases locks
  | autoConnect env connectStateFunc recvFunc timer ticked here task idle =>
      rw [idle] at locks
      cases locks

/-- The thread that holds m_frontMutex is in a section of it. -/
def Held (s : ZmqClientBase) : Prop :=
  ∀ thread, s.frontMutex = some thread → (s.task thread).locks = true

theorem Held.step (held : s.Held) (taken : s.step action = some next) : next.Held := by
  intro thread holds
  rcases step_frontMutex taken with same | ⟨other, -, acquired, locks⟩ | ⟨other, -, -, free⟩
  · rw [same] at holds
    rcases step_unlocks taken (held thread holds) with locks | free
    · exact locks
    · rw [same, holds] at free
      cases free
  · cases acquired.symm.trans holds
    exact locks
  · cases free.symm.trans holds

inductive FrontChange (s : ZmqClientBase) (action : Action) (next : ZmqClientBase) : Prop
  | same (same : next.frontsockets = s.frontsockets)
  | erased (thread : Tid) (env : Env) (after : AfterStop) (socket : FrontSocket)
      (own : action = .task thread env)
      (here : s.task thread = .reset (.stop after (.eraseFront socket)))
      (rest : next.frontsockets = s.frontsockets.tail)
  | touched (thread : Tid) (env : Env) (own : action = .task thread env)
      (here : s.task thread = .send .lookup)
      (touched : next.frontsockets = touchFront s.frontsockets thread)
  | stored (thread : Tid) (env : Env) (socket : FrontSocket) (own : action = .task thread env)
      (here : s.task thread = .send (.setup [] socket))
      (stored : next.frontsockets = assignFront s.frontsockets thread socket)

theorem step_frontChange (taken : s.step action = some next) : FrontChange s action next := by
  cases step_moves taken with
  | stop thread env after pc stopped rest here moved =>
      by_cases erases : ∃ socket, pc = .eraseFront socket
      · obtain ⟨socket, rfl⟩ := erases
        cases moved
        exact .erased thread env after socket rfl here rfl
      · exact .same ((stopStep_frame moved).frontsockets (by simpa using erases))
  | init thread env connectStateFn recvFn pc =>
      exact .same (initStep_frame s env connectStateFn recvFn pc).frontsockets
  | send thread env pc sent rest here moved =>
      cases pc with
      | lookup =>
          simp only [sendStep] at moved
          split at moved
          · cases moved
            exact .same rfl
          · split_ifs at moved <;> cases moved <;> exact .touched thread env rfl here rfl
      | setup todo used =>
          cases todo with
          | nil =>
              cases moved
              exact .stored thread env used rfl here rfl
          | cons first todo => exact .same ((sendStep_frame moved).frontsockets (by simp) (by simp))
      | _ => exact .same ((sendStep_frame moved).frontsockets (by simp) (by simp))
  | recvPoll session env polled pc created moved => exact .same (recvPollStep_frame moved).frontsockets
  | autoConnect env pc => exact .same (autoConnectStep_frame s env pc).frontsockets
  | _ => exact .same rfl

-- NewFrontSockets makes a null entry by its lookup and stores a socket by its last step.
theorem step_member {owner : Tid} {held : Option FrontSocket} (taken : s.step action = some next)
    (member : (owner, held) ∈ next.frontsockets) :
    (owner, held) ∈ s.frontsockets ∨ ∃ env, action = .task owner env ∧
      (held = none ∧ s.task owner = .send .lookup ∨
        ∃ socket, held = some socket ∧ s.task owner = .send (.setup [] socket)) := by
  cases step_frontChange taken with
  | same same =>
      rw [same] at member
      exact .inl member
  | erased thread env after erased own here rest =>
      rw [rest] at member
      exact .inl (List.mem_of_mem_tail member)
  | touched thread env own here touched =>
      rw [touched] at member
      rcases mem_touchFront member with before | ⟨rfl, rfl⟩
      · exact .inl before
      · exact .inr ⟨env, own, .inl ⟨rfl, here⟩⟩
  | stored thread env used own here stored =>
      rw [stored] at member
      rcases mem_assignFront member with before | ⟨rfl, rfl⟩
      · exact .inl before.1
      · exact .inr ⟨env, own, .inr ⟨used, rfl, here⟩⟩

theorem step_entry {owner : Tid} {socket : FrontSocket} (taken : s.step action = some next)
    (member : (owner, some socket) ∈ next.frontsockets) :
    (owner, some socket) ∈ s.frontsockets ∨
      ∃ env, action = .task owner env ∧ s.task owner = .send (.setup [] socket) := by
  rcases step_member taken member with before | ⟨env, own, ⟨null, -⟩ | ⟨used, same, here⟩⟩
  · exact .inl before
  · cases null
  · cases same
    exact .inr ⟨env, own, here⟩

theorem step_uses {thread : Tid} {socket : FrontSocket} (taken : s.step action = some next)
    (uses : (next.task thread).uses = some socket) :
    (s.task thread).uses = some socket ∨
      s.task thread = .send .lookup ∧
        ((thread, some socket) ∈ s.frontsockets ∨ socket = ⟨thread, s.serial⟩) := by
  cases step_task thread taken with
  | same same =>
      rw [same] at uses
      exact .inl uses
  | call call called idle task =>
      rw [task, Call.task_uses] at uses
      cases uses
  | flow env own flow =>
      subst own
      generalize here : s.task thread = task at flow
      generalize there : next.task thread = after at flow uses
      cases flow with
      | send pc rest flow =>
          cases flow with
          | found held member =>
              cases uses
              exact .inr ⟨rfl, .inl member⟩
          | created =>
              cases uses
              exact .inr ⟨rfl, .inr rfl⟩
          | stored | setup | done | failed | ready | sending | sent | closing => exact .inl uses
          | _ => cases uses
      | stopTimer pc rest => cases rest <;> cases uses
      | init | stop => cases uses
      | startTimer pc rest => cases rest <;> cases uses
      | _ => cases uses
  | autoConnect env connectStateFunc recvFunc timer ticked here task =>
      rw [task] at uses
      cases uses

def connecting (s : ZmqClientBase) (thread : Tid) : Option (List FrontSetup × FrontSocket) :=
  match s.task thread with
  | .send (.setup todo socket) | .send (.inSetup todo socket) => some (todo, socket)
  | _ => none

theorem locks_of_connecting {thread : Tid} {setup : List FrontSetup × FrontSocket}
    (connecting : s.connecting thread = some setup) : (s.task thread).locks = true := by
  unfold ZmqClientBase.connecting at connecting
  split at connecting
  · next here =>
      rw [here]
      rfl
  · next here =>
      rw [here]
      rfl
  · cases connecting

theorem step_serial (taken : s.step action = some next) : s.serial ≤ next.serial := by
  cases step_moves taken with
  | stop thread env after pc stopped rest here moved => exact ge_of_eq (stopStep_frame moved).serial
  | init thread env connectStateFn recvFn pc =>
      exact ge_of_eq (initStep_frame s env connectStateFn recvFn pc).serial
  | send thread env pc sent rest here moved =>
      by_cases looks : pc = .lookup
      · subst looks
        simp only [sendStep] at moved
        split at moved
        · cases moved
          exact le_refl _
        · split_ifs at moved <;> cases moved
          · exact Nat.le_succ s.serial
          · exact le_refl _
      · exact ge_of_eq ((sendStep_frame moved).serial looks)
  | recvPoll session env polled pc created moved => exact ge_of_eq (recvPollStep_frame moved).serial
  | autoConnect env pc => exact ge_of_eq (autoConnectStep_frame s env pc).serial
  | _ => exact le_refl _

theorem step_created {thread : Tid} {env : Env} (here : s.task thread = .send .lookup)
    (taken : s.step (.task thread env) = some next) (created : (next.connecting thread).isSome) :
    next.serial = s.serial + 1 := by
  obtain ⟨sent, rest, moved, rfl⟩ := step_send here taken
  simp only [sendStep] at moved
  split at moved
  · cases moved
    simp [connecting] at created
  · split_ifs at moved <;> cases moved
    · rfl
    · simp [connecting] at created

theorem step_connecting {thread : Tid} {todo : List FrontSetup} {socket : FrontSocket}
    (taken : s.step action = some next) (connecting : next.connecting thread = some (todo, socket)) :
    (s.connecting thread = some (todo, socket) ∧
      ∀ env, action = .task thread env → s.task thread ≠ .send (.setup [] socket)) ∨
      (∃ env first, action = .task thread env ∧
        s.task thread = .send (.setup (first :: todo) socket)) ∨
      todo = frontSetup ∧ s.task thread = .send .lookup ∧ socket = ⟨thread, s.serial⟩ ∧
        next.serial = s.serial + 1 := by
  have moving (env : Env) (own : action = .task thread env) :
      s.task thread ≠ .send (.setup [] socket) := by
    intro here
    subst own
    obtain ⟨sent, rest, moved, rfl⟩ := step_send here taken
    cases moved
    simp [ZmqClientBase.connecting] at connecting
  cases step_task thread taken with
  | same same =>
      left
      refine ⟨?_, moving⟩
      simpa [ZmqClientBase.connecting, same] using connecting
  | call call called idle task =>
      simp only [ZmqClientBase.connecting, task] at connecting
      cases call <;> cases connecting
  | flow env own flow =>
      subst own
      have some_connecting : (next.connecting thread).isSome := by simp [connecting]
      simp only [ZmqClientBase.connecting] at connecting ⊢
      generalize here : s.task thread = task at flow moving
      generalize next.task thread = after at flow connecting
      cases flow with
      | send pc rest flow =>
          cases flow with
          | created =>
              cases connecting
              exact .inr (.inr ⟨rfl, rfl, rfl, step_created here taken some_connecting⟩)
          | setup first todo used =>
              cases connecting
              exact .inr (.inl ⟨env, first, rfl, rfl⟩)
          | done todo used =>
              cases connecting
              exact .inl ⟨rfl, moving⟩
          | _ => cases connecting
      | init env connectStateFn recvFn pc =>
          cases ended : (s.initStep env connectStateFn recvFn pc).2 <;> cases connecting
      | stop after pc rest flow =>
          cases rest with
          | none => cases after <;> cases connecting
          | some later => cases connecting
      | stopTimer pc rest => cases rest <;> cases connecting
      | startTimer pc rest => cases rest <;> cases connecting
      | _ => cases connecting
  | autoConnect env connectStateFunc recvFunc timer ticked here task =>
      simp only [ZmqClientBase.connecting, task] at connecting
      cases connecting

theorem step_frontAddress (socket : FrontSocket) (taken : s.step action = some next) :
    next.frontAddress socket = s.frontAddress socket ∨
      (∃ thread env todo, action = .task thread env ∧
        s.task thread = .send (.setup (.connect :: todo) socket) ∧
        next.frontAddress socket = some s.inprocAddress) ∨
      ∃ thread, (s.task thread).deleting = true := by
  cases step_moves taken with
  | stop thread env after pc stopped rest here moved =>
      by_cases disconnects : ∃ socket addr, pc = .disconnecting socket addr
      · obtain ⟨socket, addr, rfl⟩ := disconnects
        right; right
        refine ⟨thread, ?_⟩
        rw [here]
        rfl
      · left
        rw [← (stopStep_frame moved).frontAddress (by simpa using disconnects)]
        rfl
  | init thread env connectStateFn recvFn pc =>
      exact .inl (congrFun (initStep_frame s env connectStateFn recvFn pc).frontAddress socket)
  | send thread env pc sent rest here moved =>
      by_cases connects : ∃ todo used, pc = .setup (.connect :: todo) used
      · obtain ⟨todo, used, rfl⟩ := connects
        cases moved
        by_cases same : socket = used
        · subst same
          exact .inr (.inl ⟨thread, env, todo, rfl, here, by simp [setTask]⟩)
        · left
          simp [setTask, same]
      · left
        exact congrFun ((sendStep_frame moved).frontAddress (by simpa using connects)) socket
  | recvPoll session env polled pc created moved =>
      exact .inl (congrFun (recvPollStep_frame moved).frontAddress socket)
  | autoConnect env pc => exact .inl (congrFun (autoConnectStep_frame s env pc).frontAddress socket)
  | _ => exact .inl rfl

end ZmqClientBase

end Zmqcpp
