import Zmqcpp.Client.Flow

set_option autoImplicit false

namespace Zmqcpp

section Map

variable {frontsockets : List (Tid × Option FrontSocket)} {thread other : Tid}
  {socket : FrontSocket}

def hasFront (frontsockets : List (Tid × Option FrontSocket)) (thread : Tid) : Bool :=
  frontsockets.any fun entry => entry.1 = thread

@[simp]
theorem lookupFront_cons (entry : Tid × Option FrontSocket) :
    lookupFront (entry :: frontsockets) thread =
      if thread = entry.1 then entry.2 else lookupFront frontsockets thread := by
  obtain ⟨owner, held⟩ := entry
  by_cases same : thread = owner
  · rw [lookupFront, List.lookup_cons]
    simp [same]
  · have apart : (thread == owner) = false := by simpa using same
    simp [lookupFront, List.lookup_cons, same, apart]

theorem lookupFront_of_absent (absent : hasFront frontsockets thread = false) :
    lookupFront frontsockets thread = none := by
  induction frontsockets with
  | nil => rfl
  | cons entry rest ih =>
      simp only [hasFront, List.any_cons, Bool.or_eq_false_iff, decide_eq_false_iff_not] at absent
      have apart : ¬thread = entry.1 := fun same => absent.1 same.symm
      rw [lookupFront_cons, if_neg apart]
      exact ih absent.2

-- The null entry that m_frontsockets[id] adds is found as no socket, as before.
@[simp]
theorem lookupFront_touchFront :
    lookupFront (touchFront frontsockets thread) other = lookupFront frontsockets other := by
  unfold touchFront
  split_ifs with known
  · rfl
  · rw [lookupFront_cons]
    split_ifs with same
    · subst same
      exact (lookupFront_of_absent (Bool.not_eq_true _ ▸ known)).symm
    · rfl

theorem hasFront_touchFront : hasFront (touchFront frontsockets thread) thread = true := by
  unfold touchFront
  split_ifs with known
  · exact known
  · simp [hasFront]

theorem hasFront_touchFront_other (known : hasFront frontsockets other = true) :
    hasFront (touchFront frontsockets thread) other = true := by
  unfold touchFront
  split_ifs
  · exact known
  · simpa [hasFront] using .inr (by simpa [hasFront] using known)

@[simp]
theorem hasFront_assignFront :
    hasFront (assignFront frontsockets thread socket) other = hasFront frontsockets other := by
  simp only [hasFront, assignFront, List.any_map]
  congr 1
  funext entry
  by_cases own : entry.1 = thread <;> simp [own]

theorem lookupFront_assignFront (known : hasFront frontsockets thread = true) :
    lookupFront (assignFront frontsockets thread socket) thread = some socket := by
  induction frontsockets with
  | nil => cases known
  | cons entry rest ih =>
      by_cases own : entry.1 = thread
      · simp [assignFront, own]
      · have later : hasFront rest thread = true := by simpa [hasFront, own] using known
        have apart : ¬thread = entry.1 := fun same => own same.symm
        simpa [assignFront, own, apart] using ih later

theorem lookupFront_assignFront_other (apart : other ≠ thread) :
    lookupFront (assignFront frontsockets thread socket) other = lookupFront frontsockets other := by
  induction frontsockets with
  | nil => rfl
  | cons entry rest ih =>
      by_cases own : entry.1 = thread
      · simpa [assignFront, own, apart] using ih
      · by_cases same : other = entry.1
        · simp [assignFront, own, same]
        · simpa [assignFront, own, same] using ih

end Map

def SendPc.past : SendPc → Bool
  | .release _ _ | .closing _ _ | .result _ => true
  | _ => false

namespace ZmqClientBase

variable {s next : ZmqClientBase} {thread other : Tid} {env : Env} {pc : SendPc}

def front (s : ZmqClientBase) (thread : Tid) : Option FrontSocket :=
  lookupFront s.frontsockets thread

def SendHolds (s : ZmqClientBase) (thread : Tid) : SendPc → Prop
  | .setup _ socket | .inSetup _ socket =>
      s.front thread = none ∧ hasFront s.frontsockets thread = true ∧ socket.owner = thread
  | .unlock (some socket) | .ready socket | .sending socket => s.front thread = some socket
  | .abandoning _ | .unlock none => False
  | .release _ value | .closing _ value | .result value => value = true
  | .testState | .lockFront | .lookup => True

structure FrontStep (s next : ZmqClientBase) (thread : Tid) : Prop where
  others : ∀ other, other ≠ thread → next.front other = s.front other
  known : ∀ other, hasFront s.frontsockets other = true → hasFront next.frontsockets other = true
  own : next.front thread = s.front thread ∨
    s.front thread = none ∧ ∃ socket, next.front thread = some socket ∧ socket.owner = thread
  bRun : next.bRun = s.bRun
  transportState : next.transportState = s.transportState
  poll : next.poll = s.poll

inductive SendMoves (s next : ZmqClientBase) (thread : Tid) (pc : SendPc) : Prop
  | goes (after : SendPc) (task : next.task = Function.update s.task thread (.send after))
      (holds : next.SendHolds thread after)
      (past : after.past = true ↔ pc.past = true ∨ ∃ socket, pc = .sending socket)
      (inside : ∀ value, pc ≠ .result value)
  | returns (ends : pc = .result true) (task : next.task = Function.update s.task thread .idle)

theorem frontStep_of_frame {sent : ZmqClientBase} {task : Task} (frame : SendFrame s sent pc)
    (same : sent.frontsockets = s.frontsockets) : FrontStep s (sent.setTask thread task) thread := by
  refine ⟨?_, ?_, .inl ?_, frame.bRun, frame.transportState, frame.poll⟩
  · intro other _
    simp [front, setTask, same]
  · intro other known
    simpa [setTask, same] using known
  · simp [front, setTask, same]

theorem step_frontStep (here : s.task thread = .send pc) (holds : s.SendHolds thread pc)
    (taken : s.step (.task thread env) = some next) : FrontStep s next thread := by
  obtain ⟨sent, rest, moved, rfl⟩ := step_send here taken
  have frame := sendStep_frame moved
  cases pc with
  | lookup =>
      have touched : sent.frontsockets = s.frontsockets ∨
          sent.frontsockets = touchFront s.frontsockets thread := by
        simp only [sendStep] at moved
        split at moved
        · cases moved
          exact .inl rfl
        · split_ifs at moved <;> cases moved <;> exact .inr rfl
      rcases touched with same | touched
      · exact frontStep_of_frame frame same
      · refine ⟨?_, ?_, .inl ?_, frame.bRun, frame.transportState, frame.poll⟩
        · intro other _
          simp [front, setTask, touched]
        · intro other known
          simpa [setTask, touched] using hasFront_touchFront_other known
        · simp [front, setTask, touched]
  | setup todo socket =>
      cases todo with
      | nil =>
          obtain ⟨none_yet, known, owner⟩ := holds
          cases moved
          refine ⟨?_, ?_, .inr ⟨none_yet, socket, ?_, owner⟩, rfl, rfl, rfl⟩
          · intro other apart
            exact lookupFront_assignFront_other apart
          · intro other known
            simpa [setTask] using known
          · exact lookupFront_assignFront known
      | cons first todo =>
          exact frontStep_of_frame frame (frame.frontsockets (by simp) (by simp))
  | _ => exact frontStep_of_frame frame (frame.frontsockets (by simp) (by simp))

theorem step_sendMoves (up : ¬s.transportState < .transporting) (ok : env.ok = true)
    (here : s.task thread = .send pc) (holds : s.SendHolds thread pc)
    (taken : s.step (.task thread env) = some next) : SendMoves s next thread pc := by
  obtain ⟨sent, rest, moved, rfl⟩ := step_send here taken
  have same := (sendStep_frame moved).task
  have task (after : Task) : (sent.setTask thread after).task = Function.update s.task thread after := by
    rw [setTask_task, same]
  cases pc with
  | testState =>
      simp only [sendStep, if_neg up] at moved
      cases moved
      exact .goes .lockFront (task _) trivial (by simp [SendPc.past]) (by simp)
  | lockFront =>
      simp only [sendStep, Option.ite_none_right_eq_some] at moved
      obtain ⟨-, moved⟩ := moved
      cases moved
      exact .goes .lookup (task _) trivial (by simp [SendPc.past]) (by simp)
  | lookup =>
      simp only [sendStep, ok, if_true] at moved
      split at moved
      · next socket found =>
          cases moved
          exact .goes (.unlock (some socket)) (task _) found (by simp [SendPc.past]) (by simp)
      · next absent =>
          cases moved
          refine .goes (.setup frontSetup ⟨thread, s.serial⟩) (task _) ?_ (by simp [SendPc.past])
            (by simp)
          refine ⟨?_, hasFront_touchFront, rfl⟩
          simpa [front, setTask] using absent
  | setup todo socket =>
      cases todo with
      | nil =>
          cases moved
          refine .goes (.unlock (some socket)) (task _) ?_ (by simp [SendPc.past]) (by simp)
          exact lookupFront_assignFront holds.2.1
      | cons first todo =>
          cases first <;> cases moved <;>
            exact .goes (.inSetup todo socket) (task _) holds (by simp [SendPc.past]) (by simp)
  | inSetup todo socket =>
      simp only [sendStep, ok, if_true] at moved
      cases moved
      exact .goes (.setup todo socket) (task _) holds (by simp [SendPc.past]) (by simp)
  | abandoning socket => exact holds.elim
  | unlock held =>
      cases held with
      | none => exact holds.elim
      | some socket =>
          cases moved
          exact .goes (.ready socket) (task _) holds (by simp [SendPc.past]) (by simp)
  | ready socket =>
      cases moved
      exact .goes (.sending socket) (task _) holds (by simp [SendPc.past]) (by simp)
  | sending socket =>
      cases moved
      exact .goes (.release socket env.ok) (task _) ok (by simp [SendPc.past]) (by simp)
  | release socket value =>
      simp only [sendStep] at moved
      split_ifs at moved
      · cases moved
        exact .goes (.result value) (task _) holds (by simp [SendPc.past]) (by simp)
      · cases moved
        exact .goes (.closing socket value) (task _) holds (by simp [SendPc.past]) (by simp)
  | closing socket value =>
      cases moved
      exact .goes (.result value) (task _) holds (by simp [SendPc.past]) (by simp)
  | result value =>
      cases holds
      cases moved
      exact .returns rfl (task _)

theorem sendHolds_other (holds : s.SendHolds other pc) (step : FrontStep s next thread)
    (apart : other ≠ thread) : next.SendHolds other pc := by
  have same := step.others other apart
  cases pc with
  | setup | inSetup =>
      obtain ⟨none_yet, known, owner⟩ := holds
      exact ⟨same.trans none_yet, step.known other known, owner⟩
  | ready | sending => exact same.trans holds
  | unlock held =>
      cases held with
      | none => exact holds
      | some socket => exact same.trans holds
  | _ => exact holds

end ZmqClientBase

end Zmqcpp
