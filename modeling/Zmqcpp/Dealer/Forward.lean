import Zmqcpp.Client.State
import Zmqcpp.Shared.Transition
import Zmqcpp.Socket.LoadBalancer

set_option autoImplicit false

namespace Zmqcpp

open Multipart ZmqClientBase

namespace LoadBalancer

variable {Frame : Type}

structure Between (lb : LoadBalancer Frame) : Prop where
  more : lb.more = false
  dropping : lb.dropping = false
  frames : lb.outbox.frames = []

theorem send_refused {lb : LoadBalancer Frame} (between : lb.Between) (frame : Frame) (more : Bool)
    {answer : Answer} (refused : answer.accepted = false) :
    (lb.send frame more answer).1 = lb := by
  simp [send, sendpipe, pipeTerminated, between.more, between.dropping, refused]

theorem send_accepted {lb : LoadBalancer Frame} (between : lb.Between) (frame : Frame) (more : Bool)
    {answer : Answer} (accepted : answer.accepted = true) :
    (lb.send frame more answer).1 = lb.write frame more := by
  simp [send, sendpipe, pipeTerminated, between.more, between.dropping, accepted]

theorem send_open {lb : LoadBalancer Frame} (begun : lb.more = true) (keeps : lb.dropping = false)
    (frame : Frame) (more : Bool) {answer : Answer} (alive : answer.terminated = false) :
    (lb.send frame more answer).1 = lb.write frame more := by
  simp [send, sendpipe, begun, keeps, alive]

theorem send_terminated {lb : LoadBalancer Frame} (begun : lb.more = true) (frame : Frame)
    (more : Bool) {answer : Answer} (terminated : answer.terminated = true) :
    (lb.send frame more answer).1 =
      { more := more, dropping := more, outbox := { lb.outbox with frames := [] } } := by
  simp [send, sendpipe, pipeTerminated, begun, terminated]

theorem send_dropping {lb : LoadBalancer Frame} (drops : lb.dropping = true)
    (rolled : lb.outbox.frames = []) (frame : Frame) (more : Bool) (answer : Answer) :
    (lb.send frame more answer).1 = { lb with more := more, dropping := more } := by
  obtain ⟨begun, dropping, frames, sent⟩ := lb
  subst drops rolled
  cases begun <;> cases ended : answer.terminated <;>
    simp [send, sendpipe, pipeTerminated, ended]

end LoadBalancer

namespace ZmqClientDealer

variable {Frame : Type}

structure Sockets (Frame : Type) where
  arrived : List (Message Frame) := []
  backsock : Inbox Frame := {}
  clisock : LoadBalancer Frame := {}
  deriving DecidableEq, Repr

inductive Action (Frame : Type)
  | arrive (message : Message Frame)
  | backSocketRecv (answers : Nat → Answer)

-- The loop over vec; its results are not looked at, and i == count - 1 at the last frame.
def sendVec (answers : Nat → Answer) :
    Nat → List Frame → LoadBalancer Frame → LoadBalancer Frame
  | _, [], clisock => clisock
  | i, frame :: rest, clisock =>
      sendVec answers (i + 1) rest (clisock.send frame (!rest.isEmpty) (answers i)).1

namespace Sockets

def backSocketRecv (s : Sockets Frame) (answers : Nat → Answer) : Sockets Frame :=
  match s.backsock.read iovetSize with
  | none => s
  | some (vec, backsock) =>
      { s with backsock := backsock, clisock := sendVec answers 0 vec s.clisock }

def step (s : Sockets Frame) : Action Frame → Option (Sockets Frame)
  | .arrive message =>
      some { s with arrived := s.arrived ++ [message], backsock := s.backsock.arrive message }
  | .backSocketRecv answers => some (s.backSocketRecv answers)

end Sockets

-- The pipe of an open message terminates before one of the next `count` frames.
def cutOff (answers : Nat → Answer) (i count : Nat) : Bool :=
  (List.range' i count).any fun k => (answers k).terminated

def completed (answers : Nat → Answer) : Nat → List Frame → Option (List Frame)
  | _, [] => none
  | i, frame :: rest =>
      if (answers i).accepted then
        if cutOff answers (i + 1) rest.length then none else some (frame :: rest)
      else completed answers (i + 1) rest

theorem cutOff_succ (answers : Nat → Answer) (i count : Nat) :
    cutOff answers i (count + 1) =
      ((answers i).terminated || cutOff answers (i + 1) count) := by
  simp [cutOff, List.range'_succ]

theorem sendVec_dropping (answers : Nat → Answer) (i : Nat) (vec : List Frame)
    (clisock : LoadBalancer Frame) (drops : clisock.dropping = true)
    (rolled : clisock.outbox.frames = []) (some_frames : vec ≠ []) :
    sendVec answers i vec clisock = { outbox := clisock.outbox } := by
  induction vec generalizing i clisock with
  | nil => exact absurd rfl some_frames
  | cons frame rest ih =>
      rw [sendVec, LoadBalancer.send_dropping drops rolled]
      cases rest with
      | nil => rfl
      | cons next others => exact ih (i + 1) _ rfl rolled (by simp)

theorem sendVec_open (answers : Nat → Answer) (i : Nat) (vec : List Frame)
    (clisock : LoadBalancer Frame) (begun : clisock.more = true)
    (keeps : clisock.dropping = false) (some_frames : vec ≠ []) :
    sendVec answers i vec clisock =
      { outbox :=
        { sent := clisock.outbox.sent ++
            if cutOff answers i vec.length then [] else [clisock.outbox.frames ++ vec] } } := by
  induction vec generalizing i clisock with
  | nil => exact absurd rfl some_frames
  | cons frame rest ih =>
      rw [sendVec, List.length_cons, cutOff_succ]
      cases ended : (answers i).terminated with
      | true =>
          rw [LoadBalancer.send_terminated begun frame _ ended]
          cases rest with
          | nil => simp [sendVec]
          | cons next others =>
              rw [sendVec_dropping _ _ _ _ rfl rfl (by simp)]
              simp
      | false =>
          rw [LoadBalancer.send_open begun keeps frame _ ended]
          cases rest with
          | nil => simp [sendVec, LoadBalancer.write, keeps, cutOff]
          | cons next others =>
              have tail := ih (i + 1) (clisock.write frame true) rfl keeps (by simp)
              simp only [List.isEmpty_cons, Bool.not_false, Bool.false_or, tail]
              simp [LoadBalancer.write]

-- A read sent frame by frame leaves the socket between two messages again.
theorem sendVec_between (answers : Nat → Answer) (i : Nat) (vec : List Frame)
    (clisock : LoadBalancer Frame) (between : clisock.Between) :
    sendVec answers i vec clisock =
      { outbox := { sent := clisock.outbox.sent ++ (completed answers i vec).toList } } := by
  have same : clisock = { outbox := { sent := clisock.outbox.sent } } := by
    obtain ⟨more, dropping, frames, sent⟩ := clisock
    obtain ⟨closed, keeps, empty⟩ := between
    dsimp only at closed keeps empty
    rw [closed, keeps, empty]
  induction vec generalizing i with
  | nil => simpa [sendVec, completed] using same
  | cons frame rest ih =>
      rw [sendVec, completed]
      cases accepted : (answers i).accepted with
      | false =>
          rw [LoadBalancer.send_refused between frame _ accepted, ih (i + 1)]
          simp
      | true =>
          rw [LoadBalancer.send_accepted between frame _ accepted]
          cases rest with
          | nil => simp [sendVec, LoadBalancer.write, cutOff, between.frames, between.dropping]
          | cons next others =>
              have tail := sendVec_open answers (i + 1) (next :: others) (clisock.write frame true)
                rfl between.dropping (by simp)
              simp only [List.isEmpty_cons, Bool.not_false, tail]
              cases cutOff answers (i + 1) (next :: others).length <;>
                simp [LoadBalancer.write, between.frames]

def FirstAccepted (answers : Nat → Answer) (first : Nat) : Prop :=
  (answers first).accepted = true ∧ ∀ earlier < first, (answers earlier).accepted = false

theorem FirstAccepted.unique {answers : Nat → Answer} {left right : Nat}
    (leftFirst : FirstAccepted answers left) (rightFirst : FirstAccepted answers right) :
    left = right := by
  rcases Nat.lt_trichotomy left right with less | same | greater
  · simpa [leftFirst.1] using rightFirst.2 left less
  · exact same
  · simpa [rightFirst.1] using leftFirst.2 right greater

theorem cutOff_iff (answers : Nat → Answer) (i count : Nat) :
    cutOff answers i count = true ↔
      ∃ later, i ≤ later ∧ later < i + count ∧ (answers later).terminated = true := by
  simp [cutOff, List.any_eq_true, List.mem_range'_1, and_assoc]

theorem completed_cases (answers : Nat → Answer) (i : Nat) (vec : List Frame)
    (refused : ∀ earlier < i, (answers earlier).accepted = false) :
    (completed answers i vec = none ∧ ∀ first, FirstAccepted answers first →
        first < i + vec.length → ∃ later, first < later ∧ later < i + vec.length ∧
          (answers later).terminated = true) ∨
    ∃ first, i ≤ first ∧ first < i + vec.length ∧ FirstAccepted answers first ∧
      (∀ later, first < later → later < i + vec.length → (answers later).terminated = false) ∧
      completed answers i vec = some (vec.drop (first - i)) := by
  induction vec generalizing i with
  | nil =>
      refine .inl ⟨rfl, fun first accepted bound => ?_⟩
      simpa [accepted.1] using refused first (by simpa using bound)
  | cons frame rest ih =>
      have length : i + (frame :: rest).length = i + 1 + rest.length := by
        simp only [List.length_cons]
        omega
      rw [completed, length]
      cases accepted : (answers i).accepted with
      | true =>
          have own : FirstAccepted answers i := ⟨accepted, refused⟩
          cases lost : cutOff answers (i + 1) rest.length with
          | true =>
              obtain ⟨later, after, bound, terminated⟩ := (cutOff_iff _ _ _).mp lost
              refine .inl ⟨rfl, fun first accepted _ => ⟨later, ?_, bound, terminated⟩⟩
              rw [accepted.unique own]
              omega
          | false =>
              refine .inr ⟨i, le_refl i, by omega, own, fun later after bound => ?_, by simp⟩
              by_contra terminated
              simp only [Bool.not_eq_false] at terminated
              have found := (cutOff_iff answers (i + 1) rest.length).mpr
                ⟨later, by omega, bound, terminated⟩
              rw [lost] at found
              cases found
      | false =>
          have still : ∀ earlier < i + 1, (answers earlier).accepted = false := by
            intro earlier bound
            rcases Nat.lt_succ_iff_lt_or_eq.mp bound with less | rfl
            · exact refused earlier less
            · exact accepted
          rcases ih (i + 1) still with none_left | ⟨first, low, high, own, alive, some_left⟩
          · exact .inl none_left
          · refine .inr ⟨first, by omega, high, own, alive, ?_⟩
            have drop : first - i = first - (i + 1) + 1 := by omega
            simpa [drop] using some_left

def KeepsWhole (s : Sockets Frame) (action : Action Frame) : Prop :=
  ∀ next, s.step action = some next →
    next.clisock.outbox.sent = s.clisock.outbox.sent ∨
      s.backsock.rest = [] ∧ ∃ message, s.backsock.waiting.head? = some message ∧
        next.clisock.outbox.sent = s.clisock.outbox.sent ++ [message.frames]

/-- Of the frames read, the first to be accepted is the first of a message that fits the vector,
or the pipe terminates before one of the frames behind it. -/
def InOnePiece (s : Sockets Frame) : Action Frame → Prop
  | .arrive _ => True
  | .backSocketRecv answers =>
      ∀ first < min iovetSize s.backsock.current.length, FirstAccepted answers first →
        (s.backsock.rest = [] ∧ s.backsock.current.length ≤ iovetSize ∧ first = 0) ∨
          ∃ later < min iovetSize s.backsock.current.length, first < later ∧
            (answers later).terminated = true

variable {s next : Sockets Frame} {action : Action Frame}

theorem sent_of_recv (between : s.clisock.Between) (answers : Nat → Answer) {vec : List Frame}
    {after : Inbox Frame} (taken : s.backsock.read iovetSize = some (vec, after)) :
    s.backSocketRecv answers =
      { s with
        backsock := after
        clisock :=
          { outbox := { sent := s.clisock.outbox.sent ++ (completed answers 0 vec).toList } } } := by
  rw [Sockets.backSocketRecv, taken, ← sendVec_between answers 0 vec s.clisock between]

theorem Between.step (between : s.clisock.Between) (taken : s.step action = some next) :
    next.clisock.Between := by
  cases action with
  | arrive message =>
      cases taken
      exact between
  | backSocketRecv answers =>
      cases taken
      cases read : s.backsock.read iovetSize with
      | none =>
          rw [Sockets.backSocketRecv, read]
          exact between
      | some taken =>
          rw [sent_of_recv between answers read]
          exact ⟨rfl, rfl, rfl⟩

theorem keepsWhole_recv (between : s.clisock.Between) (answers : Nat → Answer) :
    KeepsWhole s (.backSocketRecv answers) ↔ InOnePiece s (.backSocketRecv answers) := by
  cases read : s.backsock.read iovetSize with
  | none =>
      have still : s.backSocketRecv answers = s := by rw [Sockets.backSocketRecv, read]
      simp [KeepsWhole, InOnePiece, Sockets.step, still, Inbox.read_none read, Inbox.current]
  | some taken =>
      obtain ⟨vec, after⟩ := taken
      have chunk := Inbox.read_chunk read
      have length : vec.length = min iovetSize s.backsock.current.length := by
        rw [chunk, List.length_take]
      simp only [KeepsWhole, InOnePiece, Sockets.step, Option.some.injEq, forall_eq',
        sent_of_recv between answers read, ← length]
      rcases completed_cases answers 0 vec (by simp) with ⟨nothing, lost⟩ |
        ⟨first, -, bound, accepted, alive, something⟩
      · simp only [nothing, Option.toList_none, List.append_nil, true_or, true_iff]
        intro first bound accepted
        obtain ⟨later, after, inside, terminated⟩ := lost first accepted (by omega)
        exact .inr ⟨later, by omega, after, terminated⟩
      · have grown : s.clisock.outbox.sent ++ [vec.drop first] ≠ s.clisock.outbox.sent := by simp
        simp only [something, Option.toList_some, Nat.sub_zero, grown, false_or,
          List.append_cancel_left_eq, List.cons.injEq, and_true]
        constructor
        · rintro ⟨none_begun, message, head, same⟩ other inside also
          have current := Inbox.current_of_head none_begun head
          have lengths := congrArg List.length same
          rw [List.length_drop, length, ← current] at lengths
          refine .inl ⟨none_begun, by omega, ?_⟩
          rw [also.unique accepted]
          omega
        · intro whole
          rcases whole first (by omega) accepted with ⟨none_begun, fits, rfl⟩ |
            ⟨later, inside, after, terminated⟩
          · rcases Inbox.read_cases read with ⟨-, message, waiting, -⟩ | ⟨begun, -⟩
            · have head : s.backsock.waiting.head? = some message := by rw [waiting]; rfl
              refine ⟨none_begun, message, head, ?_⟩
              rw [List.drop_zero, chunk, List.take_of_length_le fits,
                Inbox.current_of_head none_begun head]
            · exact absurd none_begun begun
          · simp [alive later after (by omega)] at terminated

theorem keepsWhole_iff (between : s.clisock.Between) (action : Action Frame) :
    KeepsWhole s action ↔ InOnePiece s action := by
  cases action with
  | arrive message => simp [KeepsWhole, InOnePiece, Sockets.step]
  | backSocketRecv answers => exact keepsWhole_recv between answers

-- The messages that have been taken up, and of these a subsequence that has been sent.
structure Forwarded (s : Sockets Frame) : Prop where
  between : s.clisock.Between
  taken : ∃ taken, s.arrived = taken ++ s.backsock.waiting ∧
    s.clisock.outbox.sent.Sublist (taken.map Message.frames)

theorem Forwarded.step (forwarded : Forwarded s) (keeps : KeepsWhole s action)
    (moved : s.step action = some next) : Forwarded next := by
  obtain ⟨between, taken⟩ := forwarded
  have gives : s.backsock.Gives s.arrived s.clisock.outbox.sent := taken
  refine ⟨Between.step between moved, ?_⟩
  cases action with
  | arrive message =>
      cases moved
      exact gives.arrive message
  | backSocketRecv answers =>
      have sent := keeps next moved
      cases moved
      cases read : s.backsock.read iovetSize with
      | none =>
          rw [Sockets.backSocketRecv, read]
          exact taken
      | some result =>
          obtain ⟨vec, after⟩ := result
          rw [sent_of_recv between answers read] at sent ⊢
          exact gives.keep_or_give read sent

theorem initial_forwarded : Forwarded ({} : Sockets Frame) :=
  ⟨⟨rfl, rfl, rfl⟩, [], rfl, List.Sublist.refl _⟩

/-- Each call keeps messages whole if and only if each read is sent in one piece, and then the
messages sent are some of those that came in, in their order. -/
theorem forwarded_whole (actions : List (Action Frame)) (reached : Sockets Frame)
    (run : Transition.run Sockets.step {} actions = some reached) :
    (Transition.Along Sockets.step KeepsWhole {} actions ↔
      Transition.Along Sockets.step InOnePiece {} actions) ∧
    (Transition.Along Sockets.step InOnePiece {} actions →
      reached.clisock.outbox.frames = [] ∧
        reached.clisock.outbox.sent.Sublist (reached.arrived.map Message.frames)) := by
  have same : Transition.Along Sockets.step KeepsWhole {} actions ↔
      Transition.Along Sockets.step InOnePiece {} actions :=
    Transition.along_iff Forwarded (fun _ _ _ forwarded keeps taken => forwarded.step keeps taken)
      (fun _ action forwarded => keepsWhole_iff forwarded.between action) initial_forwarded
  refine ⟨same, fun pieces => ?_⟩
  have forwarded := Transition.run_invariant Forwarded
    (fun _ _ _ forwarded keeps taken => forwarded.step keeps taken) initial_forwarded
    (same.mpr pieces) run
  have gives : reached.backsock.Gives reached.arrived reached.clisock.outbox.sent := forwarded.taken
  exact ⟨forwarded.between.frames, gives.sublist⟩

-- Two messages, the second refused frame by frame.
theorem forwarded_whole_refused : ∃ reached,
    Transition.run Sockets.step ({} : Sockets Nat)
      [.arrive ⟨1, [2]⟩, .arrive ⟨3, [4]⟩, .backSocketRecv fun _ => {},
        .backSocketRecv fun _ => { accepted := false }] = some reached ∧
    reached.clisock.outbox.sent = [[1, 2]] ∧
    reached.clisock.outbox.sent.Sublist (reached.arrived.map Message.frames) := by
  have pieces : Transition.Along Sockets.step InOnePiece ({} : Sockets Nat)
      [.arrive ⟨1, [2]⟩, .arrive ⟨3, [4]⟩, .backSocketRecv fun _ => {},
        .backSocketRecv fun _ => { accepted := false }] := by
    refine ⟨trivial, fun _ arrived => ⟨trivial, fun _ second => ⟨?_, fun _ _ => ⟨?_, ?_⟩⟩⟩⟩
    · intro later _ accepted
      cases arrived
      cases second
      refine .inl ⟨rfl, by decide, ?_⟩
      by_contra positive
      simpa using accepted.2 0 (by omega)
    · intro later _ accepted
      cases accepted.1
    · intro _ _
      trivial
  exact ⟨_, rfl, rfl, ((forwarded_whole _ _ rfl).2 pieces).2⟩

-- A message of nine frames is sent as two, and a message whose first frame times out is sent
-- without it.
theorem message_split :
    (∃ reached, Transition.run Sockets.step ({} : Sockets Nat)
      [.arrive ⟨0, [1, 2, 3, 4, 5, 6, 7, 8]⟩, .backSocketRecv fun _ => {},
        .backSocketRecv fun _ => {}] = some reached ∧
      reached.clisock.outbox.sent = [[0, 1, 2, 3, 4, 5, 6, 7], [8]] ∧
      ¬reached.clisock.outbox.sent.Sublist (reached.arrived.map Message.frames)) ∧
    ∃ reached, Transition.run Sockets.step ({} : Sockets Nat)
      [.arrive ⟨0, [1]⟩, .backSocketRecv fun i => { accepted := i ≠ 0 }] = some reached ∧
      reached.clisock.outbox.sent = [[1]] ∧
      ¬reached.clisock.outbox.sent.Sublist (reached.arrived.map Message.frames) := by
  refine ⟨⟨_, rfl, by decide, by decide⟩, ⟨_, rfl, by decide, by decide⟩⟩

end ZmqClientDealer

end Zmqcpp
