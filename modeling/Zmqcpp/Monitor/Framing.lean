import Zmqcpp.Monitor.Monitor
import Zmqcpp.Shared.Transition

set_option autoImplicit false

namespace Zmqcpp

inductive Slot
  | event
  | address
  deriving DecidableEq, Repr

def MonitorFrame.slot : MonitorFrame → Slot
  | .event _ => .event
  | .address _ => .address

-- Between calls, or before the second receive; `received` is whether the first got a frame.
inductive MonitorRecvPc
  | first
  | second (event : ZmqEvent) (received : Bool)
  deriving DecidableEq, Repr

structure MonitorSocket where
  handlers : Handler → Bool
  queue : List MonitorFrame := []
  pc : MonitorRecvPc := .first
  terminated : Bool := false
  thrown : Bool := false
  -- The events that came in, the frames each receive got, the handlers called.
  arrived : List SocketEvent := []
  reads : List (Slot × MonitorFrame) := []
  invoked : List Invocation := []

-- A receive gets the frame that is first in the queue; on an empty one it times out, or fails with
-- ETERM.
inductive MonitorAction
  | arrive (of : SocketEvent)
  | recv (stale : Bytes)
  | timeout (stale : Bytes)
  | eterm

namespace MonitorSocket

def finish (s : MonitorSocket) (event : ZmqEvent) (address : Bytes) : MonitorSocket :=
  let outcome := Monitor.dispatch s.handlers event address
  { s with
    pc := .first
    thrown := outcome.thrown
    invoked := s.invoked ++ outcome.invoked.toList }

def recv (s : MonitorSocket) (stale : Bytes) : Option MonitorSocket :=
  match s.queue with
  | [] => none
  | frame :: queue =>
      match s.pc with
      | .first =>
          some { s with
            queue
            pc := .second (Monitor.decodeEvent frame.bytes stale) true
            reads := s.reads ++ [(Slot.event, frame)] }
      | .second event _ =>
          some ({ s with queue, reads := s.reads ++ [(Slot.address, frame)] }.finish event frame.bytes)

-- After a time-out the message is empty, and the memcpys copy what the memory held.
def timeout (s : MonitorSocket) (stale : Bytes) : Option MonitorSocket :=
  if s.queue.isEmpty then
    match s.pc with
    | .first => some { s with pc := .second (Monitor.decodeEvent [] stale) false }
    | .second event _ => some (s.finish event [])
  else none

def step (s : MonitorSocket) (action : MonitorAction) : Option MonitorSocket :=
  if s.thrown || s.terminated then none
  else
    match action with
    | .arrive of =>
        some { s with queue := s.queue ++ monitorEvent of, arrived := s.arrived ++ [of] }
    | .recv stale => s.recv stale
    | .timeout stale => s.timeout stale
    | .eterm => some { s with pc := .first, terminated := true }

def told (handlers : Handler → Bool) (of : SocketEvent) : Option Invocation :=
  if handlers (Monitor.route of.event.event) then
    some ⟨Monitor.route of.event.event, of.event, of.address⟩
  else none

/-- Every frame was read as what it is, and the handlers called are those of the events whose two
frames were received. -/
structure Faithful (s : MonitorSocket) : Prop where
  slots : ∀ read ∈ s.reads, read.1 = read.2.slot
  invoked : s.invoked = (s.arrived.take (s.reads.length / 2)).filterMap (told s.handlers)

def KeepsFaithful (s : MonitorSocket) (action : MonitorAction) : Prop :=
  ∀ next, s.step action = some next → next.Faithful

/-- When the first receive of a call has timed out, no event arrives before the second, and no
handler is registered for the code that the memory held. -/
def TimesOutQuietly (s : MonitorSocket) : MonitorAction → Prop
  | .recv _ => ∀ event, s.pc = .second event false → s.queue = []
  | .timeout _ => ∀ event, s.pc = .second event false → s.queue = [] →
      s.handlers (Monitor.route event.event) = false
  | _ => True

variable {s next : MonitorSocket} {action : MonitorAction} {done pending : List SocketEvent}

/-- Both frames of `done` have been received; the queue holds those of `pending`, or all but the
first of them. -/
structure Aligned (s : MonitorSocket) (done pending : List SocketEvent) : Prop where
  arrived : s.arrived = done ++ pending
  invoked : s.invoked = done.filterMap (told s.handlers)
  slots : ∀ read ∈ s.reads, read.1 = read.2.slot
  count : s.reads.length / 2 = done.length
  position : s.terminated = true ∨
    (s.reads.length = 2 * done.length ∧ s.queue = pending.flatMap monitorEvent ∧
      ∀ event, s.pc ≠ .second event true) ∨
    ∃ of rest, pending = of :: rest ∧ s.reads.length = 2 * done.length + 1 ∧
      s.queue = .address of :: rest.flatMap monitorEvent ∧ s.pc = .second of.event true
  running : s.pc ≠ .first → s.thrown = false ∧ s.terminated = false

theorem Aligned.faithful (aligned : s.Aligned done pending) : s.Faithful where
  slots := aligned.slots
  invoked := by rw [aligned.count, aligned.arrived, List.take_left, aligned.invoked]

theorem dispatch_invoked (handlers : Handler → Bool) (event : ZmqEvent) (address : Bytes) :
    (Monitor.dispatch handlers event address).invoked =
      if handlers (Monitor.route event.event) then
        some ⟨Monitor.route event.event, event, Monitor.cStr address⟩
      else none := by
  simp only [Monitor.dispatch]
  split_ifs <;> rfl

theorem dispatch_told (handlers : Handler → Bool) (of : SocketEvent) :
    (Monitor.dispatch handlers of.event of.address).invoked = told handlers of := by
  rw [dispatch_invoked, Monitor.cStr_address, told]

theorem initial_aligned (handlers : Handler → Bool) : Aligned { handlers } [] [] where
  arrived := rfl
  invoked := rfl
  slots _ member := by cases member
  count := Nat.zero_div 2
  position := .inr (.inl ⟨rfl, rfl, fun _ same => by cases same⟩)
  running inside := absurd rfl inside

theorem Aligned.arrive (aligned : s.Aligned done pending) (of : SocketEvent) :
    Aligned { s with queue := s.queue ++ monitorEvent of, arrived := s.arrived ++ [of] } done
      (pending ++ [of]) where
  arrived := by rw [aligned.arrived, List.append_assoc]
  invoked := aligned.invoked
  slots := aligned.slots
  count := aligned.count
  position := by
    rcases aligned.position with ended | ⟨even, queue, between⟩ | ⟨begun, rest, begins, odd, queue, pc⟩
    · exact .inl ended
    · refine .inr (.inl ⟨even, ?_, between⟩)
      rw [queue, List.flatMap_append, List.flatMap_singleton]
    · refine .inr (.inr ⟨begun, rest ++ [of], by rw [begins]; rfl, odd, ?_, pc⟩)
      rw [queue, List.flatMap_append, List.flatMap_singleton]
      rfl
  running := aligned.running

-- Between two events the queue starts with the two frames of the next.
theorem queue_start {frame : MonitorFrame} {queue : List MonitorFrame}
    (starts : pending.flatMap monitorEvent = frame :: queue) :
    ∃ of rest, pending = of :: rest ∧ frame = .event of ∧
      queue = .address of :: rest.flatMap monitorEvent := by
  cases pending with
  | nil => cases starts
  | cons of rest =>
      rw [List.flatMap_cons] at starts
      cases starts
      exact ⟨of, rest, rfl, rfl, rfl⟩

theorem told_singleton (handlers : Handler → Bool) (of : SocketEvent) :
    [of].filterMap (told handlers) = (told handlers of).toList := by
  cases known : told handlers of <;> simp [known]

theorem Aligned.slots_append (aligned : s.Aligned done pending) {read : Slot × MonitorFrame}
    (own : read.1 = read.2.slot) : ∀ other ∈ s.reads ++ [read], other.1 = other.2.slot := by
  intro other member
  rcases List.mem_append.mp member with before | last
  · exact aligned.slots other before
  · rw [List.mem_singleton.mp last]
    exact own

theorem Aligned.recv (aligned : s.Aligned done pending) (calm : s.thrown = false)
    (alive : s.terminated = false) {stale : Bytes} (quiet : s.TimesOutQuietly (.recv stale))
    (taken : s.recv stale = some next) : ∃ done pending, next.Aligned done pending := by
  rcases aligned.position with ended | ⟨even, starts, between⟩ | ⟨of, rest, begins, odd, starts, pc⟩
  · rw [alive] at ended
    cases ended
  · unfold MonitorSocket.recv at taken
    cases queue : s.queue with
    | nil =>
        rw [queue] at taken
        cases taken
    | cons frame others =>
        rw [queue] at taken starts
        obtain ⟨of, rest, begins, rfl, rfl⟩ := queue_start starts.symm
        cases pc : s.pc with
        | first =>
            rw [pc] at taken
            cases taken
            refine ⟨done, pending,
              ⟨aligned.arrived, aligned.invoked, aligned.slots_append rfl, ?_, ?_, ?_⟩⟩
            · simp only [List.length_append, List.length_singleton]
              omega
            · refine .inr (.inr ⟨of, rest, begins, ?_, rfl, ?_⟩)
              · simp [even]
              · simp only [Monitor.decodeEvent_event]
            · exact fun _ => ⟨calm, alive⟩
        | second event received =>
            cases received with
            | true => exact absurd pc (between event)
            | false =>
                have empty := quiet event pc
                rw [queue] at empty
                cases empty
  · unfold MonitorSocket.recv at taken
    rw [starts, pc] at taken
    cases taken
    refine ⟨done ++ [of], rest, ⟨?_, ?_, aligned.slots_append rfl, ?_, ?_, ?_⟩⟩
    · simp [finish, aligned.arrived, begins]
    · simp only [finish, MonitorFrame.bytes, dispatch_told, List.filterMap_append, aligned.invoked,
        told_singleton]
    · simp only [finish, List.length_append, List.length_singleton]
      omega
    · refine .inr (.inl ⟨?_, rfl, fun _ same => by cases same⟩)
      simp only [finish, List.length_append, List.length_singleton]
      omega
    · intro inside
      exact absurd rfl inside

theorem Aligned.timeout (aligned : s.Aligned done pending) (calm : s.thrown = false)
    (alive : s.terminated = false) {stale : Bytes} (quiet : s.TimesOutQuietly (.timeout stale))
    (taken : s.timeout stale = some next) : next.Aligned done pending := by
  simp only [MonitorSocket.timeout, Option.ite_none_right_eq_some, List.isEmpty_iff] at taken
  obtain ⟨empty, taken⟩ := taken
  rcases aligned.position with ended | ⟨even, starts, between⟩ | ⟨of, rest, -, -, starts, -⟩
  · rw [alive] at ended
    cases ended
  · cases pc : s.pc with
    | first =>
        rw [pc] at taken
        cases taken
        refine ⟨aligned.arrived, aligned.invoked, aligned.slots, aligned.count, ?_, ?_⟩
        · exact .inr (.inl ⟨even, starts, fun _ same => by cases same⟩)
        · exact fun _ => ⟨calm, alive⟩
    | second event received =>
        cases received with
        | true => exact absurd pc (between event)
        | false =>
            rw [pc] at taken
            cases taken
            refine ⟨aligned.arrived, ?_, aligned.slots, aligned.count, ?_, ?_⟩
            · simp [finish, dispatch_invoked, quiet event pc empty, aligned.invoked]
            · exact .inr (.inl ⟨even, starts, fun _ same => by cases same⟩)
            · intro inside
              exact absurd rfl inside
  · rw [starts] at empty
    cases empty

theorem step_enabled (taken : s.step action = some next) :
    s.thrown = false ∧ s.terminated = false := by
  unfold MonitorSocket.step at taken
  split_ifs at taken with stopped
  simpa using stopped

theorem Aligned.step (aligned : s.Aligned done pending) (quiet : s.TimesOutQuietly action)
    (taken : s.step action = some next) : ∃ done pending, next.Aligned done pending := by
  obtain ⟨calm, alive⟩ := step_enabled taken
  unfold MonitorSocket.step at taken
  rw [if_neg (by simp [calm, alive])] at taken
  cases action with
  | arrive of =>
      cases taken
      exact ⟨done, pending ++ [of], aligned.arrive of⟩
  | recv stale => exact aligned.recv calm alive quiet taken
  | timeout stale => exact ⟨done, pending, aligned.timeout calm alive quiet taken⟩
  | eterm =>
      cases taken
      refine ⟨done, pending, aligned.arrived, aligned.invoked, aligned.slots, aligned.count,
        .inl rfl, ?_⟩
      intro inside
      exact absurd rfl inside

-- A frame received after a time-out is read in the wrong place, and a handler called after one was
-- told of no event.
theorem Aligned.quiet_of_keeps (aligned : s.Aligned done pending)
    (keeps : s.KeepsFaithful action) : s.TimesOutQuietly action := by
  cases action with
  | arrive of => trivial
  | eterm => trivial
  | recv stale =>
      intro event pc
      by_contra arrived
      obtain ⟨calm, alive⟩ := aligned.running (by simp [pc])
      rcases aligned.position with ended | ⟨even, starts, -⟩ | ⟨of, rest, -, -, -, other⟩
      · rw [alive] at ended
        cases ended
      · cases queue : s.queue with
        | nil => exact arrived queue
        | cons frame others =>
            rw [queue] at starts
            obtain ⟨of, rest, -, rfl, -⟩ := queue_start starts.symm
            have faithful := keeps _ (by
              simp only [MonitorSocket.step, calm, alive, MonitorSocket.recv, queue, pc]
              rfl)
            have misread := faithful.slots (.address, .event of) (by simp [finish])
            cases misread
      · rw [pc] at other
        cases other
  | timeout stale =>
      intro event pc empty
      obtain ⟨calm, alive⟩ := aligned.running (by simp [pc])
      have faithful := keeps _ (by
        simp only [MonitorSocket.step, calm, alive, MonitorSocket.timeout, empty, pc]
        rfl)
      have invoked := faithful.invoked
      simp only [finish, dispatch_invoked] at invoked
      rw [← aligned.faithful.invoked] at invoked
      by_contra registered
      simp [registered] at invoked

/-- The handlers are called as they ought to be, and every frame is read as what it is, if and only
if each time-out of a first receive is followed by one of the second and finds no handler for what
the memory held. -/
theorem framing_kept (handlers : Handler → Bool) (actions : List MonitorAction) :
    Transition.Along step KeepsFaithful { handlers } actions ↔
      Transition.Along step TimesOutQuietly { handlers } actions := by
  have same (s : MonitorSocket) (action : MonitorAction)
      (aligned : ∃ done pending, s.Aligned done pending) :
      s.KeepsFaithful action ↔ s.TimesOutQuietly action := by
    obtain ⟨done, pending, aligned⟩ := aligned
    refine ⟨aligned.quiet_of_keeps, fun quiet next taken => ?_⟩
    obtain ⟨done, pending, after⟩ := aligned.step quiet taken
    exact after.faithful
  refine Transition.along_iff (fun s => ∃ done pending, s.Aligned done pending) ?_ same
    ⟨[], [], initial_aligned handlers⟩
  intro s action next aligned keeps taken
  have quiet := (same s action aligned).mp keeps
  obtain ⟨done, pending, aligned⟩ := aligned
  exact aligned.step quiet taken

-- The handlers that SetMonitorSocket of ZmqClientBase registers.
def clientHandlers : Handler → Bool
  | .onEventListening | .onEventBindFailed | .onEventAccepted | .onEventAccepFailed => false
  | _ => true

-- An event arrives between the two receives of a call: its first frame is read as an address, and
-- OnEventUnknown is called.
theorem event_read_as_address : ∃ reached,
    Transition.run step { handlers := clientHandlers }
      [.timeout [], .arrive ⟨⟨1, 3⟩, [116], by decide⟩, .recv []] = some reached ∧
    reached.invoked = [⟨.onEventUnknown, ⟨0, 0⟩, [1]⟩] ∧
    ¬Transition.Along step KeepsFaithful { handlers := clientHandlers }
      [.timeout [], .arrive ⟨⟨1, 3⟩, [116], by decide⟩, .recv []] := by
  refine ⟨_, rfl, by decide, fun along => ?_⟩
  have faithful := ((along.2 _ rfl).2 _ rfl).1 _ rfl
  have misread := faithful.slots _ (List.mem_append_right [] (List.mem_singleton_self _))
  cases misread

end MonitorSocket

end Zmqcpp
