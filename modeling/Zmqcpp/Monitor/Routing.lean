import Zmqcpp.Monitor.Framing

set_option autoImplicit false

namespace Zmqcpp

-- The event a handler is registered for; OnEventUnknown has none of its own.
def Handler.code : Handler → Option UInt16
  | .onEventConnected => some 1
  | .onEventConnectDelayed => some 2
  | .onEventConnectRetried => some 4
  | .onEventListening => some 8
  | .onEventBindFailed => some 16
  | .onEventAccepted => some 32
  | .onEventAccepFailed => some 64
  | .onEventClosed => some 128
  | .onEventCloseFailed => some 256
  | .onEventDisconnected => some 512
  | .onEventStop => some 1024
  | .onEventUnknown => none

def Handler.all : List Handler :=
  [.onEventConnected, .onEventConnectDelayed, .onEventConnectRetried, .onEventListening,
    .onEventBindFailed, .onEventAccepted, .onEventAccepFailed, .onEventClosed,
    .onEventCloseFailed, .onEventDisconnected, .onEventUnknown, .onEventStop]

def Handler.ofCode (code : UInt16) : Handler :=
  (Handler.all.find? fun handler => handler.code = some code).getD .onEventUnknown

namespace Monitor

/-- MonitorRecv once both receives have got a frame; `stale` is what the memory behind the first
message holds. -/
def monitorRecv (handlers : Handler → Bool) (eventMsg addrMsg stale : Bytes) : Outcome :=
  dispatch handlers (decodeEvent eventMsg stale) addrMsg

def announced (handlers : Handler → Bool) (of : SocketEvent) : Option Invocation :=
  if handlers (.ofCode of.event.event) then
    some ⟨.ofCode of.event.event, of.event, of.address⟩
  else none

structure Routed (handlers : Handler → Bool) (of : SocketEvent) (outcome : Outcome) : Prop where
  invoked : outcome.invoked = announced handlers of
  calm : outcome.thrown = false
  ends : outcome.result = false → of.event.event = 1024

theorem route_own {code : UInt16} (other : code ≠ 16) : route code = .ofCode code := by
  -- Each code has one branch of the switch, or none.
  by_cases known : ∃ handler, Handler.code handler = some code
  · obtain ⟨handler, own⟩ := known
    cases handler <;> cases own <;> first | rfl | exact absurd rfl other
  · have nobody : Handler.all.find? (fun handler => handler.code = some code) = none := by
      apply List.find?_eq_none.mpr
      intro handler _
      simpa using fun own => known ⟨handler, own⟩
    have unknown (handler : Handler) (number : UInt16) (own : handler.code = some number) :
        code ≠ number := by
      rintro rfl
      exact known ⟨handler, own⟩
    rw [Handler.ofCode, nobody, route, if_neg (unknown .onEventStop 1024 rfl),
      if_neg (unknown .onEventConnected 1 rfl), if_neg (unknown .onEventConnectDelayed 2 rfl),
      if_neg (unknown .onEventConnectRetried 4 rfl), if_neg (unknown .onEventListening 8 rfl),
      if_neg (unknown .onEventBindFailed 16 rfl), if_neg (unknown .onEventAccepted 32 rfl),
      if_neg (unknown .onEventAccepFailed 64 rfl), if_neg (unknown .onEventClosed 128 rfl),
      if_neg (unknown .onEventCloseFailed 256 rfl), if_neg (unknown .onEventDisconnected 512 rfl)]
    rfl

theorem monitorRecv_event (handlers : Handler → Bool) (of : SocketEvent) (stale : Bytes) :
    monitorRecv handlers (MonitorFrame.event of).bytes (MonitorFrame.address of).bytes stale =
      dispatch handlers of.event of.address := by
  rw [monitorRecv, decodeEvent_event, MonitorFrame.bytes]

theorem dispatch_thrown (handlers : Handler → Bool) (event : ZmqEvent) (address : Bytes) :
    (dispatch handlers event address).thrown = true ↔
      event.event = 1024 ∧ handlers .onEventStop = false := by
  simp only [dispatch]
  split_ifs with stop <;> simp [stop]

theorem dispatch_result (handlers : Handler → Bool) (event : ZmqEvent) (address : Bytes) :
    (dispatch handlers event address).result = false ↔ event.event = 1024 := by
  simp only [dispatch]
  split_ifs with stop <;> simp [stop]

-- ZMQ_EVENT_BIND_FAILED tests and calls m_onEventListening.
theorem bindFailed_announced (handlers : Handler → Bool) (of : SocketEvent)
    (failed : of.event.event = 16) :
    (dispatch handlers of.event of.address).invoked = announced handlers of ↔
      handlers .onEventListening = false ∧ handlers .onEventBindFailed = false := by
  have routed : route 16 = .onEventListening := rfl
  have own : Handler.ofCode 16 = .onEventBindFailed := rfl
  rw [MonitorSocket.dispatch_invoked, announced, failed, routed, own]
  cases handlers .onEventListening <;> cases handlers .onEventBindFailed <;> simp

theorem other_announced (handlers : Handler → Bool) (of : SocketEvent)
    (other : of.event.event ≠ 16) :
    (dispatch handlers of.event of.address).invoked = announced handlers of := by
  rw [MonitorSocket.dispatch_invoked, announced, route_own other, cStr_address]

/-- An event is announced to the handler of its code unless it is a failed bind that either of two
handlers waits for, or the end of monitoring with no handler for it. -/
theorem events_routed (handlers : Handler → Bool) (of : SocketEvent) (stale : Bytes) :
    Routed handlers of (monitorRecv handlers (MonitorFrame.event of).bytes
        (MonitorFrame.address of).bytes stale) ↔
      (of.event.event = 16 →
        handlers .onEventListening = false ∧ handlers .onEventBindFailed = false) ∧
      (of.event.event = 1024 → handlers .onEventStop = true) := by
  rw [monitorRecv_event]
  constructor
  · rintro ⟨invoked, calm, -⟩
    refine ⟨fun failed => (bindFailed_announced handlers of failed).mp invoked, fun stop => ?_⟩
    by_contra unset
    have thrown := (dispatch_thrown handlers of.event of.address).mpr ⟨stop, by simpa using unset⟩
    rw [calm] at thrown
    cases thrown
  · rintro ⟨bindFailed, stopped⟩
    refine ⟨?_, ?_, (dispatch_result handlers of.event of.address).mp⟩
    · by_cases failed : of.event.event = 16
      · exact (bindFailed_announced handlers of failed).mpr (bindFailed failed)
      · exact other_announced handlers of failed
    · rw [Bool.eq_false_iff]
      intro thrown
      obtain ⟨stop, unset⟩ := (dispatch_thrown handlers of.event of.address).mp thrown
      rw [stopped stop] at unset
      cases unset

-- A failed bind, with a handler for it and one for listening; the end of monitoring with no
-- handler at all.
theorem bind_failure_misrouted :
    (monitorRecv (fun _ => true) [16, 0, 98, 0, 0, 0] [116] []).invoked =
        some ⟨.onEventListening, ⟨16, 98⟩, [116]⟩ ∧
      (monitorRecv (fun _ => false) [0, 4, 0, 0, 0, 0] [] []).thrown = true ∧
      ¬Routed (fun _ => true) ⟨⟨16, 98⟩, [116], by decide⟩
        (monitorRecv (fun _ => true) [16, 0, 98, 0, 0, 0] [116] []) := by
  refine ⟨by decide, by decide, fun routed => ?_⟩
  have invoked := routed.invoked
  revert invoked
  decide

end Monitor

namespace MonitorSocket

theorem monitorRecv_taken {s : MonitorSocket} {of : SocketEvent} {rest : List MonitorFrame}
    (calm : s.thrown = false) (alive : s.terminated = false) (between : s.pc = .first)
    (available : s.queue = monitorEvent of ++ rest) (stale unused : Bytes) :
    ∃ next, Transition.run step s [.recv stale, .recv unused] = some next ∧ next.pc = .first ∧
      next.queue = rest ∧
      next.thrown = (Monitor.monitorRecv s.handlers (MonitorFrame.event of).bytes
        (MonitorFrame.address of).bytes stale).thrown ∧
      next.invoked = s.invoked ++ (Monitor.monitorRecv s.handlers (MonitorFrame.event of).bytes
        (MonitorFrame.address of).bytes stale).invoked.toList := by
  simp [Transition.run, step, MonitorSocket.recv, finish, calm, alive, between, available,
    monitorEvent, Monitor.monitorRecv]

end MonitorSocket

end Zmqcpp
