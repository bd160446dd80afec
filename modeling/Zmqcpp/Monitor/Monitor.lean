import Mathlib.Data.List.TakeWhile
import Zmqcpp.Shared.LittleEndian
import Zmqcpp.Socket.StreamSocket

set_option autoImplicit false

namespace Zmqcpp

structure ZmqEvent where
  event : UInt16
  value : Int32
  deriving DecidableEq, Repr

structure SocketEvent where
  event : ZmqEvent
  address : Bytes
  no_nul : 0 ∉ address

inductive MonitorFrame
  | event (of : SocketEvent)
  | address (of : SocketEvent)

def monitorEvent (of : SocketEvent) : List MonitorFrame := [.event of, .address of]

def MonitorFrame.bytes : MonitorFrame → Bytes
  | .event of =>
      LittleEndian.encode 2 of.event.event.toNat ++
        LittleEndian.encode 4 of.event.value.toUInt32.toNat
  | .address of => of.address

inductive Handler
  | onEventConnected
  | onEventConnectDelayed
  | onEventConnectRetried
  | onEventListening
  | onEventBindFailed
  | onEventAccepted
  | onEventAccepFailed
  | onEventClosed
  | onEventCloseFailed
  | onEventDisconnected
  | onEventUnknown
  | onEventStop
  deriving DecidableEq, Repr

structure Invocation where
  handler : Handler
  event : ZmqEvent
  address : Bytes
  deriving DecidableEq, Repr

namespace Monitor

-- The memcpys from the data of a message of `bytes`; `stale` is what the memory behind it holds.
def decodeEvent (bytes stale : Bytes) : ZmqEvent where
  event := UInt16.ofNat (LittleEndian.decode ((bytes ++ stale).take 2))
  value := (UInt32.ofNat (LittleEndian.decode (((bytes ++ stale).drop 2).take 4))).toInt32

def cStr (bytes : Bytes) : Bytes := bytes.takeWhile fun byte => byte ≠ 0

def route (event : UInt16) : Handler :=
  if event = 1024 then .onEventStop
  else if event = 1 then .onEventConnected
  else if event = 2 then .onEventConnectDelayed
  else if event = 4 then .onEventConnectRetried
  else if event = 8 then .onEventListening
  -- ZMQ_EVENT_BIND_FAILED
  else if event = 16 then .onEventListening
  else if event = 32 then .onEventAccepted
  else if event = 64 then .onEventAccepFailed
  else if event = 128 then .onEventClosed
  else if event = 256 then .onEventCloseFailed
  else if event = 512 then .onEventDisconnected
  else .onEventUnknown

structure Outcome where
  invoked : Option Invocation
  thrown : Bool
  result : Bool
  deriving DecidableEq, Repr

def dispatch (handlers : Handler → Bool) (event : ZmqEvent) (address : Bytes) : Outcome :=
  let invoked :=
    if handlers (route event.event) then some ⟨route event.event, event, cStr address⟩ else none
  -- m_onEventStop is called without a test.
  if event.event = 1024 then
    { invoked, thrown := !handlers .onEventStop, result := false }
  else { invoked, thrown := false, result := true }

theorem decodeEvent_event (of : SocketEvent) (stale : Bytes) :
    decodeEvent (MonitorFrame.event of).bytes stale = of.event := by
  have code : UInt16.ofNat (LittleEndian.decode
      (LittleEndian.encode 2 of.event.event.toNat)) = of.event.event := by
    have bound : of.event.event.toNat < 256 ^ 2 := of.event.event.toNat_lt
    rw [LittleEndian.decode_encode, Nat.mod_eq_of_lt bound]
    exact UInt16.ofNat_toNat
  have value : UInt32.ofNat (LittleEndian.decode
      (LittleEndian.encode 4 of.event.value.toUInt32.toNat)) = of.event.value.toUInt32 := by
    have bound : of.event.value.toUInt32.toNat < 256 ^ 4 := of.event.value.toUInt32.toNat_lt
    rw [LittleEndian.decode_encode, Nat.mod_eq_of_lt bound]
    exact UInt32.ofNat_toNat
  have code_bytes (rest : Bytes) :
      (LittleEndian.encode 2 of.event.event.toNat ++ rest).take 2 =
        LittleEndian.encode 2 of.event.event.toNat := List.take_left' (by simp)
  have value_bytes (rest : Bytes) :
      (LittleEndian.encode 4 of.event.value.toUInt32.toNat ++ rest).take 4 =
        LittleEndian.encode 4 of.event.value.toUInt32.toNat := List.take_left' (by simp)
  have behind (rest : Bytes) :
      (LittleEndian.encode 2 of.event.event.toNat ++ rest).drop 2 = rest :=
    List.drop_left' (by simp)
  rw [decodeEvent, MonitorFrame.bytes, List.append_assoc, code_bytes, behind, value_bytes, code,
    value]
  rfl

theorem cStr_address (of : SocketEvent) : cStr of.address = of.address := by
  apply List.takeWhile_eq_self_iff.mpr
  intro byte member
  simp only [ne_eq, decide_eq_true_eq]
  rintro rfl
  exact of.no_nul member

end Monitor

end Zmqcpp
