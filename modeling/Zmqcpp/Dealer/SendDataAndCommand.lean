import Zmqcpp.Client.SendData
import Zmqcpp.Shared.Transition

set_option autoImplicit false

namespace Zmqcpp

open Multipart ZmqClientBase

namespace ZmqClientDealer

def sendDataAndCommandString (sock : Outbox Bytes) (message command : Bytes)
    (first second : SendEnv) : Outbox Bytes × Bool :=
  let begun := sendDataString sock first command zmqSndmore
  if !begun.2 then (begun.1, false)
  else
    let ended := sendDataString begun.1 second message 0
    if !ended.2 then (ended.1, false) else (ended.1, true)

def sendDataAndCommandPointer (sock : Outbox Bytes) (data command : Buffer)
    (first second : SendEnv) : Outbox Bytes × Bool :=
  let begun := sendDataPointer sock first command zmqSndmore
  if !begun.2 then (begun.1, false)
  else
    let ended := sendDataPointer begun.1 second data 0
    if !ended.2 then (ended.1, false) else (ended.1, true)

inductive Call
  | string (message command : Bytes) (first second : SendEnv)
  | pointer (data command : Buffer) (first second : SendEnv)

def Call.run (sock : Outbox Bytes) : Call → Outbox Bytes × Bool
  | .string message command first second =>
      sendDataAndCommandString sock message command first second
  | .pointer data command first second =>
      sendDataAndCommandPointer sock data command first second

def Call.frames : Call → List Bytes
  | .string message command _ _ => [command, message]
  | .pointer data command _ _ => [command.bytes, data.bytes]

def step (sock : Outbox Bytes) (call : Call) : Option (Outbox Bytes) := some (call.run sock).1

/-- A call that returned true has completed its message, a call that returned false has not and
has left no frame of an open one. -/
def Whole (sock : Outbox Bytes) (frames : List Bytes) (result : Outbox Bytes × Bool) : Prop :=
  (result.2 = true ↔ result.1.sent = sock.sent ++ [frames]) ∧
    (result.2 = false → result.1.frames = [])

def AllOrNothing (sock : Outbox Bytes) (call : Call) : Prop :=
  Whole sock call.frames (call.run sock)

theorem sendDataString_sock (sock : Outbox Bytes) (env : SendEnv) (data : Bytes) (flags : UInt32) :
    (sendDataString sock env data flags).1 =
      if env.takes then sock.put data (flags &&& zmqSndmore != 0) else sock :=
  sendBuffer_sock sock env data flags

theorem sendDataPointer_sock (sock : Outbox Bytes) (env : SendEnv) (data : Buffer)
    (flags : UInt32) :
    (sendDataPointer sock env data flags).1 =
      if env.takes then sock.put data.bytes (flags &&& zmqSndmore != 0) else sock :=
  sendBuffer_sock sock env data.bytes flags

-- Two sends, each of which may take its frame and report success or failure.
def twoSends (sock : Outbox Bytes) (command message : Bytes) (takes rc takes' rc' : Bool) :
    Outbox Bytes × Bool :=
  let begun := if takes then sock.put command true else sock
  if rc then (if takes' then begun.put message false else begun, rc') else (begun, false)

theorem whole_twoSends {sock : Outbox Bytes} (none_open : sock.frames = [])
    (command message : Bytes) (takes rc takes' rc' : Bool) :
    Whole sock [command, message] (twoSends sock command message takes rc takes' rc') ↔
      if takes then rc = true ∧ takes' = true ∧ rc' = true else rc = false ∨ rc' = false := by
  cases takes <;> cases rc <;> cases takes' <;> cases rc' <;> simp [Whole, twoSends, none_open]

theorem Whole.closed {sock : Outbox Bytes} (none_open : sock.frames = []) {command message : Bytes}
    {takes rc takes' rc' : Bool}
    (whole : Whole sock [command, message] (twoSends sock command message takes rc takes' rc')) :
    (twoSends sock command message takes rc takes' rc').1.frames = [] := by
  rw [whole_twoSends none_open] at whole
  revert whole
  cases takes <;> cases rc <;> cases takes' <;> cases rc' <;> simp [twoSends, none_open]

theorem sndmore_more : (zmqSndmore &&& zmqSndmore != 0) = true := by decide

theorem sndmore_last : (0 &&& zmqSndmore != 0) = false := by decide

theorem run_string (sock : Outbox Bytes) (message command : Bytes) (first second : SendEnv) :
    (Call.string message command first second).run sock =
      twoSends sock command message first.takes
        (first.takes && decide (FitsInt command.length) || first.timesOut && decide (command = []))
        second.takes
        (second.takes && decide (FitsInt message.length) ||
          second.timesOut && decide (message = [])) := by
  simp only [Call.run, sendDataAndCommandString, sendDataString_result, sendDataString_sock,
    sndmore_more, sndmore_last, twoSends]
  generalize (first.takes && _ || _) = rc
  generalize (second.takes && _ || _) = rc'
  cases rc <;> cases rc' <;> rfl

theorem run_pointer (sock : Outbox Bytes) (data command : Buffer) (first second : SendEnv) :
    (Call.pointer data command first second).run sock =
      twoSends sock command.bytes data.bytes first.takes
        (first.timesOut && decide (command.bytes ≠ [])) second.takes
        (second.timesOut && decide (data.bytes ≠ [])) := by
  simp only [Call.run, sendDataAndCommandPointer, sendDataPointer_result, sendDataPointer_sock,
    sndmore_more, sndmore_last, twoSends]
  generalize (first.timesOut && _) = rc
  generalize (second.timesOut && _) = rc'
  cases rc <;> cases rc' <;> rfl

theorem AllOrNothing.closed {sock : Outbox Bytes} {call : Call} (none_open : sock.frames = [])
    (whole : AllOrNothing sock call) : (call.run sock).1.frames = [] := by
  unfold AllOrNothing at whole
  cases call with
  | string =>
      rw [run_string] at whole ⊢
      exact whole.closed none_open
  | pointer =>
      rw [run_pointer] at whole ⊢
      exact whole.closed none_open

end ZmqClientDealer

end Zmqcpp
