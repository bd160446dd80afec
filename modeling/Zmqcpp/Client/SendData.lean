import Zmqcpp.Client.State
import Zmqcpp.Socket.Send

set_option autoImplicit false

namespace Zmqcpp

open Multipart

/-- What one SendData call meets: the transport state, whether NewFrontSockets gives it an open
socket, and the zmq_send on that socket. -/
structure SendEnv where
  transportState : EnumTransportState := .transported
  front : Bool := true
  outcome : SendOutcome := .accepted .eagain
  deriving DecidableEq, Repr

namespace SendEnv

def reaches (env : SendEnv) : Bool :=
  decide (¬env.transportState < .transporting) && env.front

def takes (env : SendEnv) : Bool :=
  env.reaches && match env.outcome with
    | .accepted _ => true
    | .refused _ => false

def timesOut (env : SendEnv) : Bool :=
  env.reaches && decide (env.outcome = .refused .eagain)

end SendEnv

namespace ZmqClientBase

-- SendData(buf, len, flags, sendSize) with sendSize 0, as both public overloads call it.
def sendBuffer (sock : Outbox Bytes) (env : SendEnv) (buf : Bytes) (flags : UInt32) :
    Outbox Bytes × Bool × Int :=
  if env.transportState < .transporting then (sock, false, 0)
  else if !env.front then (sock, false, 0)
  else Socket.send sock buf flags env.outcome 0

def sendDataString (sock : Outbox Bytes) (env : SendEnv) (data : Bytes) (flags : UInt32) :
    Outbox Bytes × Bool :=
  let result := sendBuffer sock env data flags
  (result.1, if !result.2.1 || result.2.2 != data.length then false else true)

def sendDataPointer (sock : Outbox Bytes) (env : SendEnv) (data : Buffer) (flags : UInt32) :
    Outbox Bytes × Bool :=
  let result := sendBuffer sock env data.bytes flags
  (result.1, if !result.2.1 || !(result.2.2 != data.bytes.length) then false else true)

theorem sendBuffer_stopped {sock : Outbox Bytes} {env : SendEnv} {buf : Bytes} {flags : UInt32}
    (stopped : env.reaches = false) : sendBuffer sock env buf flags = (sock, false, 0) := by
  unfold sendBuffer
  split_ifs with low missing
  · rfl
  · rfl
  · simp only [Bool.not_eq_true, Bool.not_eq_false'] at missing
    simp [SendEnv.reaches, low, missing] at stopped

theorem sendBuffer_reaching {sock : Outbox Bytes} {env : SendEnv} {buf : Bytes} {flags : UInt32}
    (reaching : env.reaches = true) :
    sendBuffer sock env buf flags = Socket.send sock buf flags env.outcome 0 := by
  simp only [SendEnv.reaches, Bool.and_eq_true, decide_eq_true_eq] at reaching
  rw [sendBuffer, if_neg reaching.1, if_neg (by simp [reaching.2])]

theorem send_sock (sock : Outbox Bytes) (buf : Bytes) (flags : UInt32) (outcome : SendOutcome) :
    (Socket.send sock buf flags outcome 0).1 =
      match outcome with
      | .accepted _ => sock.put buf (flags &&& zmqSndmore != 0)
      | .refused _ => sock := by
  cases outcome <;> simp only [Socket.send] <;> split_ifs <;> rfl

theorem send_accepted_result (sock : Outbox Bytes) {buf : Bytes} (flags : UInt32) (errno : Errno)
    (fits : FitsInt buf.length) :
    (Socket.send sock buf flags (.accepted errno) 0).2 = (true, (buf.length : Int)) := by
  simp only [Socket.send, zmqSend_accepted fits, Int.natCast_nonneg, if_true]

-- The size of a frame of 2 ^ 31 bytes or more is never reported.
theorem send_large_result (sock : Outbox Bytes) {buf : Bytes} (flags : UInt32)
    (outcome : SendOutcome) (large : ¬FitsInt buf.length) :
    (Socket.send sock buf flags outcome 0).2.2 ≠ buf.length := by
  have less := zmqSend_large large outcome
  have nonempty : 0 < buf.length := lt_of_lt_of_le (by decide) (not_lt.mp large)
  have positive : (0 : Int) < buf.length := by exact_mod_cast nonempty
  simp only [Socket.send]
  split_ifs
  · exact ne_of_lt less
  · exact ne_of_lt positive
  · exact ne_of_lt positive

theorem send_refused_result (sock : Outbox Bytes) (buf : Bytes) (flags : UInt32) (errno : Errno) :
    (Socket.send sock buf flags (.refused errno) 0).2 = (decide (errno = .eagain), 0) := by
  by_cases timedOut : errno = .eagain <;> simp [Socket.send, zmqSend, SendOutcome.errno, timedOut]

theorem zero_ne_length (data : Bytes) :
    ((0 : Int) != data.length) = decide (data ≠ []) := by
  cases data with
  | nil => rfl
  | cons first rest =>
      have positive : (0 : Int) ≠ rest.length + 1 := by omega
      simp [positive]

-- The sizes agree when the frame was accepted as a whole, or when an empty one timed out.
theorem sendDataString_result (sock : Outbox Bytes) (env : SendEnv) (data : Bytes)
    (flags : UInt32) :
    (sendDataString sock env data flags).2 =
      (env.takes && decide (FitsInt data.length) || env.timesOut && decide (data = [])) := by
  cases reaching : env.reaches with
  | false =>
      simp [sendDataString, sendBuffer_stopped reaching, SendEnv.takes, SendEnv.timesOut, reaching]
  | true =>
      simp only [sendDataString, sendBuffer_reaching reaching, SendEnv.takes, SendEnv.timesOut,
        reaching, Bool.true_and]
      cases env.outcome with
      | accepted errno =>
          by_cases fits : FitsInt data.length
          · simp [send_accepted_result sock flags errno fits, fits]
          · simp [send_large_result sock flags (.accepted errno) fits, fits]
      | refused errno =>
          rw [send_refused_result]
          dsimp only
          rw [zero_ne_length]
          by_cases timedOut : errno = .eagain <;> simp [timedOut]

-- The comparison of the sizes is the other way round.
theorem sendDataPointer_result (sock : Outbox Bytes) (env : SendEnv) (data : Buffer)
    (flags : UInt32) :
    (sendDataPointer sock env data flags).2 = (env.timesOut && decide (data.bytes ≠ [])) := by
  cases reaching : env.reaches with
  | false => simp [sendDataPointer, sendBuffer_stopped reaching, SendEnv.timesOut, reaching]
  | true =>
      simp only [sendDataPointer, sendBuffer_reaching reaching, SendEnv.timesOut, reaching,
        Bool.true_and]
      cases env.outcome with
      | accepted errno => simp [send_accepted_result sock flags errno data.fits]
      | refused errno =>
          rw [send_refused_result]
          dsimp only
          rw [zero_ne_length]
          by_cases timedOut : errno = .eagain <;> simp [timedOut]

theorem sendBuffer_sock (sock : Outbox Bytes) (env : SendEnv) (buf : Bytes) (flags : UInt32) :
    (sendBuffer sock env buf flags).1 =
      if env.takes then sock.put buf (flags &&& zmqSndmore != 0) else sock := by
  cases reaching : env.reaches with
  | false => simp [sendBuffer_stopped reaching, SendEnv.takes, reaching]
  | true =>
      rw [sendBuffer_reaching reaching, send_sock]
      cases outcome : env.outcome <;> simp [SendEnv.takes, reaching, outcome]

/-- The call returned true exactly when zmq_send has taken the payload, as one frame. -/
def Truthful (sock : Outbox Bytes) (data : Buffer) (flags : UInt32) (result : Outbox Bytes × Bool) :
    Prop :=
  result.2 = true ↔ result.1 = sock.put data.bytes (flags &&& zmqSndmore != 0)

theorem truthful_iff {sock : Outbox Bytes} {data : Buffer} {flags : UInt32}
    {result : Outbox Bytes × Bool} {takes : Bool}
    (after : result.1 =
      if takes then sock.put data.bytes (flags &&& zmqSndmore != 0) else sock) :
    Truthful sock data flags result ↔ result.2 = takes := by
  rw [Truthful, after]
  cases takes with
  | true => simp
  | false =>
      have unchanged := (sock.put_ne data.bytes (flags &&& zmqSndmore != 0)).symm
      simp [unchanged]

theorem timesOut_of_takes {env : SendEnv} (takes : env.takes = true) : env.timesOut = false := by
  cases outcome : env.outcome with
  | accepted errno => simp [SendEnv.timesOut, outcome]
  | refused errno => simp [SendEnv.takes, outcome] at takes

/-- Each overload's result is the truth, and the two results are the same, exactly when neither
a time-out nor an accepted frame is taken for its opposite. -/
theorem send_data_truth (sock : Outbox Bytes) (env : SendEnv) (data : Buffer) (flags : UInt32) :
    (Truthful sock data flags (sendDataString sock env data.bytes flags) ↔
      ¬(env.timesOut = true ∧ data.bytes = [])) ∧
    (Truthful sock data flags (sendDataPointer sock env data flags) ↔
      env.takes = false ∧ ¬(env.timesOut = true ∧ data.bytes ≠ [])) ∧
    ((sendDataString sock env data.bytes flags).2 = (sendDataPointer sock env data flags).2 ↔
      env.takes = false ∧ env.timesOut = false) := by
  rw [truthful_iff (sendBuffer_sock sock env data.bytes flags),
    truthful_iff (sendBuffer_sock sock env data.bytes flags), sendDataString_result,
    sendDataPointer_result]
  cases takes : env.takes with
  | true => simp [timesOut_of_takes takes, data.fits]
  | false => by_cases empty : data.bytes = [] <;> simp [empty]

-- An empty string that times out is reported as sent, and a pointer that is sent is reported as
-- not sent.
theorem send_data_untrue :
    (∃ env : SendEnv, env.outcome = .refused .eagain ∧
      sendDataString {} env [] 0 = ({}, true) ∧
      ¬Truthful {} ⟨[], by decide⟩ 0 (sendDataString {} env [] 0)) ∧
    ∃ (env : SendEnv) (data : Buffer), data.bytes = [1] ∧
      sendDataPointer {} env data 0 = ({ sent := [[[1]]] }, false) ∧
      sendDataString {} env data.bytes 0 = ({ sent := [[[1]]] }, true) ∧
      ¬Truthful {} data 0 (sendDataPointer {} env data 0) := by
  refine ⟨⟨{ outcome := .refused .eagain }, rfl, by decide, fun truthful => ?_⟩,
    {}, ⟨[1], by decide⟩, rfl, by decide, by decide, fun truthful => ?_⟩
  · exact absurd (truthful.mp (by decide)) (by decide)
  · exact absurd (truthful.mpr (by decide)) (by decide)

end ZmqClientBase

end Zmqcpp
