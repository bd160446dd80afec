import Zmqcpp.Engine.Wire
import Zmqcpp.Shared.Transition

set_option autoImplicit false

namespace Zmqcpp

open Wire Transition

inductive Mechanism
  | null
  | plain
  | curve
  deriving DecidableEq, Repr

namespace Mechanism

/-- The name in the greeting, in 20 bytes. -/
def name : Mechanism → List UInt8
  | .null => [78, 85, 76, 76] ++ List.replicate 16 0
  | .plain => [80, 76, 65, 73, 78] ++ List.replicate 15 0
  | .curve => [67, 85, 82, 86, 69] ++ List.replicate 15 0

theorem name_length (m : Mechanism) : m.name.length = 20 := by
  cases m <;> rfl

theorem name_injective {m other : Mechanism} (same : m.name = other.name) : m = other := by
  cases m <;> cases other <;> first | rfl | exact absurd same (by decide)

end Mechanism

inductive Protocol
  | unversioned
  | zmtp1
  | zmtp2
  | zmtp3
  deriving DecidableEq, Repr

inductive Outcome
  | rejected
  -- By error() after a read, or by terminate().
  | disconnected
  | agreed (protocol : Protocol)
  deriving DecidableEq, Repr

structure EngineOptions where
  type : UInt8
  mechanism : Mechanism := .null
  identitySize : Nat := 0
  zapEnabled : Bool := false
  libsodium : Bool := false
  deriving DecidableEq, Repr

def signatureSize : Nat := 10

def v2GreetingSize : Nat := 12

def v3GreetingSize : Nat := 64

/-- stream_engine_t while it is handshaking, up to the end of its greeting. -/
structure Handshake where
  options : EngineOptions
  -- What is written of greeting_send, and what is left from outpos on.
  written : List UInt8 := []
  out : List UInt8
  pollout : Bool := true
  greetingSize : Nat := v2GreetingSize
  recv : List UInt8 := []
  outcome : Option Outcome := none
  deriving DecidableEq, Repr

namespace Handshake

def signature (options : EngineOptions) : List UInt8 :=
  0xff :: putUint64 (options.identitySize + 1) ++ [0x7f]

def plug (options : EngineOptions) : Handshake := { options, out := signature options }

def put (h : Handshake) (bytes : List UInt8) : Handshake :=
  { h with out := h.out ++ bytes, pollout := h.pollout || h.out = [] }

-- ZMTP/1.0 and ZMTP/2.0 peers get the socket type, others the minor version and the mechanism.
def putRest (h : Handshake) : Handshake :=
  let revision := h.recv.getD 10 0
  if revision = 0 || revision = 1 then h.put [h.options.type]
  else
    { h.put (0 :: h.options.mechanism.name ++ List.replicate 32 0) with
      greetingSize := v3GreetingSize }

def versioned (recv : List UInt8) : Bool := recv.headD 0 = 0xff && recv.getD 9 0 &&& 1 ≠ 0

def protocol (recv : List UInt8) : Protocol :=
  if versioned recv then
    let revision := recv.getD 10 0
    if revision = 0 then .zmtp1 else if revision = 1 then .zmtp2 else .zmtp3
  else .unversioned

def supports (options : EngineOptions) (name : List UInt8) : Bool :=
  name = options.mechanism.name && (options.mechanism ≠ .curve || options.libsodium)

-- The older protocols have no security.
def judge (options : EngineOptions) (recv : List UInt8) : Outcome :=
  match protocol recv with
  | .zmtp3 =>
      if supports options ((recv.drop 12).take 20) then .agreed .zmtp3 else .rejected
  | older => if options.zapEnabled then .rejected else .agreed older

def finish (h : Handshake) : Handshake :=
  match judge h.options h.recv with
  | .agreed protocol =>
      { h with outcome := some (.agreed protocol), pollout := h.pollout || h.out = [] }
  | outcome => { h with outcome := some outcome }

def disconnect (h : Handshake) : Handshake := { h with outcome := some .disconnected }

-- The peer is using a versioned protocol.
def acknowledge (h : Handshake) : Handshake :=
  let h := if (h.written ++ h.out).length = signatureSize then h.put [3] else h
  if signatureSize < h.recv.length && (h.written ++ h.out).length = signatureSize + 1 then h.putRest
  else h

/-- One turn of the loop of handshake, with what read has returned: nothing at the end of file. -/
def receive (h : Handshake) (data : List UInt8) : Handshake :=
  if data = [] then h.disconnect
  else
    let h := { h with recv := h.recv ++ data }
    if h.recv.headD 0 ≠ 0xff then h.finish
    else if h.recv.length < signatureSize then h
    else if h.recv.getD 9 0 &&& 1 = 0 then h.finish
    else
      let h := h.acknowledge
      if h.recv.length < h.greetingSize then h else h.finish

-- out_event up to the end of what handshake has put; `none` is a write that fails.
def outEvent (h : Handshake) (nbytes : Option Nat) : Handshake :=
  if h.out = [] then h
  else
    match nbytes with
    | none => { h with pollout := false }
    | some nbytes =>
        let left := h.out.drop nbytes
        { h with
          written := h.written ++ h.out.take nbytes
          out := left
          pollout := h.pollout && !(h.outcome.isNone && left.isEmpty) }

/-- The engine has been deleted, which closes its side of the connection. -/
def closed (h : Handshake) : Bool :=
  h.outcome = some .rejected || h.outcome = some .disconnected

inductive Action
  | read (data : List UInt8)
  | readError
  | outEvent (nbytes : Option Nat)
  | restartOutput (nbytes : Option Nat)
  -- By the session, or by an error of the engine after its handshake.
  | terminate
  deriving DecidableEq, Repr

def step (h : Handshake) : Action → Option Handshake
  | .read data =>
      if h.outcome = none ∧ h.recv.length + data.length ≤ h.greetingSize then
        some (h.receive data)
      else none
  | .readError => if h.outcome = none then some h.disconnect else none
  | .outEvent nbytes => if h.pollout ∧ h.closed = false then some (h.outEvent nbytes) else none
  -- The session has messages to send; output_stopped is not set yet.
  | .restartOutput nbytes => if h.closed = false then some (h.outEvent nbytes) else none
  | .terminate => if h.closed = false then some h.disconnect else none

def Action.writeFails : Action → Bool
  | .outEvent none | .restartOutput none => true
  | _ => false

def Action.cuts : Action → Bool
  | .read [] | .readError | .terminate => true
  | _ => false

def sizeFor (recv : List UInt8) : Nat :=
  if 10 < recv.length && protocol recv = .zmtp3 then v3GreetingSize else v2GreetingSize

def undecided (recv : List UInt8) : Bool :=
  recv.isEmpty || recv.headD 0 = 0xff &&
    (recv.length < 10 || versioned recv && recv.length < sizeFor recv)

/-- What a peer with these bytes is told of the protocol. -/
def remainder (options : EngineOptions) (recv : List UInt8) : List UInt8 :=
  match protocol recv with
  | .zmtp3 => 0 :: options.mechanism.name ++ List.replicate 32 0
  | _ => [options.type]

/-- The greeting that a peer has got when these bytes of its own have come. -/
def answer (options : EngineOptions) (recv : List UInt8) : List UInt8 :=
  signature options ++
    if versioned recv && 10 ≤ recv.length then
      3 :: if recv.length = 10 then [] else remainder options recv
    else []

/-- What has been put is the answer to the bytes seen so far. -/
structure Prepared (h : Handshake) (seen : List UInt8) : Prop where
  bytes : h.written ++ h.out = answer h.options seen
  size : h.greetingSize = sizeFor seen

/-- All that an engine does is determined by the bytes that have come. -/
structure Sound (h : Handshake) : Prop extends h.Prepared h.recv where
  within : h.recv.length ≤ sizeFor h.recv
  waits : undecided h.recv = true → h.outcome = none ∨ h.outcome = some .disconnected
  verdict : undecided h.recv = false →
    h.outcome = some (judge h.options h.recv) ∨ h.outcome = some .disconnected

def Polled (h : Handshake) : Prop := h.out ≠ [] → h.pollout = true

theorem signature_length (options : EngineOptions) : (signature options).length = 10 := rfl

theorem remainder_pos (options : EngineOptions) (recv : List UInt8) :
    0 < (remainder options recv).length := by
  unfold remainder
  split <;> simp

theorem versioned_iff (recv : List UInt8) :
    versioned recv = true ↔ recv.headD 0 = 0xff ∧ recv.getD 9 0 &&& 1 ≠ 0 := by
  simp only [versioned, Bool.and_eq_true, decide_eq_true_eq]

theorem headD_append {recv : List UInt8} (some_bytes : recv ≠ []) (data : List UInt8) :
    (recv ++ data).headD 0 = recv.headD 0 := by
  cases recv with
  | nil => exact absurd rfl some_bytes
  | cons first rest => rfl

theorem getD_append {recv : List UInt8} {i : Nat} (within : i < recv.length) (data : List UInt8) :
    (recv ++ data).getD i 0 = recv.getD i 0 := by
  simp [List.getD_eq_getElem?_getD, List.getElem?_append_left within]

theorem versioned_append {recv : List UInt8} (enough : 10 ≤ recv.length) (data : List UInt8) :
    versioned (recv ++ data) = versioned recv := by
  have some_bytes : recv ≠ [] := by
    rintro rfl
    simp at enough
  rw [versioned, versioned, headD_append some_bytes, getD_append enough]

theorem protocol_append {recv : List UInt8} (enough : 11 ≤ recv.length) (data : List UInt8) :
    protocol (recv ++ data) = protocol recv := by
  rw [protocol, protocol, versioned_append (by omega), getD_append enough]

theorem sizeFor_append {recv : List UInt8} (enough : 11 ≤ recv.length) (data : List UInt8) :
    sizeFor (recv ++ data) = sizeFor recv := by
  have longer : 10 < (recv ++ data).length := by
    rw [List.length_append]
    omega
  have before : 10 < recv.length := enough
  simp only [sizeFor, longer, before, protocol_append enough]

theorem sizeFor_short {recv : List UInt8} (short : recv.length ≤ 10) : sizeFor recv = 12 := by
  have not_long : ¬10 < recv.length := by omega
  simp [sizeFor, not_long, v2GreetingSize]

theorem sizeFor_unversioned {recv : List UInt8} (old : versioned recv = false) :
    sizeFor recv = 12 := by
  simp [sizeFor, protocol, old, v2GreetingSize]

theorem sizeFor_ge (recv : List UInt8) : 12 ≤ sizeFor recv := by
  unfold sizeFor
  split
  next => exact Nat.le_add_left 12 52
  next => exact Nat.le_refl 12

theorem sizeFor_le_append (recv data : List UInt8) : sizeFor recv ≤ sizeFor (recv ++ data) := by
  by_cases short : recv.length ≤ 10
  · rw [sizeFor_short short]
    exact sizeFor_ge _
  · rw [sizeFor_append (by omega)]

theorem answer_short (options : EngineOptions) {recv : List UInt8} (short : recv.length < 10) :
    answer options recv = signature options := by
  have not_enough : ¬10 ≤ recv.length := by omega
  simp [answer, not_enough]

theorem answer_unversioned (options : EngineOptions) {recv : List UInt8}
    (old : versioned recv = false) : answer options recv = signature options := by
  simp [answer, old]

theorem answer_version (options : EngineOptions) {recv : List UInt8}
    (peer : versioned recv = true) (length : recv.length = 10) :
    answer options recv = signature options ++ [3] := by
  simp [answer, peer, length]

theorem answer_whole (options : EngineOptions) {recv : List UInt8}
    (peer : versioned recv = true) (long : 10 < recv.length) :
    answer options recv = signature options ++ 3 :: remainder options recv := by
  have enough : 10 ≤ recv.length := by omega
  have not_ten : recv.length ≠ 10 := by omega
  simp [answer, peer, enough, not_ten]

theorem remainder_append (options : EngineOptions) {recv : List UInt8} (enough : 11 ≤ recv.length)
    (data : List UInt8) : remainder options (recv ++ data) = remainder options recv := by
  rw [remainder, remainder, protocol_append enough]

theorem Prepared.put {h : Handshake} {seen : List UInt8} (size : h.greetingSize = sizeFor seen)
    {bytes : List UInt8} (whole : h.written ++ h.out ++ bytes = answer h.options seen) :
    (h.put bytes).Prepared seen := by
  refine ⟨?_, size⟩
  exact (List.append_assoc _ _ _).symm.trans whole

theorem putRest_eq {h : Handshake} (peer : versioned h.recv = true) (long : 10 < h.recv.length)
    (size : h.greetingSize = v2GreetingSize) :
    h.putRest =
      { h.put (remainder h.options h.recv) with greetingSize := sizeFor h.recv } := by
  -- The peers of both older revisions get the same rest, in a greeting of the same size.
  have older (old : h.recv.getD 10 0 = 0 ∨ h.recv.getD 10 0 = 1)
      (before : protocol h.recv = .zmtp1 ∨ protocol h.recv = .zmtp2) :
      h.putRest =
        { h.put (remainder h.options h.recv) with greetingSize := sizeFor h.recv } := by
    have put_type : h.putRest = h.put [h.options.type] := by
      rcases old with first | second
      · simp only [putRest, first, decide_true, Bool.true_or, if_true]
      · simp only [putRest, second, decide_true, Bool.or_true, if_true]
    have short : sizeFor h.recv = v2GreetingSize := by
      rcases before with same | same <;> simp [sizeFor, same]
    have told : remainder h.options h.recv = [h.options.type] := by
      rcases before with same | same <;> simp only [remainder, same]
    rw [put_type, told, short, ← size]
    rfl
  by_cases first : h.recv.getD 10 0 = 0
  · exact older (.inl first) (.inl (by simp only [protocol, peer, first, if_true]))
  · by_cases second : h.recv.getD 10 0 = 1
    · refine older (.inr second) (.inr ?_)
      simp only [protocol, peer, second, if_true]
      rfl
    · have new : protocol h.recv = .zmtp3 := by
        simp only [protocol, peer, first, second, if_true, if_false]
      have full : sizeFor h.recv = v3GreetingSize := by simp [sizeFor, new, long]
      simp only [putRest, first, second, decide_false, Bool.or_false, Bool.false_eq_true, if_false,
        remainder, new, full]

theorem Prepared.putRest {h : Handshake} (peer : versioned h.recv = true)
    (long : 10 < h.recv.length) (size : h.greetingSize = v2GreetingSize)
    (bytes : h.written ++ h.out = signature h.options ++ [3]) : h.putRest.Prepared h.recv := by
  have whole : h.written ++ h.out ++ remainder h.options h.recv = answer h.options h.recv := by
    rw [bytes, answer_whole h.options peer long, List.append_assoc]
    rfl
  have put := Prepared.put (h := { h with greetingSize := sizeFor h.recv }) rfl whole
  rw [putRest_eq peer long size]
  exact put

/-- What acknowledge leaves is the answer to the bytes that have come meanwhile too. -/
theorem Prepared.acknowledge {h : Handshake} {seen data : List UInt8} (prepared : h.Prepared seen)
    (came : h.recv = seen ++ data) (some_data : data ≠ []) (peer : versioned h.recv = true)
    (enough : 10 ≤ h.recv.length) : h.acknowledge.Prepared h.recv := by
  have grown : h.recv.length = seen.length + data.length := by rw [came, List.length_append]
  have pos : 0 < data.length := List.length_pos_iff.mpr some_data
  by_cases none_put : seen.length < 10
  · have bytes := prepared.bytes.trans (answer_short h.options none_put)
    have size : h.greetingSize = v2GreetingSize :=
      prepared.size.trans (sizeFor_short (by omega))
    have length : (h.written ++ h.out).length = signatureSize := by rw [bytes]; rfl
    have put_bytes : (h.put [3]).written ++ (h.put [3]).out = signature h.options ++ [3] := by
      rw [← bytes, List.append_assoc]
      rfl
    have put_length : ((h.put [3]).written ++ (h.put [3]).out).length = signatureSize + 1 := by
      rw [put_bytes]
      rfl
    by_cases long : 10 < h.recv.length
    · have same : h.acknowledge = (h.put [3]).putRest := by
        simp only [Handshake.acknowledge, length, if_true, put_length, decide_true, Bool.and_true]
        exact if_pos (decide_eq_true long)
      rw [same]
      exact Prepared.putRest peer long size put_bytes
    · have ten : h.recv.length = 10 := by omega
      have same : h.acknowledge = h.put [3] := by
        simp only [Handshake.acknowledge, length, if_true]
        have not_long : ¬signatureSize < (h.put [3]).recv.length := long
        exact if_neg (by simp [not_long])
      rw [same]
      refine Prepared.put (size.trans (sizeFor_short (by omega)).symm) ?_
      rw [bytes, answer_version h.options peer ten]
  · have old_peer : versioned seen = true := by
      rw [← peer, came, versioned_append (by omega)]
    by_cases ten : seen.length = 10
    · have bytes := prepared.bytes.trans (answer_version h.options old_peer ten)
      have size : h.greetingSize = v2GreetingSize :=
        prepared.size.trans (sizeFor_short (by omega))
      have length : (h.written ++ h.out).length = signatureSize + 1 := by rw [bytes]; rfl
      have long : 10 < h.recv.length := by omega
      have same : h.acknowledge = h.putRest := by
        simp [Handshake.acknowledge, length, signatureSize, long]
      rw [same]
      exact Prepared.putRest peer long size bytes
    · have old_long : 10 < seen.length := by omega
      have bytes := prepared.bytes.trans (answer_whole h.options old_peer old_long)
      have some_rest := remainder_pos h.options seen
      have length : (h.written ++ h.out).length = 11 + (remainder h.options seen).length := by
        rw [bytes, List.length_append, signature_length, List.length_cons]
        omega
      have same : h.acknowledge = h := by
        have not_first : (h.written ++ h.out).length ≠ signatureSize := by
          rw [length, signatureSize]
          omega
        have not_second : (h.written ++ h.out).length ≠ signatureSize + 1 := by
          rw [length, signatureSize]
          omega
        simp only [Handshake.acknowledge, not_first, if_false, not_second, decide_false,
          Bool.and_false, Bool.false_eq_true]
      rw [same]
      refine ⟨?_, ?_⟩
      · rw [bytes, answer_whole h.options peer (by omega), came,
          remainder_append h.options (by omega)]
      · rw [prepared.size, came, sizeFor_append (by omega)]

-- What is put is not written yet, and decides nothing.
theorem acknowledge_kept (h : Handshake) : h.acknowledge.recv = h.recv ∧
    h.acknowledge.options = h.options ∧ h.acknowledge.outcome = h.outcome ∧
      h.acknowledge.written = h.written := by
  simp only [Handshake.acknowledge, Handshake.putRest]
  repeat' split
  all_goals exact ⟨rfl, rfl, rfl, rfl⟩

theorem finish_kept (h : Handshake) : h.finish.recv = h.recv ∧ h.finish.options = h.options ∧
    h.finish.written = h.written ∧ h.finish.out = h.out ∧
      h.finish.greetingSize = h.greetingSize := by
  unfold Handshake.finish
  split <;> exact ⟨rfl, rfl, rfl, rfl, rfl⟩

theorem finish_outcome (h : Handshake) : h.finish.outcome = some (judge h.options h.recv) := by
  unfold Handshake.finish
  split
  next agreed => rw [agreed]
  next => rfl

theorem judge_ne (options : EngineOptions) (recv : List UInt8) :
    judge options recv ≠ .disconnected := by
  unfold judge
  split <;> split <;> simp

theorem Prepared.finish {h : Handshake} (prepared : h.Prepared h.recv)
    (within : h.recv.length ≤ sizeFor h.recv) (decided : undecided h.recv = false) :
    h.finish.Sound ∧ h.finish.recv = h.recv ∧ h.finish.options = h.options := by
  obtain ⟨recv, options, written, out, size⟩ := finish_kept h
  refine ⟨⟨⟨?_, ?_⟩, ?_, fun yet => ?_, fun _ => .inl ?_⟩, recv, options⟩
  · rw [recv, options, written, out]
    exact prepared.bytes
  · rw [recv, size]
    exact prepared.size
  · rw [recv]
    exact within
  · rw [recv, decided] at yet
    cases yet
  · rw [finish_outcome, recv, options]

theorem undecided_iff (recv : List UInt8) : undecided recv = true ↔ recv = [] ∨
    recv.headD 0 = 0xff ∧
      (recv.length < 10 ∨ versioned recv = true ∧ recv.length < sizeFor recv) := by
  simp [undecided]

theorem decided_iff (recv : List UInt8) : undecided recv = false ↔ recv ≠ [] ∧
    (recv.headD 0 = 0xff →
      10 ≤ recv.length ∧ (versioned recv = true → sizeFor recv ≤ recv.length)) := by
  rw [Bool.eq_false_iff, ne_eq, undecided_iff]
  constructor
  · intro decided
    refine ⟨fun nothing => decided (.inl nothing), fun head => ⟨?_, fun peer => ?_⟩⟩
    · by_contra short
      exact decided (.inr ⟨head, .inl (Nat.lt_of_not_le short)⟩)
    · by_contra short
      exact decided (.inr ⟨head, .inr ⟨peer, Nat.lt_of_not_le short⟩⟩)
  · rintro ⟨some_bytes, known⟩ (nothing | ⟨head, short | ⟨peer, short⟩⟩)
    · exact some_bytes nothing
    · exact Nat.not_lt.mpr (known head).1 short
    · exact Nat.not_lt.mpr ((known head).2 peer) short

theorem Sound.not_decided {h : Handshake} (sound : h.Sound) (waiting : h.outcome = none) :
    undecided h.recv = true := by
  by_contra decided
  have known := sound.verdict (by simpa using decided)
  simp [waiting] at known

-- Until the tenth byte has come nothing is put, whatever the peer is.
theorem Sound.unanswered {h : Handshake} (sound : h.Sound) (short : h.recv.length < 10)
    {recv : List UInt8} (still : recv.length < 10 ∨ versioned recv = false) :
    ({ h with recv } : Handshake).Prepared recv := by
  have before := answer_short h.options short
  have size_before := sizeFor_short (Nat.le_of_lt short)
  rcases still with short_yet | old
  · refine ⟨?_, ?_⟩
    · exact sound.bytes.trans (before.trans (answer_short h.options short_yet).symm)
    · exact sound.size.trans (size_before.trans (sizeFor_short (Nat.le_of_lt short_yet)).symm)
  · refine ⟨?_, ?_⟩
    · exact sound.bytes.trans (before.trans (answer_unversioned h.options old).symm)
    · exact sound.size.trans (size_before.trans (sizeFor_unversioned old).symm)

theorem Sound.finish_old {h : Handshake} (sound : h.Sound) (short : h.recv.length < 10)
    {recv : List UInt8} (old : versioned recv = false) (some_bytes : recv ≠ [])
    (known : recv.headD 0 = 0xff → 10 ≤ recv.length) (room : recv.length ≤ h.greetingSize) :
    ({ h with recv } : Handshake).finish.Sound ∧ ({ h with recv } : Handshake).finish.recv = recv ∧
      ({ h with recv } : Handshake).finish.options = h.options := by
  have within : recv.length ≤ sizeFor recv := by
    have size := sound.size.trans (sizeFor_short (Nat.le_of_lt short))
    rw [sizeFor_unversioned old]
    omega
  have not_peer (peer : versioned recv = true) : sizeFor recv ≤ recv.length := by
    cases old.symm.trans peer
  have decided := (decided_iff recv).mpr ⟨some_bytes, fun head => ⟨known head, not_peer⟩⟩
  exact Prepared.finish (h := { h with recv }) (sound.unanswered short (.inr old)) within decided

theorem versioned_eq_false_of_head {recv : List UInt8} (head : recv.headD 0 ≠ 0xff) :
    versioned recv = false := by
  rw [Bool.eq_false_iff]
  exact fun peer => head ((versioned_iff recv).mp peer).1

theorem versioned_eq_false_of_bit {recv : List UInt8} (bit : recv.getD 9 0 &&& 1 = 0) :
    versioned recv = false := by
  rw [Bool.eq_false_iff]
  exact fun peer => ((versioned_iff recv).mp peer).2 bit

/-- With the answer to a versioned peer put, the engine reads on or comes to its verdict. -/
theorem Prepared.go_on {h : Handshake} (prepared : h.Prepared h.recv) (waiting : h.outcome = none)
    (peer : versioned h.recv = true) (enough : 10 ≤ h.recv.length)
    (within : h.recv.length ≤ sizeFor h.recv) {after : Handshake}
    (goes_on : after = if h.recv.length < h.greetingSize then h else h.finish) :
    after.Sound ∧ after.recv = h.recv ∧ after.options = h.options := by
  have head := ((versioned_iff h.recv).mp peer).1
  split_ifs at goes_on with more
  · subst goes_on
    have undecided_yet : undecided after.recv = true := by
      refine (undecided_iff after.recv).mpr (.inr ⟨head, .inr ⟨peer, ?_⟩⟩)
      rw [← prepared.size]
      exact more
    refine ⟨⟨prepared, within, fun _ => .inl waiting, fun decided => ?_⟩, rfl, rfl⟩
    cases undecided_yet.symm.trans decided
  · subst goes_on
    have not_empty : h.recv ≠ [] := by
      intro nothing
      simp [nothing] at enough
    have all_come : sizeFor h.recv ≤ h.recv.length := by
      rw [← prepared.size]
      exact Nat.le_of_not_lt more
    exact prepared.finish within
      ((decided_iff h.recv).mpr ⟨not_empty, fun _ => ⟨enough, fun _ => all_come⟩⟩)

theorem Sound.receive {h : Handshake} {data : List UInt8} (sound : h.Sound)
    (waiting : h.outcome = none) (some_data : data ≠ [])
    (room : h.recv.length + data.length ≤ h.greetingSize) :
    (h.receive data).Sound ∧ (h.receive data).recv = h.recv ++ data ∧
      (h.receive data).options = h.options := by
  have before := (undecided_iff h.recv).mp (sound.not_decided waiting)
  have pos : 0 < data.length := List.length_pos_iff.mpr some_data
  have grown : (h.recv ++ data).length = h.recv.length + data.length := List.length_append
  have not_empty : h.recv ++ data ≠ [] := by simp [some_data]
  have kept (some_before : h.recv ≠ []) := headD_append some_before data
  unfold Handshake.receive
  rw [if_neg some_data]
  dsimp only
  generalize came : h.recv ++ data = recv at *
  have size_room : recv.length ≤ h.greetingSize := by omega
  by_cases head : recv.headD 0 = 0xff
  · rw [if_neg (not_not.mpr head)]
    by_cases short : recv.length < signatureSize
    · rw [if_pos short]
      have short_before : h.recv.length < 10 := by
        rw [signatureSize] at short
        omega
      have undecided_yet := (undecided_iff recv).mpr (.inr ⟨head, .inl short⟩)
      refine ⟨⟨sound.unanswered short_before (.inl short), ?_, fun _ => .inl waiting,
        fun decided => ?_⟩, rfl, rfl⟩
      · have least := sizeFor_ge recv
        dsimp only
        rw [signatureSize] at short
        omega
      · cases undecided_yet.symm.trans decided
    · rw [if_neg short]
      have enough : 10 ≤ recv.length := Nat.le_of_not_lt short
      by_cases bit : recv.getD 9 0 &&& 1 = 0
      · rw [if_pos bit]
        have old := versioned_eq_false_of_bit bit
        have short_before : h.recv.length < 10 := by
          by_contra long
          rcases before with nothing | ⟨-, short_before | ⟨peer, -⟩⟩
          · simp [nothing] at long
          · exact long short_before
          · rw [← versioned_append (by omega) data, came, old] at peer
            cases peer
        exact sound.finish_old short_before old not_empty (fun _ => enough) size_room
      · rw [if_neg bit]
        have peer : versioned recv = true := (versioned_iff recv).mpr ⟨head, bit⟩
        have prepared_before : ({ h with recv } : Handshake).Prepared h.recv :=
          ⟨sound.bytes, sound.size⟩
        have prepared := prepared_before.acknowledge came.symm some_data peer enough
        obtain ⟨same_recv, same_options, same_outcome, -⟩ := acknowledge_kept { h with recv }
        generalize Handshake.acknowledge { h with recv } = after at *
        dsimp only at prepared same_recv same_options same_outcome
        have within : recv.length ≤ sizeFor recv := by
          have larger := sizeFor_le_append h.recv data
          rw [came, ← sound.size] at larger
          exact Nat.le_trans size_room larger
        rw [← same_recv] at prepared peer enough within
        obtain ⟨sound_after, recv_after, options_after⟩ :=
          prepared.go_on (same_outcome.trans waiting) peer enough within rfl
        exact ⟨sound_after, recv_after.trans same_recv, options_after.trans same_options⟩
  · rw [if_pos head]
    have nothing : h.recv = [] := by
      rcases before with nothing | ⟨head_before, -⟩
      · exact nothing
      · by_contra some_before
        exact head ((kept some_before).trans head_before)
    have old := versioned_eq_false_of_head head
    have short_before : h.recv.length < 10 := by simp [nothing]
    exact sound.finish_old short_before old not_empty (fun same => absurd same head) size_room

theorem Sound.disconnect {h : Handshake} (sound : h.Sound) : h.disconnect.Sound :=
  ⟨⟨sound.bytes, sound.size⟩, sound.within, fun _ => .inr rfl, fun _ => .inr rfl⟩

theorem Sound.outEvent {h : Handshake} (sound : h.Sound) (nbytes : Option Nat) :
    (h.outEvent nbytes).Sound := by
  unfold Handshake.outEvent
  split
  next => exact sound
  next =>
    cases nbytes with
    | none => exact ⟨⟨sound.bytes, sound.size⟩, sound.within, sound.waits, sound.verdict⟩
    | some nbytes =>
        refine ⟨⟨?_, sound.size⟩, sound.within, sound.waits, sound.verdict⟩
        dsimp only
        rw [List.append_assoc, List.take_append_drop]
        exact sound.bytes

theorem outEvent_kept (h : Handshake) (nbytes : Option Nat) :
    (h.outEvent nbytes).recv = h.recv ∧ (h.outEvent nbytes).options = h.options ∧
      (h.outEvent nbytes).outcome = h.outcome := by
  unfold Handshake.outEvent
  split
  next => exact ⟨rfl, rfl, rfl⟩
  next => cases nbytes <;> exact ⟨rfl, rfl, rfl⟩

theorem sound_plug (options : EngineOptions) : (plug options).Sound :=
  ⟨⟨rfl, rfl⟩, Nat.zero_le _, fun _ => .inl rfl, fun known => by cases known⟩

theorem step_outEvent {h next : Handshake} {nbytes : Option Nat}
    (taken : h.step (.outEvent nbytes) = some next ∨ h.step (.restartOutput nbytes) = some next) :
    next = h.outEvent nbytes := by
  rcases taken with polled | restarted
  · exact (Option.some.inj (Option.ite_none_right_eq_some.mp polled).2).symm
  · exact (Option.some.inj (Option.ite_none_right_eq_some.mp restarted).2).symm

theorem step_disconnect {h next : Handshake}
    (taken : h.step .readError = some next ∨ h.step .terminate = some next) :
    next = h.disconnect := by
  rcases taken with failed | terminated
  · exact (Option.some.inj (Option.ite_none_right_eq_some.mp failed).2).symm
  · exact (Option.some.inj (Option.ite_none_right_eq_some.mp terminated).2).symm

theorem step_read {h next : Handshake} {data : List UInt8} (taken : h.step (.read data) = some next) :
    h.outcome = none ∧ h.recv.length + data.length ≤ h.greetingSize ∧ next = h.receive data := by
  obtain ⟨⟨waiting, room⟩, same⟩ := Option.ite_none_right_eq_some.mp taken
  exact ⟨waiting, room, (Option.some.inj same).symm⟩

theorem receive_nil (h : Handshake) : h.receive [] = h.disconnect := rfl

theorem Sound.step {h next : Handshake} {action : Action} (sound : h.Sound)
    (taken : h.step action = some next) : next.Sound ∧ next.options = h.options := by
  cases action with
  | read data =>
      obtain ⟨waiting, room, rfl⟩ := step_read taken
      by_cases nothing : data = []
      · rw [nothing]
        exact ⟨sound.disconnect, rfl⟩
      · have received := sound.receive waiting nothing room
        exact ⟨received.1, received.2.2⟩
  | readError =>
      obtain rfl := step_disconnect (.inl taken)
      exact ⟨sound.disconnect, rfl⟩
  | outEvent nbytes =>
      obtain rfl := step_outEvent (.inl taken)
      exact ⟨sound.outEvent nbytes, (outEvent_kept h nbytes).2.1⟩
  | restartOutput nbytes =>
      obtain rfl := step_outEvent (.inr taken)
      exact ⟨sound.outEvent nbytes, (outEvent_kept h nbytes).2.1⟩
  | terminate =>
      obtain rfl := step_disconnect (.inr taken)
      exact ⟨sound.disconnect, rfl⟩

theorem Polled.put {h : Handshake} (polled : h.Polled) (bytes : List UInt8) :
    (h.put bytes).Polled := by
  intro _
  by_cases empty : h.out = []
  · simp [Handshake.put, empty]
  · simp [Handshake.put, polled empty]

theorem Polled.acknowledge {h : Handshake} (polled : h.Polled) : h.acknowledge.Polled := by
  have rest {h : Handshake} (polled : h.Polled) : h.putRest.Polled := by
    unfold Handshake.putRest
    dsimp only
    split
    · exact polled.put _
    · exact polled.put _
  have version : (if (h.written ++ h.out).length = signatureSize then h.put [3] else h).Polled := by
    split
    · exact polled.put [3]
    · exact polled
  unfold Handshake.acknowledge
  generalize (if (h.written ++ h.out).length = signatureSize then h.put [3] else h) = h at version
  dsimp only
  split
  · exact rest version
  · exact version

theorem Polled.finish {h : Handshake} (polled : h.Polled) : h.finish.Polled := by
  unfold Handshake.finish
  split
  · intro some_out
    simp [polled some_out]
  · exact polled

theorem Polled.receive {h : Handshake} (polled : h.Polled) (data : List UInt8) :
    (h.receive data).Polled := by
  unfold Handshake.receive
  split
  · exact polled
  · have grown : ({ h with recv := h.recv ++ data } : Handshake).Polled := polled
    generalize ({ h with recv := h.recv ++ data } : Handshake) = h at grown
    dsimp only
    split
    · exact grown.finish
    · split
      · exact grown
      · split
        · exact grown.finish
        · split
          · exact grown.acknowledge
          · exact grown.acknowledge.finish

theorem Polled.outEvent {h : Handshake} (polled : h.Polled) (nbytes : Nat) :
    (h.outEvent (some nbytes)).Polled := by
  unfold Handshake.outEvent
  split
  next => exact polled
  next some_out =>
    intro left
    dsimp only at left ⊢
    simp [polled some_out, left]

theorem Polled.step {h next : Handshake} {action : Action} (polled : h.Polled)
    (succeeds : action.writeFails = false) (taken : h.step action = some next) : next.Polled := by
  cases action with
  | read data =>
      obtain ⟨-, -, rfl⟩ := step_read taken
      exact polled.receive data
  | readError =>
      obtain rfl := step_disconnect (.inl taken)
      exact polled
  | outEvent nbytes =>
      obtain rfl := step_outEvent (.inl taken)
      cases nbytes with
      | none => cases succeeds
      | some nbytes => exact polled.outEvent nbytes
  | restartOutput nbytes =>
      obtain rfl := step_outEvent (.inr taken)
      cases nbytes with
      | none => cases succeeds
      | some nbytes => exact polled.outEvent nbytes
  | terminate =>
      obtain rfl := step_disconnect (.inr taken)
      exact polled

-- Only the end of file disconnects an engine that reads.
theorem receive_outcome {h : Handshake} (waiting : h.outcome = none) {data : List UInt8}
    (some_data : data ≠ []) : (h.receive data).outcome ≠ some .disconnected := by
  unfold Handshake.receive
  rw [if_neg some_data]
  dsimp only
  split
  · simp [finish_outcome, judge_ne]
  · split
    · simp [waiting]
    · split
      · simp [finish_outcome, judge_ne]
      · split
        · simp [(acknowledge_kept _).2.2.1, waiting]
        · simp [finish_outcome, judge_ne]

theorem step_uncut {h next : Handshake} {action : Action} (uncut : action.cuts = false)
    (taken : h.step action = some next) (before : h.outcome ≠ some .disconnected) :
    next.outcome ≠ some .disconnected := by
  cases action with
  | read data =>
      obtain ⟨waiting, -, rfl⟩ := step_read taken
      cases data with
      | nil => cases uncut
      | cons first rest => exact receive_outcome waiting (List.cons_ne_nil first rest)
  | outEvent nbytes =>
      obtain rfl := step_outEvent (.inl taken)
      rw [(outEvent_kept h nbytes).2.2]
      exact before
  | restartOutput nbytes =>
      obtain rfl := step_outEvent (.inr taken)
      rw [(outEvent_kept h nbytes).2.2]
      exact before
  | readError => cases uncut
  | terminate => cases uncut

theorem protocol_versioned {recv : List UInt8} (known : protocol recv ≠ .unversioned) :
    versioned recv = true := by
  by_contra old
  simp [protocol, old] at known

section Decided

variable {recv : List UInt8} (decided : undecided recv = false) (data : List UInt8)

include decided

theorem versioned_of_decided : versioned (recv ++ data) = versioned recv := by
  obtain ⟨some_bytes, known⟩ := (decided_iff recv).mp decided
  by_cases head : recv.headD 0 = 0xff
  · exact versioned_append (known head).1 data
  · have old : versioned recv = false := by
      rw [Bool.eq_false_iff]
      exact fun peer => head ((versioned_iff recv).mp peer).1
    rw [old, Bool.eq_false_iff]
    intro peer
    rw [versioned_iff, headD_append some_bytes] at peer
    exact head peer.1

theorem size_of_decided (peer : versioned recv = true) : sizeFor recv ≤ recv.length :=
  (((decided_iff recv).mp decided).2 ((versioned_iff recv).mp peer).1).2 peer

theorem long_of_decided (peer : versioned recv = true) : 11 ≤ recv.length := by
  have enough := size_of_decided decided peer
  have least := sizeFor_ge recv
  omega

theorem protocol_of_decided : protocol (recv ++ data) = protocol recv := by
  cases peer : versioned recv with
  | true => exact protocol_append (long_of_decided decided peer) data
  | false =>
      have still := (versioned_of_decided decided data).trans peer
      simp only [protocol, still, peer, Bool.false_eq_true, if_false]

/-- What has come of some bytes, when it decides, decides as all of them do. -/
theorem judge_of_decided (options : EngineOptions) :
    judge options (recv ++ data) = judge options recv := by
  unfold judge
  rw [protocol_of_decided decided data]
  cases new : protocol recv with
  | zmtp3 =>
      have peer : versioned recv = true := protocol_versioned (by rw [new]; decide)
      have full : sizeFor recv = v3GreetingSize := by
        have long : 10 < recv.length := long_of_decided decided peer
        simp [sizeFor, long, new]
      have enough := size_of_decided decided peer
      rw [full, v3GreetingSize] at enough
      have same : ((recv ++ data).drop 12).take 20 = (recv.drop 12).take 20 := by
        rw [List.drop_append_of_le_length (by omega), List.take_append_of_le_length]
        rw [List.length_drop]
        omega
      simp only [same]
  | unversioned => rfl
  | zmtp1 => rfl
  | zmtp2 => rfl

end Decided

structure Judged (options : EngineOptions) (stream : List UInt8) (h : Handshake) : Prop where
  answered : h.written ++ h.out = answer options h.recv
  waits : undecided h.recv = true → h.outcome = none ∨ h.outcome = some .disconnected
  verdict : undecided h.recv = false →
    h.outcome = some (judge options stream) ∨ h.outcome = some .disconnected
  consumed : undecided h.recv = false → protocol stream ≠ .unversioned →
    h.recv = stream.take (sizeFor stream)

theorem Sound.judged {h : Handshake} (sound : h.Sound) {stream : List UInt8}
    (comes : h.recv <+: stream) : Judged h.options stream h := by
  obtain ⟨later, rfl⟩ := comes
  refine ⟨sound.bytes, sound.waits, fun decided => ?_, fun decided new => ?_⟩
  · rw [judge_of_decided decided later h.options]
    exact sound.verdict decided
  · rw [protocol_of_decided decided later] at new
    have peer := protocol_versioned new
    have enough := size_of_decided decided peer
    rw [sizeFor_append (long_of_decided decided peer) later,
      Nat.le_antisymm enough sound.within, List.take_left]

theorem sound_run {h final : Handshake} {actions : List Action} (sound : h.Sound)
    (reached : run Handshake.step h actions = some final) :
    final.Sound ∧ final.options = h.options :=
  run_invariant (fun next => next.Sound ∧ next.options = h.options)
    (fun _ _ _ held _ taken => by
      have kept := held.1.step taken
      exact ⟨kept.1, kept.2.trans held.2⟩)
    ⟨sound, rfl⟩ (along_true h actions) reached

/-- However the bytes of a peer are cut, it is answered and judged by the bytes alone. -/
theorem judged_by_bytes {options : EngineOptions} {stream : List UInt8} {h : Handshake}
    {actions : List Action} (reached : run Handshake.step (plug options) actions = some h)
    (comes : h.recv <+: stream) : Judged options stream h ∧
      ((∀ action ∈ actions, action.writeFails = false) → h.Polled) ∧
      ((∀ action ∈ actions, action.cuts = false) → h.outcome ≠ some .disconnected) := by
  obtain ⟨sound, same⟩ := sound_run (sound_plug options) reached
  have judged := sound.judged comes
  rw [same] at judged
  refine ⟨judged, fun succeed => ?_, fun uncut => ?_⟩
  · exact run_invariant Polled (fun _ _ _ polled succeeds taken => polled.step succeeds taken)
      (fun _ => rfl) (along_of_forall succeed _) reached
  · exact run_invariant (fun h : Handshake => h.outcome ≠ some .disconnected)
      (fun _ _ _ before uncut taken => step_uncut uncut taken before) (by simp [plug])
      (along_of_forall uncut _) reached

-- A ZMTP/2.0 peer, whose socket type and first message come with its revision.
theorem judged_by_bytes_older :
    let stream : List UInt8 := 0xff :: putUint64 1 ++ [0x7f, 1, 5, 0, 1, 7]
    let actions : List Action := [.read (stream.take 4), .outEvent (some 3),
      .read ((stream.take 12).drop 4), .outEvent (some 8)]
    ∃ h, run Handshake.step (plug { type := 5 }) actions = some h ∧
      h.outcome = some (.agreed .zmtp2) ∧ Judged { type := 5 } stream h ∧
      h.out ≠ [] ∧ h.pollout = true := by
  intro stream actions
  have accepted : (run Handshake.step (plug { type := 5 }) actions).any
      (fun h => h.outcome = some (.agreed .zmtp2) && h.recv = stream.take 12 &&
        h.out ≠ []) = true := by decide
  obtain ⟨h, reached, checked⟩ := reached_of_check accepted
  simp only [Bool.and_eq_true, decide_eq_true_eq] at checked
  obtain ⟨⟨agreed, recv⟩, left⟩ := checked
  have comes : h.recv <+: stream := by
    rw [recv]
    exact List.take_prefix 12 stream
  have judged := judged_by_bytes reached comes
  exact ⟨h, reached, agreed, judged.1, left, judged.2.1 (by decide) left⟩

end Handshake

end Zmqcpp
