import Mathlib.Tactic

set_option autoImplicit false

namespace Zmqcpp

abbrev Bytes := List UInt8

instance (peer : Bytes) (peers : List Bytes) : Decidable (peer ∈ peers) :=
  inferInstanceAs (Decidable (_ ∈ _))

def putUint32 (value : UInt32) : Bytes :=
  [(value >>> 24).toUInt8, (value >>> 16).toUInt8, (value >>> 8).toUInt8, value.toUInt8]

/-- The identity option, stream_t, and what it has written to which peer. -/
structure StreamSocket where
  identity : Bytes
  nextPeerId : UInt32
  outpipes : List Bytes := []
  -- Pipes that no longer accept a frame.
  terminating : List Bytes := []
  currentOut : Option Bytes := none
  moreOut : Bool := false
  written : List (Bytes × Bytes) := []
  deriving DecidableEq, Repr

namespace StreamSocket

-- The attachment of a peer; it also sets the identity option.
def identifyPeer (s : StreamSocket) : StreamSocket :=
  { s with
    identity := 0 :: putUint32 s.nextPeerId
    nextPeerId := s.nextPeerId + 1
    outpipes := (0 :: putUint32 s.nextPeerId) :: s.outpipes }

def xpipeTerminated (s : StreamSocket) (peer : Bytes) : StreamSocket :=
  { s with
    outpipes := s.outpipes.filter (fun other => other ≠ peer)
    terminating := s.terminating.filter (fun other => other ≠ peer)
    currentOut := if s.currentOut = some peer then none else s.currentOut }

def checkWrite (s : StreamSocket) (room : Bool) (peer : Bytes) : Bool :=
  room && decide (peer ∉ s.terminating)

/-- The result is whether xsend returns 0; `room` is whether the pipe is below its high water
mark. -/
def xsend (s : StreamSocket) (data : Bytes) (more room : Bool) : StreamSocket × Bool :=
  if s.moreOut then
    match s.currentOut with
    | none => ({ s with moreOut := false }, true)
    | some peer =>
        if data = [] then
          ({ s with moreOut := false, currentOut := none, terminating := peer :: s.terminating },
            true)
        else
          ({ s with moreOut := false, currentOut := none, written := s.written ++ [(peer, data)] },
            true)
  else if more then
    if data ∈ s.outpipes then
      if s.checkWrite room data then ({ s with moreOut := true, currentOut := some data }, true)
      else ({ s with currentOut := none }, false)
    else (s, false)
  else ({ s with moreOut := true }, true)

-- zmq_sendiov with flags 0: every iovec is a frame without MORE.
def sendiov (s : StreamSocket) (room : Bool) : List Bytes → StreamSocket × Bool
  | [] => (s, true)
  | data :: rest =>
      match s.xsend data false room with
      | (sent, true) => sent.sendiov room rest
      | (sent, false) => (sent, false)

theorem xsend_refused (s : StreamSocket) (peer : Bytes) (room : Bool) (waits : s.moreOut = false)
    (none_out : s.currentOut = none)
    (refused : peer ∈ s.outpipes → s.checkWrite room peer = false) :
    s.xsend peer true room = (s, false) := by
  have same : { s with currentOut := none } = s := by rw [← none_out]
  have position : ¬s.moreOut = true := by simp [waits]
  rw [xsend, if_neg position, if_pos rfl]
  by_cases attached : peer ∈ s.outpipes
  · rw [if_pos attached, if_neg (by simp [refused attached]), same]
  · rw [if_neg attached]

theorem xsend_identity (s : StreamSocket) (peer : Bytes) (room : Bool) (waits : s.moreOut = false)
    (attached : peer ∈ s.outpipes) (writable : s.checkWrite room peer = true) :
    s.xsend peer true room = ({ s with moreOut := true, currentOut := some peer }, true) := by
  simp [xsend, waits, attached, writable]

theorem xsend_body (s : StreamSocket) (data : Bytes) (room : Bool) (none_out : s.currentOut = none) :
    s.xsend data false room = ({ s with moreOut := !s.moreOut }, true) := by
  unfold xsend
  rw [none_out]
  cases s.moreOut <;> rfl

-- Frames that no identity went before turn the socket's position over, and that is all.
theorem sendiov_unaddressed (s : StreamSocket) (room : Bool) (vec : List Bytes)
    (none_out : s.currentOut = none) :
    s.sendiov room vec =
      ({ s with moreOut := s.moreOut ^^ decide (vec.length % 2 = 1) }, true) := by
  induction vec generalizing s with
  | nil => simp [sendiov]
  | cons data rest ih =>
      have turned := ih { s with moreOut := !s.moreOut } none_out
      rw [sendiov, xsend_body s data room none_out]
      dsimp only
      rw [turned]
      have parity : decide ((data :: rest).length % 2 = 1) = !decide (rest.length % 2 = 1) := by
        rw [List.length_cons, ← decide_not]
        exact decide_eq_decide.mpr (by omega)
      rw [parity]
      cases s.moreOut <;> simp

end StreamSocket

end Zmqcpp
