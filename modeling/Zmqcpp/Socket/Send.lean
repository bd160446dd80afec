import Zmqcpp.Socket.StreamSocket
import Zmqcpp.Shared.Multipart

set_option autoImplicit false

namespace Zmqcpp

open Multipart

inductive Errno
  | eagain
  | eintr
  | enomem
  | eterm
  | enotsock
  deriving DecidableEq, Repr

/-- What befalls a zmq_send. When the frame is accepted errno keeps its former value. -/
inductive SendOutcome
  | accepted (errno : Errno)
  | refused (errno : Errno)
  deriving DecidableEq, Repr

def SendOutcome.errno : SendOutcome → Errno
  | .accepted errno | .refused errno => errno

def FitsInt (size : Nat) : Prop := size < 2 ^ 31

instance (size : Nat) : Decidable (FitsInt size) := inferInstanceAs (Decidable (_ < _))

-- A C buffer whose length is passed as an int.
structure Buffer where
  bytes : Bytes
  fits : FitsInt bytes.length

def zmqSndmore : UInt32 := 2

def intOfSize (size : Nat) : Int := (size : Int).bmod (2 ^ 32)

-- s_sendmsg returns the size of the frame as an int, and zmq_send turns a negative one into -1.
def zmqSend (len : Nat) : SendOutcome → Int
  | .accepted _ => if intOfSize len < 0 then -1 else intOfSize len
  | .refused _ => -1

namespace Socket

/-- `sock` is the message a PUSH socket is putting together and what it has sent; the result is
that of Send and the value of sendSize. -/
def send (sock : Outbox Bytes) (buf : Bytes) (flags : UInt32) (outcome : SendOutcome)
    (sendSize : Int) : Outbox Bytes × Bool × Int :=
  let after :=
    match outcome with
    | .accepted _ => sock.put buf (flags &&& zmqSndmore != 0)
    | .refused _ => sock
  let nbytes := zmqSend buf.length outcome
  if 0 ≤ nbytes then (after, true, nbytes)
  else if outcome.errno = .eagain then (after, true, 0)
  else (after, false, sendSize)

end Socket

theorem intOfSize_small {size : Nat} (fits : FitsInt size) : intOfSize size = size := by
  have bound : size < 2 ^ 31 := fits
  apply Int.bmod_eq_of_le
  · norm_num
  · norm_num
    omega

theorem intOfSize_lt (size : Nat) : intOfSize size < 2 ^ 31 := by
  have bound := @Int.bmod_lt size (2 ^ 32) (by norm_num)
  norm_num at bound ⊢
  exact bound

theorem zmqSend_accepted {len : Nat} (fits : FitsInt len) (errno : Errno) :
    zmqSend len (.accepted errno) = len := by
  rw [zmqSend, intOfSize_small fits, if_neg (Int.not_lt.mpr (Int.natCast_nonneg len))]

-- No value that zmq_send returns is the size of a frame of 2 ^ 31 bytes or more.
theorem zmqSend_large {len : Nat} (large : ¬FitsInt len) (outcome : SendOutcome) :
    zmqSend len outcome < len := by
  have below := intOfSize_lt len
  have size : (2 ^ 31 : Int) ≤ len := by exact_mod_cast not_lt.mp large
  cases outcome with
  | accepted errno =>
      rw [zmqSend]
      split_ifs <;> omega
  | refused errno =>
      rw [zmqSend]
      omega

end Zmqcpp
