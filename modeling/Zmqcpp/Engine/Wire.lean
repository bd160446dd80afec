import Mathlib.Data.List.Basic
import Mathlib.Tactic.Ring

set_option autoImplicit false

/-!
# Messages on the wire

The framing of ZMTP 2.0: a byte of flags, the size in one byte or in eight, and the body.
-/

namespace Zmqcpp

structure Msg where
  body : List UInt8
  more : Bool := false
  command : Bool := false
  deriving DecidableEq, Repr

namespace Msg

def size (m : Msg) : Nat := m.body.length

end Msg

namespace Wire

def moreFlag : UInt8 := 1

def largeFlag : UInt8 := 2

def commandFlag : UInt8 := 4

def putUint64 (value : Nat) : List UInt8 :=
  [UInt8.ofNat (value >>> 56 &&& 0xff), UInt8.ofNat (value >>> 48 &&& 0xff),
    UInt8.ofNat (value >>> 40 &&& 0xff), UInt8.ofNat (value >>> 32 &&& 0xff),
    UInt8.ofNat (value >>> 24 &&& 0xff), UInt8.ofNat (value >>> 16 &&& 0xff),
    UInt8.ofNat (value >>> 8 &&& 0xff), UInt8.ofNat (value &&& 0xff)]

def getUint64 : List UInt8 → Nat
  | [b0, b1, b2, b3, b4, b5, b6, b7] =>
      b0.toNat <<< 56 ||| b1.toNat <<< 48 ||| b2.toNat <<< 40 ||| b3.toNat <<< 32 |||
        b4.toNat <<< 24 ||| b5.toNat <<< 16 ||| b6.toNat <<< 8 ||| b7.toNat
  | _ => 0

theorem putUint64_length (value : Nat) : (putUint64 value).length = 8 := rfl

-- The bytes above and a byte below them do not meet.
theorem or_shift {high low : Nat} (width : Nat) (below : low < 256) :
    high <<< (width + 8) ||| low <<< width = (256 * high + low) <<< width := by
  have split : high <<< (width + 8) = (high <<< 8) <<< width := by
    rw [Nat.add_comm, Nat.shiftLeft_add]
  have apart : high <<< 8 ||| low = 256 * high + low := by
    rw [Nat.shiftLeft_eq, Nat.mul_comm, ← Nat.two_pow_add_eq_or_of_lt (i := 8) below]
  rw [split, ← Nat.shiftLeft_or_distrib, apart]

theorem getUint64_bytes (b0 b1 b2 b3 b4 b5 b6 b7 : UInt8) :
    getUint64 [b0, b1, b2, b3, b4, b5, b6, b7] =
      256 * (256 * (256 * (256 * (256 * (256 * (256 * b0.toNat + b1.toNat) + b2.toNat) + b3.toNat) +
        b4.toNat) + b5.toNat) + b6.toNat) + b7.toNat := by
  have last (high : Nat) : high <<< 8 ||| b7.toNat = 256 * high + b7.toNat := by
    simpa using @or_shift high _ 0 (UInt8.toNat_lt b7)
  rw [getUint64, or_shift 48 (UInt8.toNat_lt b1), or_shift 40 (UInt8.toNat_lt b2),
    or_shift 32 (UInt8.toNat_lt b3), or_shift 24 (UInt8.toNat_lt b4),
    or_shift 16 (UInt8.toNat_lt b5), or_shift 8 (UInt8.toNat_lt b6), last]

theorem byte_of_shift (value width : Nat) :
    (UInt8.ofNat (value >>> width &&& 0xff)).toNat = value / 2 ^ width % 256 := by
  have masked : value >>> width &&& 0xff = value / 2 ^ width % 256 := by
    rw [Nat.shiftRight_eq_div_pow]
    exact Nat.and_two_pow_sub_one_eq_mod _ 8
  rw [masked, UInt8.toNat_ofNat']
  omega

theorem getUint64_putUint64 {value : Nat} (small : value < 2 ^ 64) :
    getUint64 (putUint64 value) = value := by
  have last := byte_of_shift value 0
  rw [Nat.shiftRight_zero] at last
  rw [putUint64, getUint64_bytes, byte_of_shift, byte_of_shift, byte_of_shift, byte_of_shift,
    byte_of_shift, byte_of_shift, byte_of_shift, last]
  omega

def protocolFlags (m : Msg) : UInt8 :=
  (if m.more then moreFlag else 0) ||| (if 255 < m.size then largeFlag else 0) |||
    (if m.command then commandFlag else 0)

def header (m : Msg) : List UInt8 :=
  protocolFlags m :: if 255 < m.size then putUint64 m.size else [UInt8.ofNat m.size]

def frame (m : Msg) : List UInt8 := header m ++ m.body

def frames (messages : List Msg) : List UInt8 := messages.flatMap frame

theorem frames_append (first second : List Msg) :
    frames (first ++ second) = frames first ++ frames second := List.flatMap_append

-- No flag is a bit of another.
theorem flags_apart : ∀ more large command : Bool,
    let flags := (if more then moreFlag else 0) ||| (if large then largeFlag else 0) |||
      (if command then commandFlag else 0)
    (flags &&& moreFlag ≠ 0 ↔ more = true) ∧ (flags &&& largeFlag ≠ 0 ↔ large = true) ∧
      (flags &&& commandFlag ≠ 0 ↔ command = true) := by
  decide

theorem protocolFlags_apart (m : Msg) :
    (protocolFlags m &&& moreFlag ≠ 0 ↔ m.more = true) ∧
      (protocolFlags m &&& largeFlag ≠ 0 ↔ 255 < m.size) ∧
      (protocolFlags m &&& commandFlag ≠ 0 ↔ m.command = true) := by
  have apart := flags_apart m.more (decide (255 < m.size)) m.command
  simp only [decide_eq_true_eq] at apart
  exact apart

end Wire

end Zmqcpp
