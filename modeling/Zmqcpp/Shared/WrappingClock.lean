import Mathlib.Tactic

set_option autoImplicit false

/-!
# A 32-bit millisecond counter

The counter shows the low 32 bits of the time, and differences of its values are taken modulo
2 ^ 32.
-/

namespace WrappingClock

def period : Nat := 2 ^ 32

def tick (now : Nat) : UInt32 := UInt32.ofNat now

theorem tick_sub {earlier later : Nat} (ordered : earlier ≤ later) :
    (tick later - tick earlier).toNat = (later - earlier) % period := by
  rw [tick, tick, UInt32.toNat_sub, UInt32.toNat_ofNat', UInt32.toNat_ofNat', period]
  omega

theorem tick_sub_le {earlier later : Nat} (ordered : earlier ≤ later) :
    (tick later - tick earlier).toNat ≤ later - earlier := by
  rw [tick_sub ordered]
  exact Nat.mod_le _ _

theorem tick_sub_within {earlier later : Nat} (ordered : earlier ≤ later)
    (within : later < earlier + period) : (tick later - tick earlier).toNat = later - earlier := by
  rw [tick_sub ordered]
  apply Nat.mod_eq_of_lt
  omega

theorem seconds_add (first second : UInt32) :
    (first * 1000 + second * 1000).toNat = (first.toNat + second.toNat) * 1000 % period := by
  have thousand : (1000 : UInt32).toNat = 1000 := rfl
  rw [UInt32.toNat_add, UInt32.toNat_mul, UInt32.toNat_mul, thousand, period]
  omega

theorem seconds_pos {first second : UInt32} (positive : 0 < first.toNat)
    (fits : (first.toNat + second.toNat) * 1000 < period) : 0 < first * 1000 := by
  have thousand : (1000 : UInt32).toNat = 1000 := rfl
  rw [period] at fits
  rw [UInt32.lt_iff_toNat_lt, UInt32.toNat_mul, thousand, UInt32.toNat_zero]
  omega

end WrappingClock
