/-
Saturating arithmetic.

A saturating operation computes with natural numbers and stops at the largest value
of its type.  Where what it computes is capped in the end, at a value that the type
has, the stops on the way leave no trace: the result is the exact one, capped.
-/
import Mathlib.Data.UInt

namespace Saturating

/-- `u64::saturating_mul`. -/
def mul (a b : UInt64) : UInt64 := UInt64.ofNat (min (a.toNat * b.toNat) (2 ^ 64 - 1))

/-- `u64::saturating_pow`. -/
def pow (a : UInt64) (exponent : UInt32) : UInt64 :=
  UInt64.ofNat (min (a.toNat ^ exponent.toNat) (2 ^ 64 - 1))

/-- `u32::saturating_sub`. -/
def sub (a b : UInt32) : UInt32 := if b ≤ a then a - b else 0

theorem toNat_ofNat_min (n : Nat) :
    (UInt64.ofNat (min n (2 ^ 64 - 1))).toNat = min n (2 ^ 64 - 1) :=
  UInt64.toNat_ofNat_of_lt' (show min n (2 ^ 64 - 1) < 2 ^ 64 by omega)

@[simp] theorem toNat_mul (a b : UInt64) :
    (mul a b).toNat = min (a.toNat * b.toNat) (2 ^ 64 - 1) := toNat_ofNat_min _

@[simp] theorem toNat_pow (a : UInt64) (exponent : UInt32) :
    (pow a exponent).toNat = min (a.toNat ^ exponent.toNat) (2 ^ 64 - 1) := toNat_ofNat_min _

@[simp] theorem toNat_sub (a b : UInt32) : (sub a b).toNat = a.toNat - b.toNat := by
  unfold sub
  by_cases h : b ≤ a
  · rw [if_pos h, UInt32.toNat_sub_of_le _ _ h]
  · rw [if_neg h]
    have hlt := UInt32.lt_iff_toNat_lt.mp (UInt32.not_le.mp h)
    simp only [UInt32.toNat_zero]
    omega

theorem toNat_min (a b : UInt64) : (min a b).toNat = min a.toNat b.toNat := by
  have hmin : min a b = if a ≤ b then a else b := rfl
  rw [hmin, Nat.min_def, apply_ite UInt64.toNat]
  simp only [UInt64.le_iff_toNat_le]

theorem toNat_max (a b : UInt32) : (max a b).toNat = max a.toNat b.toNat := by
  have hmax : max a b = if a ≤ b then b else a := rfl
  rw [hmax, Nat.max_def, apply_ite UInt32.toNat]
  simp only [UInt32.le_iff_toNat_le]

/-- A factor that stops at `top` makes no difference to a product that stops there. -/
theorem min_mul_min (a b top : Nat) : min (a * min b top) top = min (a * b) top := by
  rcases Nat.le_total b top with hle | hle
  · rw [Nat.min_eq_left hle]
  · rw [Nat.min_eq_right hle]
    rcases Nat.eq_zero_or_pos a with rfl | hpos
    · simp
    · have hstopped : top ≤ a * top := Nat.le_mul_of_pos_left top hpos
      have hexact : top ≤ a * b := Nat.le_trans hstopped (Nat.mul_le_mul_left a hle)
      rw [Nat.min_eq_right hstopped, Nat.min_eq_right hexact]

/-- **A capped product of saturating operations is the exact one, capped.** -/
theorem min_mul_pow (a b cap : UInt64) (exponent : UInt32) :
    (min (mul a (pow b exponent)) cap).toNat
      = min (a.toNat * b.toNat ^ exponent.toNat) cap.toNat := by
  have hcap : cap.toNat ≤ 2 ^ 64 - 1 := by
    have := cap.toNat_lt
    omega
  rw [toNat_min, toNat_mul, toNat_pow, min_mul_min, min_assoc, Nat.min_eq_right hcap]

end Saturating
