import Mathlib.Algebra.Order.Field.Basic
import Mathlib.Algebra.Order.Floor.Ring
import Mathlib.Algebra.Order.AbsoluteValue.Basic
import Mathlib.Data.Rat.Floor

/-! Geometric growth under a cap, and its rounding down to an integer. -/

namespace Backoff

variable {K : Type*} [Field K] [LinearOrder K] [IsStrictOrderedRing K]

/-- Growing by the factor `m` from `a` without passing `cap`. -/
def capped (a m cap : K) (n : ℕ) : K := min (a * m ^ n) cap

variable {a m cap : K}

theorem capped_nonneg (ha : 0 ≤ a) (hm : 0 ≤ m) (hcap : 0 ≤ cap) (n : ℕ) :
    0 ≤ capped a m cap n := le_min (mul_nonneg ha (pow_nonneg hm n)) hcap

/-- Below the factor one the cap is never reached, and from it on the cap stays. -/
theorem capped_succ (ha : 0 ≤ a) (hcap : a ≤ cap) (hm : 0 ≤ m) (n : ℕ) :
    min (capped a m cap n * m) cap = capped a m cap (n + 1) := by
  rw [capped, capped, pow_succ, ← mul_assoc]
  by_cases hone : m ≤ 1
  · have hbelow : a * m ^ n ≤ cap := by
      calc a * m ^ n ≤ a * 1 := mul_le_mul_of_nonneg_left (pow_le_one₀ hm hone) ha
        _ = a := mul_one a
        _ ≤ cap := hcap
    rw [min_eq_left hbelow]
  · have hstays : cap ≤ cap * m := le_mul_of_one_le_right (ha.trans hcap) (not_le.mp hone).le
    rw [min_mul_of_nonneg _ _ hm, min_assoc, min_eq_right hstays]

theorem iterate_capped (ha : 0 ≤ a) (hcap : a ≤ cap) (hm : 0 ≤ m) (n : ℕ) :
    (fun delay => min (delay * m) cap)^[n] a = capped a m cap n := by
  induction n with
  | zero => rw [Function.iterate_zero_apply, capped, pow_zero, mul_one, min_eq_left hcap]
  | succ n ih => rw [Function.iterate_succ_apply', ih, capped_succ ha hcap hm]

theorem capped_mono (ha : 0 ≤ a) (hm : 1 ≤ m) : Monotone (capped a m cap) := fun _ _ h =>
  min_le_min_right cap (mul_le_mul_of_nonneg_left (pow_le_pow_right₀ hm h) ha)

section Rounding

variable [FloorRing K] {limit : ℤ} {x : K}

/-- Rounding down what has been cut at an integer, with the comparison made first. -/
theorem floor_min (x : K) (limit : ℤ) :
    (if (limit : K) ≤ x then limit else ⌊x⌋) = ⌊min x limit⌋ := by
  by_cases h : (limit : K) ≤ x
  · rw [if_pos h, min_eq_right h, Int.floor_intCast]
  · rw [if_neg h, min_eq_left (not_le.mp h).le]

theorem floor_min_le : ⌊min x (limit : K)⌋ ≤ limit := by
  have h := Int.floor_le_floor (min_le_right x (limit : K))
  rwa [Int.floor_intCast] at h

theorem floor_min_nonneg (hx : 0 ≤ x) (hlimit : 0 ≤ limit) : 0 ≤ ⌊min x (limit : K)⌋ :=
  Int.floor_nonneg.mpr (le_min hx (Int.cast_nonneg hlimit))

end Rounding

end Backoff
