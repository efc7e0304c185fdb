import NwsCpp.Retry
import NwsCpp.Backoff
import NwsCpp.CheckedInt

/-! The delay between two attempts in closed form, with its bounds. -/

namespace NwsCpp

namespace RetryPolicy

variable (policy : RetryPolicy)

def maximum : Int := max policy.maxDelay 0

def initial : Int := max 0 (min policy.initialDelay policy.maximum)

def multiplier : ℚ :=
  match policy.backoffMultiplier with
  | some factor => max factor 0
  | none => 1

/-- The growth of the delay without jitter. -/
def backoff (attempt : UInt8) : ℚ :=
  Backoff.capped (policy.initial : ℚ) policy.multiplier policy.maximum (attempt.toNat - 1)

theorem maximum_nonneg : 0 ≤ policy.maximum := le_max_right _ _

theorem initial_nonneg : 0 ≤ policy.initial := le_max_left _ _

theorem initial_le_maximum : policy.initial ≤ policy.maximum :=
  max_le policy.maximum_nonneg (min_le_right _ _)

theorem multiplier_nonneg : 0 ≤ policy.multiplier := by
  rw [multiplier]
  cases policy.backoffMultiplier with
  | none => exact zero_le_one
  | some factor => exact le_max_right _ _

theorem spread_nonneg : 0 ≤ policy.spread := by
  rw [spread]
  cases policy.jitterFactor with
  | none => exact le_refl 0
  | some factor => exact le_max_left _ _

theorem spread_le_one : policy.spread ≤ 1 := by
  rw [spread]
  cases policy.jitterFactor with
  | none => exact zero_le_one
  | some factor => exact max_le zero_le_one (min_le_right _ _)

theorem backoff_nonneg (attempt : UInt8) : 0 ≤ policy.backoff attempt :=
  Backoff.capped_nonneg (Int.cast_nonneg policy.initial_nonneg) policy.multiplier_nonneg
    (Int.cast_nonneg policy.maximum_nonneg) _

variable {policy} {attempt later : UInt8} {jitter jitter' : ℚ}

theorem jitter_nonneg (h : |jitter - 1| ≤ policy.spread) : 0 ≤ jitter := by
  have hlow := (abs_le.mp h).1
  have hone := policy.spread_le_one
  linarith

theorem jitter_eq_one (h : |jitter - 1| ≤ policy.spread) (hspread : policy.spread = 0) :
    jitter = 1 := by
  rw [hspread] at h
  exact sub_eq_zero.mp (abs_nonpos_iff.mp h)

/-- The loop computes the capped growth, and the comparison before the conversion is the
second cut. -/
theorem calculateRetryDelay_eq_floor (h : |jitter - 1| ≤ policy.spread) :
    policy.calculateRetryDelay attempt jitter =
      ⌊min (jitter * policy.backoff attempt) policy.maximum⌋ := by
  have hgrow : (fun delay : ℚ => min (delay * policy.multiplier) policy.maximum)^[attempt.toNat - 1]
      policy.initial = policy.backoff attempt :=
    Backoff.iterate_capped (Int.cast_nonneg policy.initial_nonneg)
      (Int.cast_le.mpr policy.initial_le_maximum) policy.multiplier_nonneg _
  have hdraw : (if 0 < policy.spread then policy.backoff attempt * jitter
      else policy.backoff attempt) = jitter * policy.backoff attempt := by
    by_cases hspread : 0 < policy.spread
    · rw [if_pos hspread, mul_comm]
    · have hzero := le_antisymm (not_lt.mp hspread) policy.spread_nonneg
      rw [if_neg hspread, jitter_eq_one h hzero, one_mul]
  rw [← Backoff.floor_min, ← hdraw, ← hgrow]
  rfl

theorem calculateRetryDelay_nonneg (attempt : UInt8) (h : |jitter - 1| ≤ policy.spread) :
    0 ≤ policy.calculateRetryDelay attempt jitter := by
  rw [calculateRetryDelay_eq_floor h]
  exact Backoff.floor_min_nonneg (mul_nonneg (jitter_nonneg h) (policy.backoff_nonneg attempt))
    policy.maximum_nonneg

theorem calculateRetryDelay_le_maximum (attempt : UInt8) (h : |jitter - 1| ≤ policy.spread) :
    policy.calculateRetryDelay attempt jitter ≤ policy.maximum := by
  rw [calculateRetryDelay_eq_floor h]
  exact Backoff.floor_min_le

theorem signed_maximum (h : Checked.Signed 64 policy.maxDelay) :
    Checked.Signed 64 policy.maximum := by
  rcases max_choice policy.maxDelay 0 with hmax | hmax
  · rwa [maximum, hmax]
  · rw [maximum, hmax]
    decide

theorem calculateRetryDelay_mono (hspread : policy.spread = 0) (hone : 1 ≤ policy.multiplier)
    (hlater : attempt ≤ later) (h : |jitter - 1| ≤ policy.spread)
    (h' : |jitter' - 1| ≤ policy.spread) :
    policy.calculateRetryDelay attempt jitter ≤ policy.calculateRetryDelay later jitter' := by
  rw [UInt8.le_iff_toNat_le] at hlater
  have hgrow : policy.backoff attempt ≤ policy.backoff later :=
    Backoff.capped_mono (Int.cast_nonneg policy.initial_nonneg) hone (by omega)
  rw [calculateRetryDelay_eq_floor h, calculateRetryDelay_eq_floor h',
    jitter_eq_one h hspread, jitter_eq_one h' hspread, one_mul, one_mul]
  exact Int.floor_le_floor (min_le_min_right _ hgrow)

/-- The delay law: closed form, range, no overflow in the conversion, and growth. -/
theorem calculateRetryDelay_law (policy : RetryPolicy) (attempt : UInt8) {jitter : ℚ}
    (hjitter : |jitter - 1| ≤ policy.spread) :
    policy.calculateRetryDelay attempt jitter =
        ⌊min (jitter * min (policy.initial * policy.multiplier ^ (attempt.toNat - 1))
          policy.maximum) policy.maximum⌋ ∧
      0 ≤ policy.calculateRetryDelay attempt jitter ∧
      policy.calculateRetryDelay attempt jitter ≤ policy.maximum ∧
      (Checked.Signed 64 policy.maxDelay →
        Checked.Signed 64 (policy.calculateRetryDelay attempt jitter)) ∧
      (policy.spread = 0 → 1 ≤ policy.multiplier → ∀ later, attempt ≤ later →
        ∀ jitter', |jitter' - 1| ≤ policy.spread →
          policy.calculateRetryDelay attempt jitter ≤
            policy.calculateRetryDelay later jitter') := by
  have hlow := calculateRetryDelay_nonneg attempt hjitter
  have hhigh := calculateRetryDelay_le_maximum attempt hjitter
  refine ⟨calculateRetryDelay_eq_floor hjitter, hlow, hhigh, ?_, ?_⟩
  · intro hsigned
    exact (signed_maximum hsigned).of_le hlow hhigh
  · intro hspread hone later hlater jitter' hjitter'
    exact calculateRetryDelay_mono hspread hone hlater hjitter hjitter'

theorem calculateRetryDelay_law_third :
    |(11 / 10 : ℚ) - 1| ≤ ({} : RetryPolicy).spread ∧
      ({} : RetryPolicy).calculateRetryDelay 3 (11 / 10) = 2200 ∧
      Checked.Signed 64 (({} : RetryPolicy).calculateRetryDelay 3 (11 / 10)) := by
  have hjitter : |(11 / 10 : ℚ) - 1| ≤ ({} : RetryPolicy).spread := by decide +kernel
  obtain ⟨hfloor, -, -, hsigned, -⟩ := calculateRetryDelay_law {} 3 hjitter
  refine ⟨hjitter, ?_, hsigned (by decide)⟩
  rw [hfloor]
  decide +kernel

end RetryPolicy

end NwsCpp
