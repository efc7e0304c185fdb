import Mathlib.Algebra.Order.Field.Basic
import Mathlib.Algebra.Order.AbsoluteValue.Basic
import Mathlib.Tactic.Ring

/-! Maps of the form `x ↦ slope * x + offset`, compared by their coefficients. -/

@[ext]
structure Affine (K : Type*) where
  slope : K
  offset : K
  deriving DecidableEq

namespace Affine

variable {K : Type*} [Field K]

def apply (f : Affine K) (x : K) : K := f.slope * x + f.offset

def comp (g f : Affine K) : Affine K := ⟨g.slope * f.slope, g.slope * f.offset + g.offset⟩

protected def id : Affine K := ⟨1, 0⟩

theorem apply_comp (g f : Affine K) (x : K) : (g.comp f).apply x = g.apply (f.apply x) := by
  simp only [apply, comp]
  ring

theorem id_apply (x : K) : Affine.id.apply x = x := by simp [apply, Affine.id]

theorem apply_apply_of_comp {f g : Affine K} (h : g.comp f = Affine.id) (x : K) :
    g.apply (f.apply x) = x := by rw [← apply_comp, h, id_apply]

variable [LinearOrder K]

/-- The slopes differ by at most the part `ε` of the second, and nothing is added. -/
def Near (ε : K) (f g : Affine K) : Prop :=
  f.offset = 0 ∧ g.offset = 0 ∧ |f.slope - g.slope| ≤ ε * |g.slope|

instance (ε : K) (f g : Affine K) : Decidable (Near ε f g) := inferInstanceAs (Decidable (_ ∧ _))

variable [IsStrictOrderedRing K]

theorem strictMono_apply {f : Affine K} (h : 0 < f.slope) : StrictMono f.apply := fun _ _ hlt =>
  add_lt_add_left (mul_lt_mul_of_pos_left hlt h) f.offset

theorem Near.abs_sub_le {ε : K} {f g : Affine K} (h : Near ε f g) (x : K) :
    |f.apply x - g.apply x| ≤ ε * |g.apply x| := by
  obtain ⟨hf, hg, hslope⟩ := h
  have hdiff : f.apply x - g.apply x = (f.slope - g.slope) * x := by
    rw [apply, apply, hf, hg]
    ring
  calc |f.apply x - g.apply x| = |f.slope - g.slope| * |x| := by rw [hdiff, abs_mul]
    _ ≤ ε * |g.slope| * |x| := mul_le_mul_of_nonneg_right hslope (abs_nonneg x)
    _ = ε * |g.apply x| := by rw [apply, hg, add_zero, abs_mul, mul_assoc]

end Affine
