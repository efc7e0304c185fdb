import NwsCpp.Bytes

/-! Coordinates as cache keys, over the operations of `double` that they use. -/

namespace NwsCpp

open Bytes

/-- The operations of `double`; `format` is the `{}` of `std::format`. -/
class Double (D : Type*) where
  eq : D → D → Bool
  lt : D → D → Bool
  isnan : D → Bool
  isfinite : D → Bool
  ofInt : Int → D
  hash : D → UInt64
  format : D → Text

/-- `==` is an equivalence on the values that are numbers, and hashing respects it. -/
class LawfulDouble (D : Type*) [Double D] : Prop where
  eq_self (a : D) : Double.eq a a = !Double.isnan a
  eq_symm {a b : D} : Double.eq a b = true → Double.eq b a = true
  eq_trans {a b c : D} : Double.eq a b = true → Double.eq b c = true → Double.eq a c = true
  hash_eq {a b : D} : Double.eq a b = true → Double.hash a = Double.hash b

structure CoordinateKey (D : Type*) where
  latitude : D
  longitude : D
  deriving DecidableEq

section Components

variable {D : Type*} [Double D]

/-- Equal numbers, or both not a number. -/
def sameComponent (a b : D) : Bool := Double.eq a b || (Double.isnan a && Double.isnan b)

def componentHash (a : D) : UInt64 :=
  Double.hash (if Double.isnan a then Double.ofInt 0 else a)

instance : BEq (CoordinateKey D) where
  beq a b := sameComponent a.latitude b.latitude && sameComponent a.longitude b.longitude

instance : Hashable (CoordinateKey D) where
  hash k := componentHash k.latitude ^^^ (componentHash k.longitude <<< 1)

theorem key_beq_iff {k l : CoordinateKey D} : (k == l) = true ↔
    sameComponent k.latitude l.latitude = true ∧ sameComponent k.longitude l.longitude = true :=
  Bool.and_eq_true_iff

variable [LawfulDouble D] {a b c : D}

theorem isnan_of_eq (h : Double.eq a b = true) : Double.isnan a = false := by
  have hself := LawfulDouble.eq_trans h (LawfulDouble.eq_symm h)
  simpa [LawfulDouble.eq_self] using hself

theorem sameComponent_refl (a : D) : sameComponent a a = true := by
  cases h : Double.isnan a <;> simp [sameComponent, LawfulDouble.eq_self, h]

theorem sameComponent_symm (h : sameComponent a b = true) : sameComponent b a = true := by
  simp only [sameComponent, Bool.or_eq_true, Bool.and_eq_true] at h ⊢
  exact h.imp LawfulDouble.eq_symm And.symm

theorem sameComponent_trans (hab : sameComponent a b = true) (hbc : sameComponent b c = true) :
    sameComponent a c = true := by
  simp only [sameComponent, Bool.or_eq_true, Bool.and_eq_true] at hab hbc ⊢
  rcases hab with hab | hab <;> rcases hbc with hbc | hbc
  · exact Or.inl (LawfulDouble.eq_trans hab hbc)
  · have := isnan_of_eq (LawfulDouble.eq_symm hab)
    simp [this] at hbc
  · have := isnan_of_eq hbc
    simp [this] at hab
  · exact Or.inr ⟨hab.1, hbc.2⟩

theorem componentHash_eq (h : sameComponent a b = true) : componentHash a = componentHash b := by
  simp only [sameComponent, Bool.or_eq_true, Bool.and_eq_true] at h
  rcases h with h | ⟨ha, hb⟩
  · rw [componentHash, componentHash, isnan_of_eq h, isnan_of_eq (LawfulDouble.eq_symm h)]
    exact LawfulDouble.hash_eq h
  · rw [componentHash, componentHash, ha, hb]
    rfl

instance : EquivBEq (CoordinateKey D) where
  rfl := key_beq_iff.mpr ⟨sameComponent_refl _, sameComponent_refl _⟩
  symm h := by
    rw [key_beq_iff] at h ⊢
    exact ⟨sameComponent_symm h.1, sameComponent_symm h.2⟩
  trans h h' := by
    rw [key_beq_iff] at h h' ⊢
    exact ⟨sameComponent_trans h.1 h'.1, sameComponent_trans h.2 h'.2⟩

instance : LawfulHashable (CoordinateKey D) where
  hash_eq k l h := by
    rw [key_beq_iff] at h
    change componentHash _ ^^^ _ = componentHash _ ^^^ _
    rw [componentHash_eq h.1, componentHash_eq h.2]

end Components

end NwsCpp
