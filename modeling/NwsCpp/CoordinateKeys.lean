import NwsCpp.CacheAccess
import NwsCpp.Coordinates
import NwsCpp.Decimal

/-! Coordinates are lawful keys of the LRU cache, whatever their components. -/

namespace NwsCpp

open Bytes

theorem coordinateKey_lawful (D V : Type*) [Double D] [LawfulDouble D] :
    Equivalence (fun a b : CoordinateKey D => (a == b) = true) ∧
      (∀ a b : CoordinateKey D, (a == b) = true → hash a = hash b) ∧
      ∀ (config : LruCache.Config) (ops : List (Int × LruCache.Op (CoordinateKey D) V)),
        LruCache.Accessible config ops := by
  refine ⟨⟨fun a => BEq.rfl, BEq.symm, BEq.trans⟩, fun a b hab => hash_eq hab, ?_⟩
  exact fun config ops => LruCache.accessible_exec config ops

/-- Whole degrees with two zeros, and the values of `double` that are not finite. -/
inductive SignedDegrees where
  | nan (negative : Bool)
  | infinite (negative : Bool)
  | whole (negative : Bool) (magnitude : Nat)
  deriving DecidableEq

/-- An infinity by its sign, a whole number as an integer. -/
def SignedDegrees.number : SignedDegrees → Option (Bool ⊕ Int)
  | nan _ => none
  | infinite negative => some (.inl negative)
  | whole negative magnitude => some (.inr (if negative then -magnitude else magnitude))

instance : Double SignedDegrees where
  eq a b := a.number.isSome && decide (a.number = b.number)
  lt a b := match a.number, b.number with
    | some (.inl m), some (.inl n) => m && !n
    | some (.inl m), some (.inr _) => m
    | some (.inr _), some (.inl n) => !n
    | some (.inr i), some (.inr j) => decide (i < j)
    | _, _ => false
  isnan a := a.number.isNone
  isfinite a := match a.number with
    | some (.inr _) => true
    | _ => false
  ofInt i := .whole (decide (i < 0)) i.natAbs
  hash a := match a.number with
    | none => 0
    | some (.inl negative) => hash negative
    | some (.inr i) => hash i
  format
    | .nan negative => ascii (if negative then "-nan" else "nan")
    | .infinite negative => ascii (if negative then "-inf" else "inf")
    | .whole negative magnitude =>
      (if negative then ascii "-" else []) ++ Decimal.intText magnitude

instance : LawfulDouble SignedDegrees where
  eq_self a := by simp [Double.eq, Double.isnan]
  eq_symm h := by
    simp only [Double.eq, Bool.and_eq_true, decide_eq_true_eq] at h ⊢
    exact ⟨h.2 ▸ h.1, h.2.symm⟩
  eq_trans h h' := by
    simp only [Double.eq, Bool.and_eq_true, decide_eq_true_eq] at h h' ⊢
    exact ⟨h.1, h.2.trans h'.2⟩
  hash_eq h := by
    simp only [Double.eq, Bool.and_eq_true, decide_eq_true_eq] at h
    simp only [Double.hash, h.2]

/-- Not a number beside a zero. -/
def nanAndZero (negative : Bool) : CoordinateKey SignedDegrees :=
  ⟨.nan negative, .whole negative 0⟩

def zeros : CoordinateKey SignedDegrees := ⟨.whole false 0, .whole false 0⟩

/-- Room for one: the key is found with another nan and the other zero, until the next. -/
theorem coordinateKey_lawful_nan :
    (nanAndZero true == nanAndZero false) = true ∧
      hash (nanAndZero true) = hash (nanAndZero false) ∧
      (LruCache.get { maxEntries := 1 } (nanAndZero false) 0
        (LruCache.exec { maxEntries := 1 } [(0, .put (nanAndZero true) 1 none)]).state).1 = some 1 ∧
      ¬ LruCache.Resident (nanAndZero false) (LruCache.exec { maxEntries := 1 }
        [(0, .put (nanAndZero true) 1 none), (1, .put zeros 2 none)]).state := by
  obtain ⟨-, hhash, haccess⟩ := coordinateKey_lawful SignedDegrees Nat
  have heq : (nanAndZero true == nanAndZero false) = true := by decide
  refine ⟨heq, hhash _ _ heq, ?_, ?_⟩
  · exact (haccess { maxEntries := 1 } []).hit (by decide) _ _ 1 0 heq
  · exact (haccess { maxEntries := 1 } [(0, .put (nanAndZero true) 1 none)]).evictable _
      [(1, zeros, 2)] le_rfl (by simp) (by decide)

end NwsCpp
