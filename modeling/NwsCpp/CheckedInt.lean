import Mathlib

/-! Arithmetic of fixed width that stops at the first result out of range, and runs of
checked steps that never stop. -/

namespace Checked

inductive Fault where
  | overflow
  | divisionByZero
  | narrowing
  deriving DecidableEq

def Signed (width : Nat) (x : Int) : Prop := -2 ^ (width - 1) ≤ x ∧ x < 2 ^ (width - 1)

instance (width : Nat) (x : Int) : Decidable (Signed width x) :=
  inferInstanceAs (Decidable (_ ∧ _))

section Operations

variable (width : Nat) (x y : Int)

def signed : Except Fault Int := if Signed width x then .ok x else .error .overflow

def add : Except Fault Int := signed width (x + y)

def sub : Except Fault Int := signed width (x - y)

def mul : Except Fault Int := signed width (x * y)

def div : Except Fault Int :=
  if y = 0 then .error .divisionByZero else signed width (x.tdiv y)

/-- The conversion to an unsigned type of `width` bits that keeps the value. -/
def toUnsigned : Except Fault Nat :=
  if 0 ≤ x ∧ x < 2 ^ width then .ok x.toNat else .error .narrowing

end Operations

variable {width : Nat} {x y : Int}

theorem Signed.of_le (hy : Signed width y) (hx : 0 ≤ x) (h : x ≤ y) : Signed width x := by
  have hpow : (0 : Int) ≤ 2 ^ (width - 1) := by positivity
  exact ⟨by linarith, lt_of_le_of_lt h hy.2⟩

theorem Signed.sub (hx : Signed width x) (hy : Signed width y) (hx0 : 0 ≤ x) (hy0 : 0 ≤ y) :
    Signed width (x - y) := by
  obtain ⟨-, hx⟩ := hx
  obtain ⟨-, hy⟩ := hy
  exact ⟨by linarith, by linarith⟩

theorem signed_ok (h : Signed width x) : signed width x = .ok x := if_pos h

theorem add_ok (h : Signed width (x + y)) : add width x y = .ok (x + y) := signed_ok h

theorem sub_ok (h : Signed width (x - y)) : sub width x y = .ok (x - y) := signed_ok h

theorem mul_ok (h : Signed width (x * y)) : mul width x y = .ok (x * y) := signed_ok h

theorem div_ok (hx : Signed width x) (hx0 : 0 ≤ x) (hy : 0 < y) :
    div width x y = .ok (x.tdiv y) := by
  have hle : x.tdiv y ≤ x := by
    rw [Int.tdiv_eq_ediv_of_nonneg hx0]
    exact Int.ediv_le_self y hx0
  rw [div, if_neg hy.ne', signed_ok (hx.of_le (Int.tdiv_nonneg hx0 hy.le) hle)]

theorem toUnsigned_ok (h : 0 ≤ x) (hlt : x < 2 ^ width) : toUnsigned width x = .ok x.toNat :=
  if_pos ⟨h, hlt⟩

section Run

variable {ε : Type*} {σ α : Type}

@[simp] theorem ok_bind {β : Type} (x : α) (f : α → Except ε β) : (Except.ok x >>= f) = f x := rfl

/-- A run of checked steps, each of which may also be refused. -/
def run (step : σ → α → Except ε (Option σ)) : σ → List α → Except ε (Option σ)
  | s, [] => .ok (some s)
  | s, a :: as =>
    match step s a with
    | .error e => .error e
    | .ok none => .ok none
    | .ok (some s') => run step s' as

/-- Checks that pass wherever `Inv` holds never stop a run that starts there. -/
theorem run_ok {checked : σ → α → Except ε (Option σ)} {step : σ → α → Option σ}
    (Inv : σ → Prop) (good : α → Prop)
    (hchecked : ∀ s a, Inv s → good a → checked s a = .ok (step s a))
    (hstep : ∀ s a s', Inv s → good a → step s a = some s' → Inv s') {as : List α}
    (hgood : ∀ a ∈ as, good a) {s : σ} (hs : Inv s) :
    run checked s as = .ok (as.foldlM step s) ∧ ∀ s', as.foldlM step s = some s' → Inv s' := by
  induction as generalizing s with
  | nil => exact ⟨rfl, fun s' h => Option.some.inj h ▸ hs⟩
  | cons a as ih =>
    have ha : good a := hgood a List.mem_cons_self
    rw [run, hchecked s a hs ha, List.foldlM_cons]
    cases hnext : step s a with
    | none => exact ⟨rfl, fun s' h => nomatch h⟩
    | some mid =>
      exact ih (fun b hb => hgood b (List.mem_cons_of_mem _ hb)) (hstep s a mid hs ha hnext)

end Run

end Checked
