import NwsCpp.Retry
import Mathlib.Order.Bounds.Basic

/-! The calls and sleeps of a whole retry loop, for any sequence of outcomes. -/

namespace NwsCpp

open Bytes

/-- What one retry loop has done: its calls, and for each sleep the value of the attempt
counter that is about to be incremented and the length of the sleep. -/
structure RetryTrace where
  calls : Nat := 0
  sleeps : List (UInt8 × Int) := []
  deriving DecidableEq

/-- The operation whose calls have the outcomes `outcome 1`, `outcome 2` and so on. -/
def RetryTrace.call (outcome : Nat → Result HttpResponse) (s : RetryTrace) :
    Result HttpResponse × RetryTrace :=
  (outcome (s.calls + 1), { s with calls := s.calls + 1 })

namespace RetryPolicy

variable (policy : RetryPolicy) (outcome : Nat → Result HttpResponse) (draw : Nat → ℚ)

/-- `draw i` is the jitter drawn for the sleep after the `i`-th call. -/
def sleepFor (attempt : UInt8) (s : RetryTrace) : RetryTrace :=
  { s with sleeps := s.sleeps ++ [(attempt, policy.calculateRetryDelay attempt (draw s.calls))] }

def retrySleep (i : Nat) : UInt8 × Int :=
  (UInt8.ofNat i, policy.calculateRetryDelay (UInt8.ofNat i) (draw i))

/-- The trace of `n` calls with the sleep after each. -/
def retriedTrace (n : Nat) : RetryTrace where
  calls := n
  sleeps := (List.range' 1 n).map (policy.retrySleep draw)

/-- The loop ends with call `k`. -/
def StopsAt (k : Nat) : Prop :=
  policy.shouldRetry (outcome k) = false ∨ k = policy.maxAttempts.toNat

variable {policy outcome draw}

theorem sleepFor_call {n : Nat} {attempt : UInt8} (h : attempt.toNat = n + 1) :
    policy.sleepFor draw attempt (RetryTrace.call outcome (policy.retriedTrace draw n)).2 =
      policy.retriedTrace draw (n + 1) := by
  have hattempt : attempt = UInt8.ofNat (n + 1) := by rw [← h, UInt8.ofNat_toNat]
  simp [sleepFor, RetryTrace.call, retriedTrace, retrySleep, hattempt, List.range'_concat,
    Nat.add_comm 1 n]

/-- From attempt `n + 1` on, the loop runs to the first call at which it stops. -/
theorem withRetryFrom_run {fuel n k : Nat} {attempt : UInt8} (hattempt : attempt.toNat = n + 1)
    (hle : attempt ≤ policy.maxAttempts) (hn : n < k) (hstop : policy.StopsAt outcome k)
    (hfirst : ∀ j, n < j → j < k → ¬policy.StopsAt outcome j) (hfuel : k ≤ n + fuel) :
    policy.withRetryFrom (RetryTrace.call outcome) (policy.sleepFor draw) fuel attempt
        (policy.retriedTrace draw n) =
      some (outcome k, { policy.retriedTrace draw (k - 1) with calls := k }) := by
  induction fuel generalizing n attempt with
  | zero => omega
  | succ fuel ih =>
    rw [withRetryFrom_succ, if_pos hle]
    have houtcome : (RetryTrace.call outcome (policy.retriedTrace draw n)).1 = outcome (n + 1) := rfl
    rw [houtcome]
    by_cases hnext : n + 1 = k
    · have hlast : (policy.shouldRetry (outcome (n + 1)) &&
          decide (attempt < policy.maxAttempts)) = false := by
        rw [hnext]
        rcases hstop with hretry | hmax
        · rw [hretry, Bool.false_and]
        · have hge : ¬attempt < policy.maxAttempts := by
            rw [UInt8.lt_iff_toNat_lt]
            omega
          simp [hge]
      rw [hlast, if_neg (by simp), ← hnext]
      rfl
    · have hgoes := hfirst (n + 1) (by omega) (by omega)
      rw [StopsAt, not_or, Bool.not_eq_false] at hgoes
      obtain ⟨hretry, hmax⟩ := hgoes
      have hlt : attempt < policy.maxAttempts := by
        rw [UInt8.le_iff_toNat_le] at hle
        rw [UInt8.lt_iff_toNat_lt]
        omega
      have hsucc := toNat_succ_of_lt hlt
      rw [hretry, Bool.true_and, decide_eq_true hlt, if_pos rfl, sleepFor_call hattempt]
      refine ih (by omega) ?_ (by omega) (fun j hj hjk => hfirst j (by omega) hjk) (by omega)
      rw [UInt8.le_iff_toNat_le, hsucc]
      rw [UInt8.lt_iff_toNat_lt] at hlt
      omega

theorem exists_isLeast_stopsAt (outcome : Nat → Result HttpResponse) (h : policy.maxAttempts ≠ 0) :
    ∃ k, IsLeast {k | 1 ≤ k ∧ policy.StopsAt outcome k} k := by
  classical
  have hmax : ∃ k, 1 ≤ k ∧ policy.StopsAt outcome k := by
    refine ⟨policy.maxAttempts.toNat, ?_, .inr rfl⟩
    have hne : policy.maxAttempts.toNat ≠ 0 := by
      rwa [Ne, ← UInt8.toNat_zero, UInt8.toNat_inj]
    omega
  exact ⟨Nat.find hmax, Nat.find_spec hmax, fun j hj => Nat.find_min' hmax hj⟩

theorem withRetry_run {k : Nat} (draw : Nat → ℚ) (h : policy.maxAttempts ≠ 0)
    (hk : IsLeast {k | 1 ≤ k ∧ policy.StopsAt outcome k} k) :
    k ≤ policy.maxAttempts.toNat ∧
      policy.withRetry (RetryTrace.call outcome) (policy.sleepFor draw) {} =
        some (outcome k, { policy.retriedTrace draw (k - 1) with calls := k }) := by
  obtain ⟨⟨hpos, hstop⟩, hleast⟩ := hk
  have hne : policy.maxAttempts.toNat ≠ 0 := by
    rwa [Ne, ← UInt8.toNat_zero, UInt8.toNat_inj]
  have hmax : k ≤ policy.maxAttempts.toNat := hleast ⟨by omega, .inr rfl⟩
  have hlt := policy.maxAttempts.toNat_lt
  refine ⟨hmax, ?_⟩
  refine withRetryFrom_run (n := 0) rfl ?_ hpos hstop ?_ (by omega)
  · rw [UInt8.le_iff_toNat_le, UInt8.toNat_one]
    omega
  · intro j hj hjk hstops
    have := hleast ⟨hj, hstops⟩
    omega

/-- The operation runs until the first outcome that is not retryable or until the last
attempt, with the computed delay between two calls. -/
theorem withRetry_calls (policy : RetryPolicy) (outcome : Nat → Result HttpResponse)
    (draw : Nat → ℚ) :
    ∃ result trace,
      policy.withRetry (RetryTrace.call outcome) (policy.sleepFor draw) {} = some (result, trace) ∧
      (policy.maxAttempts = 0 → trace = {} ∧
        ∃ error, result = .error error ∧ error.code = .networkError) ∧
      (policy.maxAttempts ≠ 0 → ∃ k,
        IsLeast {k | 1 ≤ k ∧ (policy.shouldRetry (outcome k) = false ∨
          k = policy.maxAttempts.toNat)} k ∧
        trace.calls = k ∧ result = outcome k ∧
        trace.sleeps.map Prod.snd = (List.range' 1 (k - 1)).map
          (fun i => policy.calculateRetryDelay (UInt8.ofNat i) (draw i)) ∧
        trace.sleeps.map (fun sleep => sleep.1.toNat) = List.range' 1 (k - 1) ∧
        ∀ sleep ∈ trace.sleeps, (sleep.1 + 1).toNat = sleep.1.toNat + 1) := by
  by_cases hzero : policy.maxAttempts = 0
  · have hnone : ¬(1 : UInt8) ≤ policy.maxAttempts := by
      rw [hzero]
      decide
    refine ⟨.error (Error.network (ascii "Max retry attempts exceeded")), {}, ?_,
      fun _ => ⟨rfl, _, rfl, rfl⟩, fun h => (h hzero).elim⟩
    rw [withRetry, withRetryFrom_succ, if_neg hnone]
  · obtain ⟨k, hk⟩ := exists_isLeast_stopsAt outcome hzero
    obtain ⟨hmax, hrun⟩ := withRetry_run draw hzero hk
    have hlt := policy.maxAttempts.toNat_lt
    refine ⟨_, _, hrun, fun h => (hzero h).elim, fun _ => ⟨k, hk, rfl, rfl, ?_, ?_, ?_⟩⟩
    · simp [retriedTrace, retrySleep]
    · rw [retriedTrace, List.map_map]
      refine (List.map_congr_left fun i hi => ?_).trans (List.map_id _)
      rw [List.mem_range'_1] at hi
      exact Nat.mod_eq_of_lt (by omega)
    · intro sleep hsleep
      simp only [retriedTrace, List.mem_map, List.mem_range'_1] at hsleep
      obtain ⟨i, hi, rfl⟩ := hsleep
      have htoNat : (UInt8.ofNat i).toNat = i := Nat.mod_eq_of_lt (by omega)
      rw [retrySleep, UInt8.toNat_add, UInt8.toNat_one, htoNat]
      omega

end RetryPolicy

end NwsCpp
