import NwsCpp.Error

/-! The retry policy and the retry loop around an operation. Doubles are exact
rationals, `none` for a value that is not finite. -/

namespace NwsCpp

open Bytes

structure HttpResponse where
  statusCode : Int16
  body : Text
  headers : List (Text × Text) := []
  deriving DecidableEq

/-- Delays count milliseconds. -/
structure RetryPolicy where
  initialDelay : Int := 500
  maxDelay : Int := 30000
  backoffMultiplier : Option ℚ := some 2
  jitterFactor : Option ℚ := some (1 / 10)
  maxAttempts : UInt8 := 3
  retryOnNetworkError : Bool := true
  retryOnRateLimit : Bool := true
  retryOnServerError : Bool := true

namespace RetryPolicy

variable (policy : RetryPolicy)

def shouldRetryResponse (response : HttpResponse) : Bool :=
  if response.statusCode = 429 ∨ response.statusCode = 503 then policy.retryOnRateLimit
  else
    policy.retryOnServerError && decide (500 ≤ response.statusCode ∧ response.statusCode < 600)

def shouldRetryError (error : Error) : Bool :=
  policy.retryOnNetworkError && decide (error.code = .networkError)

/-- The overloads of `should_retry` on the two kinds of outcome. -/
def shouldRetry : Result HttpResponse → Bool
  | .ok response => policy.shouldRetryResponse response
  | .error error => policy.shouldRetryError error

def spread : ℚ :=
  match policy.jitterFactor with
  | some factor => max 0 (min factor 1)
  | none => 0

/-- `jitter` is the draw from `[1 - spread, 1 + spread]`, unused without a spread. -/
def calculateRetryDelay (attempt : UInt8) (jitter : ℚ) : Int :=
  let maximum := max policy.maxDelay 0
  let maxMs : ℚ := maximum
  let initial : ℚ := (max 0 (min policy.initialDelay maximum) : Int)
  let multiplier := match policy.backoffMultiplier with
    | some factor => max factor 0
    | none => 1
  let delayMs := (fun delay => min (delay * multiplier) maxMs)^[attempt.toNat - 1] initial
  let delayMs := if 0 < policy.spread then delayMs * jitter else delayMs
  if maxMs ≤ delayMs then maximum else ⌊delayMs⌋

variable {S : Type*} (operation : S → Result HttpResponse × S) (pause : UInt8 → S → S)

/-- The loop from one attempt on; `none` when the fuel does not reach its end. -/
def withRetryFrom : Nat → UInt8 → S → Option (Result HttpResponse × S)
  | 0, _, _ => none
  | fuel + 1, attempt, s =>
    if attempt ≤ policy.maxAttempts then
      match operation s with
      | (.ok response, s) =>
        if policy.shouldRetryResponse response && decide (attempt < policy.maxAttempts) then
          withRetryFrom fuel (attempt + 1) (pause attempt s)
        else some (.ok response, s)
      | (.error error, s) =>
        if policy.shouldRetryError error && decide (attempt < policy.maxAttempts) then
          withRetryFrom fuel (attempt + 1) (pause attempt s)
        else some (.error error, s)
    else some (.error (Error.network (ascii "Max retry attempts exceeded")), s)

/-- `pause` is the computed delay and the sleep between two attempts. -/
def withRetry (s : S) : Option (Result HttpResponse × S) :=
  policy.withRetryFrom operation pause 256 1 s

theorem withRetryFrom_succ (fuel : Nat) (attempt : UInt8) (s : S) :
    policy.withRetryFrom operation pause (fuel + 1) attempt s =
      if attempt ≤ policy.maxAttempts then
        if policy.shouldRetry (operation s).1 && decide (attempt < policy.maxAttempts) then
          policy.withRetryFrom operation pause fuel (attempt + 1) (pause attempt (operation s).2)
        else some (operation s)
      else some (.error (Error.network (ascii "Max retry attempts exceeded")), s) := by
  rw [withRetryFrom]
  obtain ⟨result, s'⟩ := operation s
  cases result <;> rfl

theorem toNat_succ_of_lt {attempt last : UInt8} (h : attempt < last) :
    (attempt + 1).toNat = attempt.toNat + 1 := by
  have hlast := last.toNat_lt
  rw [UInt8.lt_iff_toNat_lt] at h
  rw [UInt8.toNat_add, UInt8.toNat_one]
  omega

end RetryPolicy

end NwsCpp
