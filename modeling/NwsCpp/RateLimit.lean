import Mathlib

/-! The token bucket of the rate limiter and the callers that share it. Clock
readings count nanoseconds, configured durations milliseconds. -/

namespace NwsCpp

namespace RateLimiter

structure Config where
  maxTokens : UInt16 := 5
  refillInterval : Int := 1000
  initialTokens : UInt16 := 5
  maxWait : Option Int := none

def sanitized (config : Config) : Config :=
  let refillInterval := if config.refillInterval ≤ 0 then 1000 else config.refillInterval
  let maxTokens := max config.maxTokens 1
  { config with refillInterval, maxTokens, initialTokens := min config.initialTokens maxTokens }

/-- `Clock::duration::max()` and `Clock::time_point::max()`. -/
def clockMax : Int := 2 ^ 63 - 1

def toMillis (d : Int) : Int := d.tdiv 1000000

def toNanos (d : Int) : Int := d * 1000000

structure Bucket where
  tokens : UInt16
  lastRefill : Int

variable (config : Config)

def refill (now : Int) (b : Bucket) : Bucket :=
  if config.maxTokens ≤ b.tokens then { b with lastRefill := now }
  else
    let earned := (toMillis (now - b.lastRefill)).tdiv config.refillInterval
    if earned ≤ 0 then b
    else
      let total : Int := b.tokens.toNat + earned
      if config.maxTokens.toNat ≤ total then { tokens := config.maxTokens, lastRefill := now }
      else
        { tokens := UInt16.ofNat total.toNat
          lastRefill := b.lastRefill + toNanos (earned * config.refillInterval) }

def intervalNanos : Int :=
  if toMillis clockMax ≤ config.refillInterval then clockMax else toNanos config.refillInterval

/-- No wait when a token was taken; `later` is the second clock reading. -/
def takeOrWaitTime (now later : Int) (b : Bucket) : Option Int × Bucket :=
  let b := refill config now b
  if 0 < b.tokens then (none, { b with tokens := b.tokens - 1 })
  else (some (max (intervalNanos config - (later - b.lastRefill)) 0), b)

def availableTokens (now : Int) (b : Bucket) : UInt16 :=
  let earned := (toMillis (now - b.lastRefill)).tdiv config.refillInterval
  UInt16.ofNat (min ((b.tokens.toNat : Int) + max earned 0) config.maxTokens.toNat).toNat

def reset (now : Int) : Bucket := { tokens := config.initialTokens, lastRefill := now }

def deadlineFor (maxWait now : Int) : Int :=
  if maxWait ≤ 0 then now
  else if toMillis (clockMax - now) ≤ maxWait then clockMax
  else now + toNanos maxWait

/-- Where a caller stands in `acquire_until`. -/
inductive Phase where
  | idle
  | trying (deadline : Option Int)
  | refused (deadline : Option Int) (wait : Int)
  | sleeping (deadline : Option Int) (wakeAt : Int)
  deriving DecidableEq

/-- The atomic steps of a caller, each with its clock readings. -/
inductive Action where
  | tryAcquire (now later : Int)
  | acquire (now : Int)
  | acquireFor (maxWait now : Int)
  | attempt (now later : Int)
  | compare (now : Int)
  | wake (now : Int)
  | availableTokens (now : Int)
  | reset (now : Int)

inductive EventKind where
  | granted
  | denied
  | available (tokens : UInt16)
  | reset
  deriving DecidableEq

structure Event where
  caller : Nat
  time : Int
  kind : EventKind

/-- The limiter, the latest clock reading, the callers, and what has been
returned to them, the latest first. -/
structure System where
  bucket : Bucket
  clock : Int
  phase : Nat → Phase
  history : List Event

def System.init (start : Int) : System where
  bucket := reset config start
  clock := start
  phase := fun _ => .idle
  history := []

namespace System

variable (sys : System) (caller : Nat)

def enter (phase : Phase) (now : Int) : System :=
  { sys with phase := Function.update sys.phase caller phase, clock := now }

def record (time : Int) (kind : EventKind) : System :=
  { sys with history := ⟨caller, time, kind⟩ :: sys.history }

def tryAcquire (now later : Int) : System :=
  let result := takeOrWaitTime config now later sys.bucket
  { sys with bucket := result.2, clock := later }.record caller now
    (if result.1.isNone then .granted else .denied)

def attempt (deadline : Option Int) (now later : Int) : System :=
  let result := takeOrWaitTime config now later sys.bucket
  let sys := { sys with bucket := result.2 }
  match result.1 with
  | none => (sys.enter caller .idle later).record caller now .granted
  | some wait => sys.enter caller (.refused deadline wait) later

def compare (deadline : Option Int) (wait now : Int) : System :=
  let expired := match deadline with
    | some deadline => decide (deadline - now < wait)
    | none => false
  if expired then (sys.enter caller .idle now).record caller now .denied
  else sys.enter caller (.sleeping deadline (now + wait)) now

end System

/-- One atomic step; `none` where the caller cannot take it. -/
def step (sys : System) (caller : Nat) (action : Action) : Option System :=
  match sys.phase caller, action with
  | .idle, .tryAcquire now later =>
    if sys.clock ≤ now ∧ now ≤ later then some (sys.tryAcquire config caller now later) else none
  | .idle, .acquire now =>
    if sys.clock ≤ now then
      some (sys.enter caller (.trying (config.maxWait.map (deadlineFor · now))) now)
    else none
  | .idle, .acquireFor maxWait now =>
    if sys.clock ≤ now then
      some (sys.enter caller (.trying (some (deadlineFor maxWait now))) now)
    else none
  | .trying deadline, .attempt now later =>
    if sys.clock ≤ now ∧ now ≤ later then some (sys.attempt config caller deadline now later)
    else none
  | .refused deadline wait, .compare now =>
    if sys.clock ≤ now then some (sys.compare caller deadline wait now) else none
  | .sleeping deadline wakeAt, .wake now =>
    if sys.clock ≤ now ∧ wakeAt ≤ now then some (sys.enter caller (.trying deadline) now) else none
  | .idle, .availableTokens now =>
    if sys.clock ≤ now then
      some ({ sys with clock := now }.record caller now
        (.available (availableTokens config now sys.bucket)))
    else none
  | .idle, .reset now =>
    if sys.clock ≤ now then
      some ({ sys with bucket := reset config now, clock := now }.record caller now .reset)
    else none
  | _, _ => none

def run (sys : System) (steps : List (Nat × Action)) : Option System :=
  steps.foldlM (fun sys next => step config sys next.1 next.2) sys

end RateLimiter

end NwsCpp
