import NwsCpp.CheckedInt
import NwsCpp.RatePolling

/-! The limiter with its arithmetic checked at 64 bits: in a run of public calls no
computation leaves its range. -/

namespace NwsCpp

namespace RateLimiter

open Checked (Fault Signed)

variable (config : Config)

def refillChecked (now : Int) (b : Bucket) : Except Fault Bucket :=
  if config.maxTokens ≤ b.tokens then pure { b with lastRefill := now }
  else do
    let age ← Checked.sub 64 now b.lastRefill
    let millis ← Checked.div 64 age 1000000
    let earned ← Checked.div 64 millis config.refillInterval
    if earned ≤ 0 then pure b
    else do
      let total ← Checked.add 64 b.tokens.toNat earned
      if config.maxTokens.toNat ≤ total then pure { tokens := config.maxTokens, lastRefill := now }
      else do
        let tokens ← Checked.toUnsigned 16 total
        let paid ← Checked.mul 64 earned config.refillInterval
        let paidNanos ← Checked.mul 64 paid 1000000
        let lastRefill ← Checked.add 64 b.lastRefill paidNanos
        pure { tokens := UInt16.ofNat tokens, lastRefill }

def intervalNanosChecked : Except Fault Int := do
  let longest ← Checked.div 64 clockMax 1000000
  if longest ≤ config.refillInterval then pure clockMax
  else Checked.mul 64 config.refillInterval 1000000

def takeOrWaitTimeChecked (now later : Int) (b : Bucket) : Except Fault (Option Int × Bucket) := do
  let b ← refillChecked config now b
  if 0 < b.tokens then do
    -- `--tokens_` computes in `int` and converts back
    let left ← Checked.sub 32 b.tokens.toNat 1
    let tokens ← Checked.toUnsigned 16 left
    pure (none, { b with tokens := UInt16.ofNat tokens })
  else do
    let interval ← intervalNanosChecked config
    let age ← Checked.sub 64 later b.lastRefill
    let wait ← Checked.sub 64 interval age
    pure (some (max wait 0), b)

def availableTokensChecked (now : Int) (b : Bucket) : Except Fault UInt16 := do
  let age ← Checked.sub 64 now b.lastRefill
  let millis ← Checked.div 64 age 1000000
  let earned ← Checked.div 64 millis config.refillInterval
  let total ← Checked.add 64 b.tokens.toNat (max earned 0)
  let tokens ← Checked.toUnsigned 16 (min total config.maxTokens.toNat)
  pure (UInt16.ofNat tokens)

def deadlineForChecked (maxWait now : Int) : Except Fault Int :=
  if maxWait ≤ 0 then pure now
  else do
    let room ← Checked.sub 64 clockMax now
    let remaining ← Checked.div 64 room 1000000
    if remaining ≤ maxWait then pure clockMax
    else do
      let wait ← Checked.mul 64 maxWait 1000000
      Checked.add 64 now wait

namespace System

variable (sys : System) (caller : Nat)

def tryAcquireChecked (now later : Int) : Except Fault System := do
  let result ← takeOrWaitTimeChecked config now later sys.bucket
  pure ({ sys with bucket := result.2, clock := later }.record caller now
    (if result.1.isNone then .granted else .denied))

def attemptChecked (deadline : Option Int) (now later : Int) : Except Fault System := do
  let result ← takeOrWaitTimeChecked config now later sys.bucket
  let sys := { sys with bucket := result.2 }
  match result.1 with
  | none => pure ((sys.enter caller .idle later).record caller now .granted)
  | some wait => pure (sys.enter caller (.refused deadline wait) later)

def compareChecked (deadline : Option Int) (wait now : Int) : Except Fault System :=
  match deadline with
  | some deadline => do
    let left ← Checked.sub 64 deadline now
    if left < wait then pure ((sys.enter caller .idle now).record caller now .denied)
    else pure (sys.enter caller (.sleeping (some deadline) (now + wait)) now)
  | none => pure (sys.enter caller (.sleeping none (now + wait)) now)

end System

/-- `step` with every computation of the calls checked; the wait itself is the
standard library's. -/
def stepChecked (sys : System) (caller : Nat) (action : Action) : Except Fault (Option System) :=
  match sys.phase caller, action with
  | .idle, .tryAcquire now later =>
    if sys.clock ≤ now ∧ now ≤ later then some <$> sys.tryAcquireChecked config caller now later
    else pure none
  | .idle, .acquire now =>
    if sys.clock ≤ now then
      match config.maxWait with
      | none => pure (some (sys.enter caller (.trying none) now))
      | some maxWait => do
        let deadline ← deadlineForChecked maxWait now
        pure (some (sys.enter caller (.trying (some deadline)) now))
    else pure none
  | .idle, .acquireFor maxWait now =>
    if sys.clock ≤ now then do
      let deadline ← deadlineForChecked maxWait now
      pure (some (sys.enter caller (.trying (some deadline)) now))
    else pure none
  | .trying deadline, .attempt now later =>
    if sys.clock ≤ now ∧ now ≤ later then
      some <$> sys.attemptChecked config caller deadline now later
    else pure none
  | .refused deadline wait, .compare now =>
    if sys.clock ≤ now then some <$> sys.compareChecked caller deadline wait now else pure none
  | .sleeping deadline wakeAt, .wake now =>
    if sys.clock ≤ now ∧ wakeAt ≤ now then pure (some (sys.enter caller (.trying deadline) now))
    else pure none
  | .idle, .availableTokens now =>
    if sys.clock ≤ now then do
      let tokens ← availableTokensChecked config now sys.bucket
      pure (some ({ sys with clock := now }.record caller now (.available tokens)))
    else pure none
  | .idle, .reset now =>
    if sys.clock ≤ now then
      pure (some ({ sys with bucket := reset config now, clock := now }.record caller now .reset))
    else pure none
  | _, _ => pure none

def runChecked (sys : System) (steps : List (Nat × Action)) : Except Fault (Option System) :=
  Checked.run (fun sys next => stepChecked config sys next.1 next.2) sys steps

def Action.readings : Action → List Int
  | .tryAcquire now later => [now, later]
  | .acquire now => [now]
  | .acquireFor _ now => [now]
  | .attempt now later => [now, later]
  | .compare now => [now]
  | .wake now => [now]
  | .availableTokens now => [now]
  | .reset now => [now]

section Bounds

variable {config : Config} {now : Int} {b : Bucket}

/-- A bucket that was refilled in the past of a clock that has not overflowed. -/
structure Timely (config : Config) (now : Int) (b : Bucket) : Prop extends Valid config now b where
  start : 0 ≤ b.lastRefill
  now : now ≤ clockMax

theorem signed_of_le {x : Int} (h0 : 0 ≤ x) (h : x ≤ clockMax) : Signed 64 x := by
  have hmax : Signed 64 clockMax := by decide
  exact hmax.of_le h0 h

theorem earned_ok (hc : Sane config) (hb : Timely config now b) :
    Checked.sub 64 now b.lastRefill = .ok (now - b.lastRefill) ∧
      Checked.div 64 (now - b.lastRefill) 1000000 = .ok (toMillis (now - b.lastRefill)) ∧
      Checked.div 64 (toMillis (now - b.lastRefill)) config.refillInterval =
        .ok ((toMillis (now - b.lastRefill)).tdiv config.refillInterval) := by
  have hage : 0 ≤ now - b.lastRefill := sub_nonneg.mpr hb.lastRefill
  have hsigned : Signed 64 (now - b.lastRefill) :=
    signed_of_le hage (by have := hb.start; have := hb.now; omega)
  have hmillis : 0 ≤ toMillis (now - b.lastRefill) := Int.tdiv_nonneg hage (by decide)
  have hle : toMillis (now - b.lastRefill) ≤ now - b.lastRefill := by
    rw [toMillis, Int.tdiv_eq_ediv_of_nonneg hage]
    exact Int.ediv_le_self _ hage
  exact ⟨Checked.sub_ok hsigned, Checked.div_ok hsigned hage (by decide),
    Checked.div_ok (hsigned.of_le hmillis hle) hmillis hc.interval⟩

theorem earned_bounds (hc : Sane config) (hb : Timely config now b) {millis earned : Int}
    (hmillis : millis = toMillis (now - b.lastRefill))
    (hearned : earned = millis.tdiv config.refillInterval) :
    0 ≤ earned ∧ earned ≤ millis ∧ earned * config.refillInterval ≤ millis ∧
      millis * 1000000 ≤ now - b.lastRefill := by
  have hage : 0 ≤ now - b.lastRefill := sub_nonneg.mpr hb.lastRefill
  rw [toMillis, Int.tdiv_eq_ediv_of_nonneg hage] at hmillis
  have hnonneg : 0 ≤ millis := hmillis ▸ Int.ediv_nonneg hage (by decide)
  rw [Int.tdiv_eq_ediv_of_nonneg hnonneg] at hearned
  refine ⟨hearned ▸ Int.ediv_nonneg hnonneg hc.interval.le, ?_, ?_, ?_⟩
  · exact hearned ▸ Int.ediv_le_self _ hnonneg
  · exact hearned ▸ Int.ediv_mul_le _ hc.interval.ne'
  · exact hmillis ▸ Int.ediv_mul_le _ (by decide)

theorem refillChecked_ok (hc : Sane config) (hb : Timely config now b) :
    refillChecked config now b = .ok (refill config now b) := by
  obtain ⟨hage, hmillis, hearned⟩ := earned_ok hc hb
  obtain ⟨hnonneg, hle, hpaid, hwhole⟩ := earned_bounds hc hb rfl rfl
  have hstart := hb.start
  have hnow := hb.now
  simp only [refillChecked, refill]
  by_cases hfull : config.maxTokens ≤ b.tokens
  · rw [if_pos hfull, if_pos hfull]
    rfl
  rw [if_neg hfull, if_neg hfull]
  simp only [hage, hmillis, hearned, Checked.ok_bind]
  generalize toMillis (now - b.lastRefill) = millis at hnonneg hle hpaid hwhole ⊢
  generalize millis.tdiv config.refillInterval = earned at hnonneg hle hpaid ⊢
  by_cases hnone : earned ≤ 0
  · rw [if_pos hnone, if_pos hnone]
    rfl
  rw [if_neg hnone, if_neg hnone]
  have htok := UInt16.toNat_lt b.tokens
  have hmax := UInt16.toNat_lt config.maxTokens
  simp only [clockMax] at hnow
  have htotal : Checked.add 64 b.tokens.toNat earned = .ok (b.tokens.toNat + earned) :=
    Checked.add_ok (signed_of_le (by omega) (by rw [clockMax]; omega))
  simp only [htotal, Checked.ok_bind]
  by_cases hcap : (config.maxTokens.toNat : Int) ≤ b.tokens.toNat + earned
  · rw [if_pos hcap, if_pos hcap]
    rfl
  rw [if_neg hcap, if_neg hcap]
  have hnarrow : Checked.toUnsigned 16 (b.tokens.toNat + earned) =
      .ok (b.tokens.toNat + earned).toNat := Checked.toUnsigned_ok (by omega) (by omega)
  have hpos : 0 ≤ earned * config.refillInterval := Int.mul_nonneg hnonneg hc.interval.le
  generalize hspan : earned * config.refillInterval = span at hpaid hpos ⊢
  have hmul : Checked.mul 64 earned config.refillInterval = .ok span := by
    rw [Checked.mul, hspan]
    exact Checked.signed_ok (signed_of_le hpos (by rw [clockMax]; omega))
  have hnanos : Checked.mul 64 span 1000000 = .ok (toNanos span) :=
    Checked.mul_ok (signed_of_le (by omega) (by rw [clockMax]; omega))
  have hadd : Checked.add 64 b.lastRefill (toNanos span) = .ok (b.lastRefill + toNanos span) :=
    Checked.add_ok (signed_of_le (by rw [toNanos]; omega) (by rw [clockMax, toNanos]; omega))
  simp only [hnarrow, hmul, hnanos, hadd, Checked.ok_bind]
  rfl

theorem Timely.refill (hc : Sane config) (hb : Timely config now b) :
    Timely config now (refill config now b) where
  toValid := valid_refill hc hb.toValid
  start := by
    rcases refill_cases hc hb.toValid with
      ⟨-, hr⟩ | ⟨-, -, hr⟩ | ⟨earned, hpos, -, -, -, hl⟩ | ⟨-, hr⟩
    · rw [hr]
      exact hb.start.trans hb.lastRefill
    · rw [hr]
      exact hb.start
    · rw [hl]
      exact add_nonneg hb.start (Int.mul_nonneg hpos.le hc.period_pos.le)
    · rw [hr]
      exact hb.start.trans hb.lastRefill
  now := hb.now

theorem Timely.later (hb : Timely config now b) {later : Int} (h : now ≤ later)
    (hmax : later ≤ clockMax) : Timely config later b where
  tokens := hb.tokens
  lastRefill := hb.lastRefill.trans h
  start := hb.start
  now := hmax

theorem intervalNanosChecked_ok (hc : Sane config) :
    intervalNanosChecked config = .ok (intervalNanos config) ∧
      0 ≤ intervalNanos config ∧ intervalNanos config ≤ clockMax := by
  have hpos := hc.interval
  have hlongest : Checked.div 64 clockMax 1000000 = .ok (toMillis clockMax) := by decide
  simp only [intervalNanosChecked, intervalNanos, hlongest, Checked.ok_bind]
  by_cases hcap : toMillis clockMax ≤ config.refillInterval
  · rw [if_pos hcap, if_pos hcap]
    exact ⟨rfl, by decide, le_rfl⟩
  · rw [if_neg hcap, if_neg hcap]
    have hmillis : toMillis clockMax = 9223372036854 := by decide
    have hle : toNanos config.refillInterval ≤ clockMax := by
      rw [toNanos, clockMax]
      omega
    have hnonneg : 0 ≤ toNanos config.refillInterval := Int.mul_nonneg hpos.le (by decide)
    exact ⟨Checked.mul_ok (signed_of_le hnonneg hle), hnonneg, hle⟩

theorem takeOrWaitTimeChecked_ok (hc : Sane config) (hb : Timely config now b) {later : Int}
    (hlater : now ≤ later) (hmax : later ≤ clockMax) :
    takeOrWaitTimeChecked config now later b = .ok (takeOrWaitTime config now later b) := by
  have hr := (hb.refill hc).later hlater hmax
  simp only [takeOrWaitTimeChecked, takeOrWaitTime, refillChecked_ok hc hb, Checked.ok_bind]
  generalize refill config now b = b at hr ⊢
  by_cases hpos : 0 < b.tokens
  · rw [if_pos hpos, if_pos hpos]
    have hone := tokens_pos.mp hpos
    have htok := UInt16.toNat_lt b.tokens
    have hleft : Checked.sub 32 b.tokens.toNat 1 = .ok (b.tokens.toNat - 1) :=
      Checked.sub_ok ⟨by omega, by omega⟩
    have hnarrow : Checked.toUnsigned 16 ((b.tokens.toNat : Int) - 1) =
        .ok ((b.tokens.toNat : Int) - 1).toNat := Checked.toUnsigned_ok (by omega) (by omega)
    have htaken : UInt16.ofNat ((b.tokens.toNat : Int) - 1).toNat = b.tokens - 1 := by
      apply UInt16.toNat.inj
      rw [toNat_take hpos, UInt16.toNat_ofNat']
      omega
    simp only [hleft, hnarrow, htaken, Checked.ok_bind]
    rfl
  · rw [if_neg hpos, if_neg hpos]
    obtain ⟨hinterval, hnonneg, hle⟩ := intervalNanosChecked_ok hc
    have hage : 0 ≤ later - b.lastRefill := sub_nonneg.mpr hr.lastRefill
    have hspan : Signed 64 (later - b.lastRefill) :=
      signed_of_le hage (by have := hr.start; omega)
    have hsub : Checked.sub 64 later b.lastRefill = .ok (later - b.lastRefill) :=
      Checked.sub_ok hspan
    have hwait : Checked.sub 64 (intervalNanos config) (later - b.lastRefill) =
        .ok (intervalNanos config - (later - b.lastRefill)) :=
      Checked.sub_ok ((signed_of_le hnonneg hle).sub hspan hnonneg hage)
    simp only [hinterval, hsub, hwait, Checked.ok_bind]
    rfl

theorem Timely.takeOrWaitTime (hc : Sane config) (hb : Timely config now b) {later : Int}
    (hlater : now ≤ later) (hmax : later ≤ clockMax) :
    Timely config later (takeOrWaitTime config now later b).2 where
  toValid := valid_takeOrWaitTime hc hb.toValid hlater
  start := by
    have hstart := (hb.refill hc).start
    rw [RateLimiter.takeOrWaitTime]
    split_ifs <;> exact hstart
  now := hmax

theorem availableTokensChecked_ok (hc : Sane config) (hb : Timely config now b) :
    availableTokensChecked config now b = .ok (availableTokens config now b) := by
  obtain ⟨hage, hmillis, hearned⟩ := earned_ok hc hb
  obtain ⟨hnonneg, hle, -, hwhole⟩ := earned_bounds hc hb rfl rfl
  have hstart := hb.start
  have hnow := hb.now
  have htok := UInt16.toNat_lt b.tokens
  have hmax := UInt16.toNat_lt config.maxTokens
  simp only [availableTokensChecked, availableTokens, hage, hmillis, hearned, Checked.ok_bind]
  generalize toMillis (now - b.lastRefill) = millis at hnonneg hle hwhole ⊢
  generalize millis.tdiv config.refillInterval = earned at hnonneg hle ⊢
  simp only [clockMax] at hnow
  have htotal : Checked.add 64 b.tokens.toNat (max earned 0) =
      .ok (b.tokens.toNat + max earned 0) :=
    Checked.add_ok (signed_of_le (by omega) (by rw [clockMax]; omega))
  have hnarrow : Checked.toUnsigned 16 (min (b.tokens.toNat + max earned 0) config.maxTokens.toNat) =
      .ok (min (b.tokens.toNat + max earned 0) config.maxTokens.toNat : Int).toNat :=
    Checked.toUnsigned_ok (by omega) (by omega)
  simp only [htotal, hnarrow, Checked.ok_bind]
  rfl

theorem deadlineForChecked_ok {now : Int} (maxWait : Int) (h0 : 0 ≤ now) (hmax : now ≤ clockMax) :
    deadlineForChecked maxWait now = .ok (deadlineFor maxWait now) ∧
      0 ≤ deadlineFor maxWait now ∧ deadlineFor maxWait now ≤ clockMax := by
  have hroom : 0 ≤ clockMax - now := sub_nonneg.mpr hmax
  have hsigned : Signed 64 (clockMax - now) := signed_of_le hroom (by omega)
  have hsub : Checked.sub 64 clockMax now = .ok (clockMax - now) := Checked.sub_ok hsigned
  have hdiv : Checked.div 64 (clockMax - now) 1000000 = .ok (toMillis (clockMax - now)) :=
    Checked.div_ok hsigned hroom (by decide)
  simp only [deadlineForChecked, deadlineFor, hsub, hdiv, Checked.ok_bind]
  by_cases hnone : maxWait ≤ 0
  · rw [if_pos hnone, if_pos hnone]
    exact ⟨rfl, h0, hmax⟩
  rw [if_neg hnone, if_neg hnone]
  by_cases hcap : toMillis (clockMax - now) ≤ maxWait
  · rw [if_pos hcap, if_pos hcap]
    exact ⟨rfl, by decide, le_rfl⟩
  simp only [if_neg hcap]
  rw [toMillis, Int.tdiv_eq_ediv_of_nonneg hroom] at hcap
  have hwait : 0 ≤ toNanos maxWait := Int.mul_nonneg (by omega) (by decide)
  have hsum : now + toNanos maxWait ≤ clockMax := by
    rw [toNanos]
    omega
  have hmul : Checked.mul 64 maxWait 1000000 = .ok (toNanos maxWait) :=
    Checked.mul_ok (signed_of_le hwait (by omega))
  have hadd : Checked.add 64 now (toNanos maxWait) = .ok (now + toNanos maxWait) :=
    Checked.add_ok (signed_of_le (by omega) hsum)
  refine ⟨?_, by omega, hsum⟩
  simp only [hmul, hadd, Checked.ok_bind]

end Bounds

def Phase.deadline : Phase → Option Int
  | .idle => none
  | .trying deadline => deadline
  | .refused deadline _ => deadline
  | .sleeping deadline _ => deadline

/-- What keeps every computation of the next step in range. -/
structure InRange (config : Config) (sys : System) : Prop where
  bucket : Timely config sys.clock sys.bucket
  deadlines : ∀ caller d, (sys.phase caller).deadline = some d → 0 ≤ d ∧ d ≤ clockMax

namespace InRange

variable {config : Config} {sys : System} {now later : Int}

theorem clock_nonneg (h : InRange config sys) : 0 ≤ sys.clock :=
  h.bucket.start.trans h.bucket.lastRefill

theorem init (hc : Sane config) {start : Int} (h0 : 0 ≤ start) (hmax : start ≤ clockMax) :
    InRange config (System.init config start) where
  bucket := ⟨⟨hc.initial, le_rfl⟩, h0, hmax⟩
  deadlines := by simp [System.init, Phase.deadline]

theorem bucket_at (h : InRange config sys) (hnow : sys.clock ≤ now) (hmax : now ≤ clockMax) :
    Timely config now sys.bucket := h.bucket.later hnow hmax

theorem enter (h : InRange config sys) (caller : Nat) {phase : Phase} (hnow : sys.clock ≤ now)
    (hmax : now ≤ clockMax)
    (hphase : ∀ d, phase.deadline = some d → 0 ≤ d ∧ d ≤ clockMax) :
    InRange config (sys.enter caller phase now) where
  bucket := h.bucket_at hnow hmax
  deadlines c d hd := by
    by_cases hself : c = caller
    · subst hself
      simp only [System.enter, Function.update_self] at hd
      exact hphase d hd
    · simp only [System.enter, Function.update_of_ne hself] at hd
      exact h.deadlines c d hd

theorem enter_idle (h : InRange config sys) (caller : Nat) (hnow : sys.clock ≤ now)
    (hmax : now ≤ clockMax) : InRange config (sys.enter caller .idle now) :=
  h.enter caller hnow hmax (by simp [Phase.deadline])

theorem record (h : InRange config sys) (caller : Nat) (time : Int) (kind : EventKind) :
    InRange config (sys.record caller time kind) := ⟨h.bucket, h.deadlines⟩

theorem refilled (h : InRange config sys) {b : Bucket} (hb : Timely config now b) :
    InRange config { sys with bucket := b, clock := now } := ⟨hb, h.deadlines⟩

theorem tryAcquire (hc : Sane config) (h : InRange config sys) (caller : Nat)
    (hnow : sys.clock ≤ now) (hlater : now ≤ later) (hmax : later ≤ clockMax) :
    sys.tryAcquireChecked config caller now later = .ok (sys.tryAcquire config caller now later) ∧
      InRange config (sys.tryAcquire config caller now later) := by
  have hb := h.bucket_at hnow (hlater.trans hmax)
  refine ⟨?_, (h.refilled (hb.takeOrWaitTime hc hlater hmax)).record caller now _⟩
  rw [System.tryAcquireChecked, takeOrWaitTimeChecked_ok hc hb hlater hmax]
  rfl

theorem attempt (hc : Sane config) (h : InRange config sys) (caller : Nat) {deadline : Option Int}
    (hdeadline : ∀ d, deadline = some d → 0 ≤ d ∧ d ≤ clockMax)
    (hnow : sys.clock ≤ now) (hlater : now ≤ later) (hmax : later ≤ clockMax) :
    sys.attemptChecked config caller deadline now later =
        .ok (sys.attempt config caller deadline now later) ∧
      InRange config (sys.attempt config caller deadline now later) := by
  have hb := h.bucket_at hnow (hlater.trans hmax)
  have hnext := h.refilled (hb.takeOrWaitTime hc hlater hmax)
  simp only [System.attemptChecked, System.attempt, takeOrWaitTimeChecked_ok hc hb hlater hmax,
    Checked.ok_bind]
  cases (RateLimiter.takeOrWaitTime config now later sys.bucket).1 with
  | none =>
    have hidle := hnext.enter_idle caller le_rfl hmax
    exact ⟨rfl, hidle.record caller now .granted⟩
  | some wait => exact ⟨rfl, hnext.enter caller le_rfl hmax hdeadline⟩

theorem compare (h : InRange config sys) (caller : Nat) {deadline : Option Int} (wait : Int)
    (hdeadline : ∀ d, deadline = some d → 0 ≤ d ∧ d ≤ clockMax)
    (hnow : sys.clock ≤ now) (hmax : now ≤ clockMax) :
    sys.compareChecked caller deadline wait now = .ok (sys.compare caller deadline wait now) ∧
      InRange config (sys.compare caller deadline wait now) := by
  have hidle : InRange config (sys.enter caller .idle now) :=
    h.enter_idle caller hnow hmax
  have hsleep : InRange config (sys.enter caller (.sleeping deadline (now + wait)) now) :=
    h.enter caller hnow hmax hdeadline
  cases deadline with
  | none => exact ⟨rfl, hsleep⟩
  | some d =>
    obtain ⟨h0, hd⟩ := hdeadline d rfl
    have hclock : 0 ≤ now := h.clock_nonneg.trans hnow
    have hleft : Checked.sub 64 d now = .ok (d - now) :=
      Checked.sub_ok ((signed_of_le h0 hd).sub (signed_of_le hclock hmax) h0 hclock)
    simp only [System.compareChecked, System.compare, hleft, Checked.ok_bind, decide_eq_true_eq]
    by_cases hlate : d - now < wait
    · rw [if_pos hlate, if_pos hlate]
      exact ⟨rfl, hidle.record caller now _⟩
    · rw [if_neg hlate, if_neg hlate]
      exact ⟨rfl, hsleep⟩

theorem guarded {p : Prop} [Decidable p] {checked : Except Fault (Option System)} {next : System}
    (h : p → checked = .ok (some next) ∧ InRange config next) :
    (if p then checked else pure none) = .ok (if p then some next else none) ∧
      ∀ sys', (if p then some next else none) = some sys' → InRange config sys' := by
  by_cases hp : p
  · obtain ⟨hchecked, hnext⟩ := h hp
    simp only [if_pos hp]
    exact ⟨hchecked, fun sys' hs => Option.some.inj hs ▸ hnext⟩
  · simp only [if_neg hp]
    exact ⟨rfl, fun sys' hs => nomatch hs⟩

theorem enterUntil (h : InRange config sys) (caller : Nat) (maxWait : Int)
    (hnow : sys.clock ≤ now) (hmax : now ≤ clockMax) :
    (do
      let deadline ← deadlineForChecked maxWait now
      pure (some (sys.enter caller (.trying (some deadline)) now))) =
        Except.ok (some (sys.enter caller (.trying (some (deadlineFor maxWait now))) now)) ∧
      InRange config (sys.enter caller (.trying (some (deadlineFor maxWait now))) now) := by
  obtain ⟨hchecked, hd⟩ := deadlineForChecked_ok maxWait (h.clock_nonneg.trans hnow) hmax
  simp only [hchecked, Checked.ok_bind]
  exact ⟨rfl, h.enter caller hnow hmax fun d hd' => Option.some.inj hd' ▸ hd⟩

theorem step (hc : Sane config) (h : InRange config sys) (caller : Nat) {action : Action}
    (hmax : ∀ t ∈ action.readings, t ≤ clockMax) :
    stepChecked config sys caller action = .ok (RateLimiter.step config sys caller action) ∧
      ∀ sys', RateLimiter.step config sys caller action = some sys' → InRange config sys' := by
  have hdeadlines := h.deadlines caller
  unfold stepChecked RateLimiter.step
  generalize sys.phase caller = phase at hdeadlines ⊢
  cases phase with
  | idle =>
    cases action with
    | tryAcquire now later =>
      refine guarded fun ⟨hnow, hlater⟩ => ?_
      obtain ⟨hchecked, hnext⟩ := h.tryAcquire hc caller hnow hlater
        (hmax later (by simp [Action.readings]))
      exact ⟨by rw [hchecked]; rfl, hnext⟩
    | acquire now =>
      refine guarded fun hnow => ?_
      have hnowMax := hmax now (by simp [Action.readings])
      cases config.maxWait with
      | none => exact ⟨rfl, h.enter caller hnow hnowMax (by simp [Phase.deadline])⟩
      | some maxWait => exact h.enterUntil caller maxWait hnow hnowMax
    | acquireFor maxWait now =>
      exact guarded fun hnow =>
        h.enterUntil caller maxWait hnow (hmax now (by simp [Action.readings]))
    | availableTokens now =>
      refine guarded fun hnow => ?_
      have hb := h.bucket_at hnow (hmax now (by simp [Action.readings]))
      rw [availableTokensChecked_ok hc hb, Checked.ok_bind]
      exact ⟨rfl, (h.refilled hb).record caller now _⟩
    | reset now =>
      refine guarded fun hnow => ?_
      have hb : Timely config now (reset config now) :=
        ⟨⟨hc.initial, le_rfl⟩, h.clock_nonneg.trans hnow, hmax now (by simp [Action.readings])⟩
      exact ⟨rfl, (h.refilled hb).record caller now .reset⟩
    | _ => exact ⟨rfl, fun sys' hs => nomatch hs⟩
  | trying deadline =>
    simp only [Phase.deadline] at hdeadlines
    cases action with
    | attempt now later =>
      refine guarded fun ⟨hnow, hlater⟩ => ?_
      obtain ⟨hchecked, hnext⟩ := h.attempt hc caller hdeadlines hnow hlater
        (hmax later (by simp [Action.readings]))
      exact ⟨by rw [hchecked]; rfl, hnext⟩
    | _ => exact ⟨rfl, fun sys' hs => nomatch hs⟩
  | refused deadline wait =>
    simp only [Phase.deadline] at hdeadlines
    cases action with
    | compare now =>
      refine guarded fun hnow => ?_
      obtain ⟨hchecked, hnext⟩ := h.compare caller wait hdeadlines hnow
        (hmax now (by simp [Action.readings]))
      exact ⟨by rw [hchecked]; rfl, hnext⟩
    | _ => exact ⟨rfl, fun sys' hs => nomatch hs⟩
  | sleeping deadline wakeAt =>
    cases action with
    | wake now =>
      exact guarded fun ⟨hnow, _⟩ =>
        ⟨rfl, h.enter caller hnow (hmax now (by simp [Action.readings])) hdeadlines⟩
    | _ => exact ⟨rfl, fun sys' hs => nomatch hs⟩

end InRange

/-- Whatever the configuration, runs at clock readings of 64 bits from zero on compute
nothing out of range: the checked limiter does what the limiter does. -/
theorem arithmetic_in_range (config : Config) {start : Int} (h0 : 0 ≤ start)
    (hstart : start ≤ clockMax) (steps : List (Nat × Action))
    (hreadings : ∀ next ∈ steps, ∀ t ∈ next.2.readings, t ≤ clockMax) :
    runChecked (sanitized config) (System.init (sanitized config) start) steps =
        .ok (run (sanitized config) (System.init (sanitized config) start) steps) ∧
      ∀ sys, run (sanitized config) (System.init (sanitized config) start) steps = some sys →
        sys.bucket.tokens ≤ (sanitized config).maxTokens ∧ sys.bucket.lastRefill ≤ sys.clock := by
  have hc := sane_sanitized config
  obtain ⟨hrun, hinv⟩ := Checked.run_ok (InRange (sanitized config))
    (fun (next : Nat × Action) => ∀ t ∈ next.2.readings, t ≤ clockMax)
    (fun sys next h hmax => (InRange.step hc h next.1 hmax).1)
    (fun sys next sys' h hmax => (InRange.step hc h next.1 hmax).2 sys') hreadings
    (InRange.init hc h0 hstart)
  refine ⟨hrun, fun sys hsys => ?_⟩
  have hb := (hinv sys hsys).bucket
  exact ⟨UInt16.le_iff_toNat_le.mpr hb.tokens, hb.lastRefill⟩

/-- A token every `2 ^ 63 - 1` milliseconds, and a wait as long. -/
def longest : Config where
  maxTokens := 65535
  refillInterval := 2 ^ 63 - 1
  initialTokens := 1
  maxWait := some (2 ^ 63 - 1)

/-- The only token is taken, then a caller waits for the next at the clock's last instant. -/
def lastInstant : List (Nat × Action) :=
  [(0, .tryAcquire 0 clockMax), (0, .acquire clockMax), (0, .attempt clockMax clockMax)]

theorem arithmetic_in_range_last_instant :
    ∃ sys, runChecked (sanitized longest) (System.init (sanitized longest) 0) lastInstant =
      .ok (some sys) ∧ sys.bucket.lastRefill ≤ sys.clock := by
  obtain ⟨hchecked, hinv⟩ := arithmetic_in_range longest le_rfl (by decide) lastInstant (by decide)
  have hsome : (run (sanitized longest) (System.init (sanitized longest) 0)
      lastInstant).isSome = true := by decide
  obtain ⟨sys, hsys⟩ := Option.isSome_iff_exists.mp hsome
  exact ⟨sys, by rw [hchecked, hsys], (hinv sys hsys).2⟩

end RateLimiter

end NwsCpp
