import NwsCpp.RateLimit

/-! The rate bound: how many tokens the callers can take in a window of time,
whatever their interleaving. -/

namespace NwsCpp

namespace RateLimiter

structure Sane (config : Config) : Prop where
  interval : 0 < config.refillInterval
  tokens : 0 < config.maxTokens.toNat
  initial : config.initialTokens.toNat ≤ config.maxTokens.toNat

theorem toNat_min (a b : UInt16) : (min a b).toNat = min a.toNat b.toNat := by
  change (if a ≤ b then a else b).toNat = _
  simp only [UInt16.le_iff_toNat_le]
  split_ifs <;> omega

theorem toNat_max (a b : UInt16) : (max a b).toNat = max a.toNat b.toNat := by
  change (if a ≤ b then b else a).toNat = _
  simp only [UInt16.le_iff_toNat_le]
  split_ifs <;> omega

theorem sane_sanitized (config : Config) : Sane (sanitized config) where
  interval := by
    simp only [sanitized]
    split_ifs <;> omega
  tokens := by
    rw [sanitized, toNat_max]
    exact lt_max_of_lt_right Nat.one_pos
  initial := by
    rw [sanitized, toNat_min]
    exact min_le_right _ _

def Config.period (config : Config) : Int := toNanos config.refillInterval

variable {config : Config} {b : Bucket} {clock now : Int}

theorem Sane.period_pos (h : Sane config) : 0 < config.period :=
  Int.mul_pos h.interval (by decide)

theorem earned_eq (config : Config) {d : Int} (hd : 0 ≤ d) :
    (toMillis d).tdiv config.refillInterval = d / config.period := by
  have hms : 0 ≤ d / 1000000 := Int.ediv_nonneg hd (by decide)
  rw [toMillis, Int.tdiv_eq_ediv_of_nonneg hd, Int.tdiv_eq_ediv_of_nonneg hms,
    Int.ediv_ediv_of_nonneg (by decide), Config.period, toNanos, mul_comm]

/-- A bucket that holds no more than it may and was refilled in the past. -/
structure Valid (config : Config) (clock : Int) (b : Bucket) : Prop where
  tokens : b.tokens.toNat ≤ config.maxTokens.toNat
  lastRefill : b.lastRefill ≤ clock

theorem tokens_pos {n : UInt16} : 0 < n ↔ 0 < n.toNat := by
  rw [UInt16.lt_iff_toNat_lt, UInt16.toNat_zero]

theorem toNat_take {n : UInt16} (h : 0 < n) : (n - 1).toNat = n.toNat - 1 :=
  UInt16.toNat_sub_of_le _ _ (UInt16.le_iff_toNat_le.mpr (tokens_pos.mp h))

theorem Valid.until {later : Int} (h : Valid config now b) (hlater : now ≤ later) :
    Valid config later b := ⟨h.tokens, h.lastRefill.trans hlater⟩

theorem Valid.take (h : Valid config now b) (hpos : 0 < b.tokens) :
    Valid config now { b with tokens := b.tokens - 1 } := by
  refine ⟨?_, h.lastRefill⟩
  have htok := h.tokens
  rw [toNat_take hpos]
  omega

theorem refill_cases (hc : Sane config) (hb : Valid config now b) :
    (b.tokens.toNat = config.maxTokens.toNat ∧ refill config now b = { b with lastRefill := now }) ∨
    (b.tokens.toNat < config.maxTokens.toNat ∧ now - b.lastRefill < config.period ∧
      refill config now b = b) ∨
    (∃ earned, 0 < earned ∧ earned = (now - b.lastRefill) / config.period ∧
      (b.tokens.toNat : Int) + earned < config.maxTokens.toNat ∧
      ((refill config now b).tokens.toNat : Int) = b.tokens.toNat + earned ∧
      (refill config now b).lastRefill = b.lastRefill + earned * config.period) ∨
    ((config.maxTokens.toNat : Int) ≤ b.tokens.toNat + (now - b.lastRefill) / config.period ∧
      refill config now b = { tokens := config.maxTokens, lastRefill := now }) := by
  have hage : 0 ≤ now - b.lastRefill := sub_nonneg.mpr hb.lastRefill
  have hpos := hc.period_pos
  have htok := hb.tokens
  rw [refill]
  simp only [earned_eq config hage]
  by_cases hfull : config.maxTokens ≤ b.tokens
  · have hle := UInt16.le_iff_toNat_le.mp hfull
    exact Or.inl ⟨le_antisymm htok hle, if_pos hfull⟩
  · have hlt : b.tokens.toNat < config.maxTokens.toNat := by
      rw [UInt16.le_iff_toNat_le] at hfull
      omega
    rw [if_neg hfull]
    by_cases hearned : (now - b.lastRefill) / config.period ≤ 0
    · have hlate : now - b.lastRefill < 1 * config.period :=
        (Int.ediv_lt_iff_lt_mul hpos).mp (by omega)
      exact Or.inr (Or.inl ⟨hlt, by omega, if_pos hearned⟩)
    · rw [if_neg hearned]
      by_cases hcap : (config.maxTokens.toNat : Int) ≤
          b.tokens.toNat + (now - b.lastRefill) / config.period
      · exact Or.inr (Or.inr (Or.inr ⟨hcap, if_pos hcap⟩))
      · have hsmall := UInt16.toNat_lt config.maxTokens
        refine Or.inr (Or.inr (Or.inl ⟨_, not_le.mp hearned, rfl, not_le.mp hcap, ?_, ?_⟩))
        · rw [if_neg hcap]
          simp only [UInt16.toNat_ofNat']
          omega
        · rw [if_neg hcap]
          simp only [Config.period, toNanos]
          ring

/-- `granted` tokens taken since `start`, with all that the bucket can still earn
by any later time, stay within the allowance of that time. -/
def Within (config : Config) (start : Int) (granted : Nat) (clock : Int) (b : Bucket) : Prop :=
  ∀ t, clock ≤ t → (granted : Int) + b.tokens.toNat + (t - b.lastRefill) / config.period ≤
    config.maxTokens.toNat + (t - start) / config.period

theorem valid_refill (hc : Sane config) (hb : Valid config now b) :
    Valid config now (refill config now b) := by
  rcases refill_cases hc hb with ⟨-, hr⟩ | ⟨-, -, hr⟩ | ⟨earned, -, hearned, hlt, ht, hl⟩ | ⟨-, hr⟩
  · exact hr ▸ ⟨hb.tokens, le_rfl⟩
  · rwa [hr]
  · have hpaid := Int.ediv_mul_le (now - b.lastRefill) hc.period_pos.ne'
    rw [← hearned] at hpaid
    exact ⟨by omega, by omega⟩
  · exact hr ▸ ⟨le_rfl, le_rfl⟩

/-- Less than one period of credit is left outside a bucket that is not full. -/
theorem within_refill_first (hc : Sane config) (hb : Valid config now b) {start : Int}
    (hstart : start ≤ now) : Within config start 0 now (refill config now b) := by
  have hpos := hc.period_pos
  have hv := valid_refill hc hb
  intro t ht
  have hfull : (refill config now b).lastRefill = now →
      ((0 : Nat) : Int) + (refill config now b).tokens.toNat +
          (t - (refill config now b).lastRefill) / config.period ≤
        config.maxTokens.toNat + (t - start) / config.period := by
    intro hl
    have htok := hv.tokens
    have hdiv : (t - now) / config.period ≤ (t - start) / config.period :=
      Int.ediv_le_ediv hpos (by omega)
    rw [hl]
    omega
  have hpart : (refill config now b).tokens.toNat < config.maxTokens.toNat →
      now - (refill config now b).lastRefill < config.period →
      ((0 : Nat) : Int) + (refill config now b).tokens.toNat +
          (t - (refill config now b).lastRefill) / config.period ≤
        config.maxTokens.toNat + (t - start) / config.period := by
    intro hlt hage
    have hdiv : (t - (refill config now b).lastRefill) / config.period ≤
        (t - start + 1 * config.period) / config.period := Int.ediv_le_ediv hpos (by omega)
    rw [Int.add_mul_ediv_right _ _ hpos.ne'] at hdiv
    omega
  rcases refill_cases hc hb with ⟨-, hr⟩ | ⟨hlt, hage, hr⟩ | ⟨earned, -, hearned, hlt, htok, hl⟩ |
    ⟨-, hr⟩
  · exact hfull (by rw [hr])
  · exact hpart (by rw [hr]; exact hlt) (by rw [hr]; exact hage)
  · have hrest := Int.lt_ediv_add_one_mul_self (now - b.lastRefill) hpos
    rw [← hearned, add_mul, one_mul] at hrest
    exact hpart (by omega) (by omega)
  · exact hfull (by rw [hr])

/-- Refilling turns earned time into tokens one for one, or forgets it. -/
theorem Within.refill (hc : Sane config) {start : Int} {granted : Nat} (hclock : clock ≤ now)
    (hb : Valid config now b) (h : Within config start granted clock b) :
    Within config start granted now (refill config now b) := by
  have hpos := hc.period_pos
  intro t ht
  have hbefore := h t (hclock.trans ht)
  rcases refill_cases hc hb with ⟨-, hr⟩ | ⟨-, -, hr⟩ | ⟨earned, -, -, -, htok, hl⟩ | ⟨hcap, hr⟩
  · have hdiv : (t - now) / config.period ≤ (t - b.lastRefill) / config.period :=
      Int.ediv_le_ediv hpos (by have := hb.lastRefill; omega)
    rw [hr]
    simp only
    omega
  · rw [hr]
    exact hbefore
  · have hshift : (t - (b.lastRefill + earned * config.period)) / config.period =
        (t - b.lastRefill) / config.period - earned := by
      rw [← sub_sub, Int.sub_mul_ediv_right _ _ hpos.ne']
    rw [hl, hshift]
    omega
  · have hsplit : (now - b.lastRefill) / config.period + (t - now) / config.period ≤
        (t - b.lastRefill) / config.period := by
      rw [Int.le_ediv_iff_mul_le hpos, add_mul]
      have h1 := Int.ediv_mul_le (now - b.lastRefill) hpos.ne'
      have h2 := Int.ediv_mul_le (t - now) hpos.ne'
      omega
    rw [hr]
    simp only
    omega

theorem Within.take {start : Int} {granted : Nat} (h : Within config start granted clock b)
    (hpos : 0 < b.tokens) :
    Within config start (granted + 1) clock { b with tokens := b.tokens - 1 } := by
  intro t ht
  have hbefore := h t ht
  have hone := tokens_pos.mp hpos
  simp only [toNat_take hpos]
  omega

theorem Within.granted_le (hc : Sane config) {start : Int} {granted : Nat} {t : Int}
    (hb : Valid config clock b) (h : Within config start granted clock b) (ht : clock ≤ t) :
    (granted : Int) ≤ config.maxTokens.toNat + (t - start) / config.period := by
  have hcredit : 0 ≤ (t - b.lastRefill) / config.period :=
    Int.ediv_nonneg (by have := hb.lastRefill; omega) hc.period_pos.le
  have := h t ht
  omega

/-- The steps that a caller can take, and where each leads. -/
inductive StepCase (config : Config) (sys : System) (caller : Nat) : Action → System → Prop where
  | tryAcquire {now later : Int} (idle : sys.phase caller = .idle) (hnow : sys.clock ≤ now)
    (hlater : now ≤ later) :
    StepCase config sys caller (.tryAcquire now later) (sys.tryAcquire config caller now later)
  | acquire {now : Int} (idle : sys.phase caller = .idle) (hnow : sys.clock ≤ now) :
    StepCase config sys caller (.acquire now)
      (sys.enter caller (.trying (config.maxWait.map (deadlineFor · now))) now)
  | acquireFor {maxWait now : Int} (idle : sys.phase caller = .idle) (hnow : sys.clock ≤ now) :
    StepCase config sys caller (.acquireFor maxWait now)
      (sys.enter caller (.trying (some (deadlineFor maxWait now))) now)
  | attempt {deadline : Option Int} {now later : Int} (trying : sys.phase caller = .trying deadline)
    (hnow : sys.clock ≤ now) (hlater : now ≤ later) :
    StepCase config sys caller (.attempt now later) (sys.attempt config caller deadline now later)
  | compare {deadline : Option Int} {wait now : Int}
    (refused : sys.phase caller = .refused deadline wait) (hnow : sys.clock ≤ now) :
    StepCase config sys caller (.compare now) (sys.compare caller deadline wait now)
  | wake {deadline : Option Int} {wakeAt now : Int}
    (sleeping : sys.phase caller = .sleeping deadline wakeAt) (hnow : sys.clock ≤ now)
    (hwake : wakeAt ≤ now) :
    StepCase config sys caller (.wake now) (sys.enter caller (.trying deadline) now)
  | availableTokens {now : Int} (idle : sys.phase caller = .idle) (hnow : sys.clock ≤ now) :
    StepCase config sys caller (.availableTokens now)
      ({ sys with clock := now }.record caller now
        (.available (availableTokens config now sys.bucket)))
  | reset {now : Int} (idle : sys.phase caller = .idle) (hnow : sys.clock ≤ now) :
    StepCase config sys caller (.reset now)
      ({ sys with bucket := RateLimiter.reset config now, clock := now }.record caller now .reset)

theorem step_iff {sys sys' : System} {caller : Nat} {action : Action} :
    step config sys caller action = some sys' ↔ StepCase config sys caller action sys' := by
  constructor
  · intro h
    unfold step at h
    split at h <;> (try split_ifs at h with hclock) <;>
      simp only [Option.some.injEq, reduceCtorEq] at h <;> subst h
    · exact .tryAcquire ‹_› hclock.1 hclock.2
    · exact .acquire ‹_› hclock
    · exact .acquireFor ‹_› hclock
    · exact .attempt ‹_› hclock.1 hclock.2
    · exact .compare ‹_› hclock
    · exact .wake ‹_› hclock.1 hclock.2
    · exact .availableTokens ‹_› hclock
    · exact .reset ‹_› hclock
  · intro h
    cases h <;> simp [step, *]

/-- Entries of the history that neither take a token nor refill the bucket. -/
def Quiet (clock : Int) (events : List Event) : Prop :=
  ∀ e ∈ events, e.kind ≠ .granted ∧ e.kind ≠ .reset ∧ e.time ≤ clock

/-- All that one atomic step can do to the bucket, the clock and the history. -/
inductive Effect (config : Config) (sys sys' : System) : Prop where
  | quiet (extra : List Event) (clock : sys.clock ≤ sys'.clock)
    (bucket : sys'.bucket = sys.bucket) (history : sys'.history = extra ++ sys.history)
    (silent : Quiet sys'.clock extra)
  | refused (now : Int) (extra : List Event) (start : sys.clock ≤ now) (clock : now ≤ sys'.clock)
    (bucket : sys'.bucket = refill config now sys.bucket)
    (history : sys'.history = extra ++ sys.history) (silent : Quiet sys'.clock extra)
  | granted (now : Int) (caller : Nat) (start : sys.clock ≤ now) (clock : now ≤ sys'.clock)
    (tokens : 0 < (refill config now sys.bucket).tokens)
    (bucket : sys'.bucket =
      { refill config now sys.bucket with tokens := (refill config now sys.bucket).tokens - 1 })
    (history : sys'.history = ⟨caller, now, .granted⟩ :: sys.history)
  | reset (now : Int) (caller : Nat) (start : sys.clock ≤ now) (clock : sys'.clock = now)
    (bucket : sys'.bucket = reset config now)
    (history : sys'.history = ⟨caller, now, .reset⟩ :: sys.history)

theorem effect_tryAcquire (config : Config) (sys : System) (caller : Nat) {now later : Int}
    (hnow : sys.clock ≤ now) (hlater : now ≤ later) :
    Effect config sys (sys.tryAcquire config caller now later) := by
  by_cases hpos : 0 < (refill config now sys.bucket).tokens
  · apply Effect.granted now caller hnow <;>
      simp [System.tryAcquire, System.record, takeOrWaitTime, hpos, hlater]
  · apply Effect.refused now [⟨caller, now, .denied⟩] hnow <;>
      simp [System.tryAcquire, System.record, takeOrWaitTime, hpos, hlater, Quiet]

theorem effect_attempt (config : Config) (sys : System) (caller : Nat) (deadline : Option Int)
    {now later : Int} (hnow : sys.clock ≤ now) (hlater : now ≤ later) :
    Effect config sys (sys.attempt config caller deadline now later) := by
  by_cases hpos : 0 < (refill config now sys.bucket).tokens
  · apply Effect.granted now caller hnow <;>
      simp [System.attempt, System.record, System.enter, takeOrWaitTime, hpos, hlater]
  · apply Effect.refused now [] hnow <;>
      simp [System.attempt, System.enter, takeOrWaitTime, hpos, hlater, Quiet]

theorem effect_enter (config : Config) (sys : System) (caller : Nat) (phase : Phase) {now : Int}
    (hnow : sys.clock ≤ now) : Effect config sys (sys.enter caller phase now) :=
  .quiet [] hnow rfl rfl (by simp [Quiet])

theorem effect_compare (config : Config) (sys : System) (caller : Nat) (deadline : Option Int)
    (wait : Int) {now : Int} (hnow : sys.clock ≤ now) :
    Effect config sys (sys.compare caller deadline wait now) := by
  simp only [System.compare]
  split_ifs
  · exact .quiet [⟨caller, now, .denied⟩] hnow rfl rfl (by simp [Quiet, System.record, System.enter])
  · exact effect_enter config sys caller _ hnow

theorem step_effect {sys sys' : System} {caller : Nat} {action : Action}
    (h : step config sys caller action = some sys') : Effect config sys sys' := by
  cases step_iff.mp h with
  | tryAcquire _ hnow hlater => exact effect_tryAcquire config sys caller hnow hlater
  | acquire _ hnow => exact effect_enter config sys caller _ hnow
  | acquireFor _ hnow => exact effect_enter config sys caller _ hnow
  | attempt _ hnow hlater => exact effect_attempt config sys caller _ hnow hlater
  | compare _ hnow => exact effect_compare config sys caller _ _ hnow
  | wake _ hnow _ => exact effect_enter config sys caller _ hnow
  | availableTokens _ hnow => exact .quiet [_] hnow rfl rfl (by simp [Quiet, System.record])
  | reset _ hnow => exact .reset _ caller hnow rfl rfl rfl

def grantsSince (t0 : Int) (history : List Event) : Nat :=
  history.countP fun e => decide (e.kind = .granted ∧ t0 ≤ e.time)

def grants (t0 t1 : Int) (history : List Event) : Nat :=
  history.countP fun e => decide (e.kind = .granted ∧ t0 ≤ e.time ∧ e.time ≤ t1)

/-- No `reset` at a time from `t0` to `t1`. -/
def NoReset (t0 t1 : Int) (history : List Event) : Prop :=
  ∀ e ∈ history, e.kind = .reset → t0 ≤ e.time → t1 < e.time

section History

variable {t0 t1 : Int} {extra history : List Event}

theorem grants_le_grantsSince : grants t0 t1 history ≤ grantsSince t0 history := by
  apply List.countP_mono_left
  simp only [decide_eq_true_eq]
  exact fun e _ h => ⟨h.1, h.2.1⟩

theorem Quiet.grantsSince_append (h : Quiet clock extra) :
    grantsSince t0 (extra ++ history) = grantsSince t0 history := by
  rw [grantsSince, grantsSince, List.countP_append, Nat.add_eq_right, List.countP_eq_zero]
  intro e he
  simp [(h e he).1]

theorem Quiet.grants_append (h : Quiet clock extra) :
    grants t0 t1 (extra ++ history) = grants t0 t1 history := by
  rw [grants, grants, List.countP_append, Nat.add_eq_right, List.countP_eq_zero]
  intro e he
  simp [(h e he).1]

theorem NoReset.of_append (h : NoReset t0 t1 (extra ++ history)) : NoReset t0 t1 history :=
  fun e he => h e (List.mem_append_right _ he)

end History

/-- What holds of the limiter and its history after every step. -/
structure Paced (config : Config) (sys : System) : Prop where
  valid : Valid config sys.clock sys.bucket
  past : ∀ e ∈ sys.history, e.time ≤ sys.clock
  window : ∀ t0, (∀ e ∈ sys.history, e.kind = .reset → e.time < t0) →
    grantsSince t0 sys.history = 0 ∨
      Within config t0 (grantsSince t0 sys.history) sys.clock sys.bucket
  bound : ∀ t0 t1, t0 ≤ t1 → NoReset t0 t1 sys.history →
    (grants t0 t1 sys.history : Int) ≤ config.maxTokens.toNat + (t1 - t0) / config.period

namespace Paced

variable {sys sys' : System}

theorem allowance_nonneg (hc : Sane config) {t0 t1 : Int} (h : t0 ≤ t1) :
    (0 : Int) ≤ config.maxTokens.toNat + (t1 - t0) / config.period := by
  have := Int.ediv_nonneg (sub_nonneg.mpr h) hc.period_pos.le
  omega

theorem init (hc : Sane config) (start : Int) : Paced config (System.init config start) where
  valid := ⟨hc.initial, le_rfl⟩
  past := by simp [System.init]
  window := fun _ _ => Or.inl rfl
  bound := fun t0 t1 h _ => by simpa [System.init, grants] using allowance_nonneg hc h

theorem quiet (h : Paced config sys) {extra : List Event} (hclock : sys.clock ≤ sys'.clock)
    (hbucket : sys'.bucket = sys.bucket) (hhistory : sys'.history = extra ++ sys.history)
    (hq : Quiet sys'.clock extra) : Paced config sys' where
  valid := hbucket ▸ h.valid.until hclock
  past e he := by
    rcases List.mem_append.mp (hhistory ▸ he) with he | he
    · exact (hq e he).2.2
    · exact (h.past e he).trans hclock
  window t0 hr := by
    rw [hhistory] at hr ⊢
    rw [hq.grantsSince_append, hbucket]
    have hold := h.window t0 fun e he => hr e (List.mem_append_right _ he)
    exact hold.imp_right fun hw t ht => hw t (hclock.trans ht)
  bound t0 t1 ht hr := by
    rw [hhistory] at hr ⊢
    rw [hq.grants_append]
    exact h.bound t0 t1 ht hr.of_append

/-- The credit after a refill in a window that a call has or has not used yet. -/
theorem within_refill (hc : Sane config) (h : Paced config sys) {now t0 : Int}
    (hnow : sys.clock ≤ now) (hstart : t0 ≤ now)
    (hr : ∀ e ∈ sys.history, e.kind = .reset → e.time < t0) :
    Within config t0 (grantsSince t0 sys.history) now (refill config now sys.bucket) := by
  have hv := h.valid.until hnow
  rcases h.window t0 hr with hzero | hw
  · rw [hzero]
    exact within_refill_first hc hv hstart
  · exact hw.refill hc hnow hv

theorem grantsSince_eq_zero (h : Paced config sys) {t0 : Int} (ht : sys.clock < t0) :
    grantsSince t0 sys.history = 0 := by
  rw [grantsSince, List.countP_eq_zero]
  intro e he
  have := h.past e he
  simp only [decide_eq_true_eq, not_and]
  omega

theorem refused (hc : Sane config) (h : Paced config sys) {now : Int} {extra : List Event}
    (hnow : sys.clock ≤ now) (hclock : now ≤ sys'.clock)
    (hbucket : sys'.bucket = refill config now sys.bucket)
    (hhistory : sys'.history = extra ++ sys.history) (hq : Quiet sys'.clock extra) :
    Paced config sys' := by
  have hv := valid_refill hc (h.valid.until hnow)
  have hmid : Paced config { sys with bucket := refill config now sys.bucket, clock := now } := {
    valid := hv
    past := fun e he => (h.past e he).trans hnow
    window := fun t0 hr => by
      rcases lt_or_ge now t0 with ht | ht
      · exact Or.inl (h.grantsSince_eq_zero (hnow.trans_lt ht))
      · exact Or.inr (h.within_refill hc hnow ht hr)
    bound := h.bound }
  exact hmid.quiet hclock hbucket hhistory hq

theorem granted (hc : Sane config) (h : Paced config sys) {now : Int} {caller : Nat}
    (hnow : sys.clock ≤ now) (hclock : now ≤ sys'.clock)
    (hpos : 0 < (refill config now sys.bucket).tokens)
    (hbucket : sys'.bucket =
      { refill config now sys.bucket with tokens := (refill config now sys.bucket).tokens - 1 })
    (hhistory : sys'.history = ⟨caller, now, .granted⟩ :: sys.history) : Paced config sys' := by
  have hvalid : Valid config now sys'.bucket :=
    hbucket ▸ (valid_refill hc (h.valid.until hnow)).take hpos
  have hwindow : ∀ t0 ≤ now, (∀ e ∈ sys.history, e.kind = .reset → e.time < t0) →
      Within config t0 (grantsSince t0 sys'.history) now sys'.bucket := by
    intro t0 ht hr
    have hcount : grantsSince t0 sys'.history = grantsSince t0 sys.history + 1 := by
      rw [hhistory, grantsSince, List.countP_cons_of_pos (by simpa using ht), grantsSince]
    rw [hcount, hbucket]
    exact (h.within_refill hc hnow ht hr).take hpos
  exact {
    valid := hvalid.until hclock
    past := fun e he => by
      rcases List.mem_cons.mp (hhistory ▸ he) with rfl | he
      · exact hclock
      · exact (h.past e he).trans (hnow.trans hclock)
    window := fun t0 hr => by
      rw [hhistory] at hr
      have hrold : ∀ e ∈ sys.history, e.kind = .reset → e.time < t0 := fun e he =>
        hr e (List.mem_cons_of_mem _ he)
      rcases lt_or_ge now t0 with ht | ht
      · have hzero := h.grantsSince_eq_zero (hnow.trans_lt ht)
        rw [hhistory, grantsSince, List.countP_cons_of_neg (by simpa using ht)]
        exact Or.inl hzero
      · exact Or.inr fun t htt => hwindow t0 ht hrold t (hclock.trans htt)
    bound := fun t0 t1 ht hr => by
      rw [hhistory] at hr
      have hrold : NoReset t0 t1 sys.history := fun e he => hr e (List.mem_cons_of_mem _ he)
      by_cases hin : t0 ≤ now ∧ now ≤ t1
      · have hlast : ∀ e ∈ sys.history, e.kind = .reset → e.time < t0 := by
          intro e he hk
          have hpast := h.past e he
          have hlate := hrold e he hk
          omega
        have hle := (hwindow t0 hin.1 hlast).granted_le hc hvalid hin.2
        have hsub : grants t0 t1 sys'.history ≤ grantsSince t0 sys'.history := grants_le_grantsSince
        omega
      · rw [hhistory, grants, List.countP_cons_of_neg (by simpa using hin)]
        exact h.bound t0 t1 ht hrold }

theorem reset (hc : Sane config) (h : Paced config sys) {now : Int} {caller : Nat}
    (hnow : sys.clock ≤ now) (hclock : sys'.clock = now)
    (hbucket : sys'.bucket = RateLimiter.reset config now)
    (hhistory : sys'.history = ⟨caller, now, .reset⟩ :: sys.history) : Paced config sys' where
  valid := by
    rw [hbucket, hclock]
    exact ⟨hc.initial, le_rfl⟩
  past e he := by
    rw [hclock]
    rcases List.mem_cons.mp (hhistory ▸ he) with rfl | he
    · exact le_rfl
    · exact (h.past e he).trans hnow
  window t0 hr := by
    rw [hhistory] at hr ⊢
    have ht : now < t0 := hr ⟨caller, now, .reset⟩ (by simp) rfl
    rw [grantsSince, List.countP_cons_of_neg (by simp)]
    exact Or.inl (h.grantsSince_eq_zero (hnow.trans_lt ht))
  bound t0 t1 ht hr := by
    rw [hhistory] at hr ⊢
    rw [grants, List.countP_cons_of_neg (by simp)]
    exact h.bound t0 t1 ht fun e he => hr e (List.mem_cons_of_mem _ he)

theorem step (hc : Sane config) (h : Paced config sys) {caller : Nat} {action : Action}
    (hs : RateLimiter.step config sys caller action = some sys') : Paced config sys' := by
  cases step_effect hs with
  | quiet extra clock bucket history silent => exact h.quiet clock bucket history silent
  | refused now extra start clock bucket history silent =>
    exact h.refused hc start clock bucket history silent
  | granted now caller start clock tokens bucket history =>
    exact h.granted hc start clock tokens bucket history
  | reset now caller start clock bucket history => exact h.reset hc start clock bucket history

theorem run (hc : Sane config) {steps : List (Nat × Action)} (h : Paced config sys)
    (hs : RateLimiter.run config sys steps = some sys') : Paced config sys' := by
  induction steps generalizing sys with
  | nil =>
    obtain rfl : sys = sys' := by simpa [RateLimiter.run] using hs
    exact h
  | cons next steps ih =>
    rw [RateLimiter.run, List.foldlM_cons, Option.bind_eq_bind, Option.bind_eq_some_iff] at hs
    obtain ⟨mid, hmid, hrest⟩ := hs
    exact ih (h.step hc hmid) hrest

end Paced

/-- In every window without a `reset`, the interleaved callers take at most a full
bucket and one token for each refill interval of the window. -/
theorem grants_bounded (config : Config) (start : Int) {steps : List (Nat × Action)} {sys : System}
    (h : run (sanitized config) (System.init (sanitized config) start) steps = some sys)
    {t0 t1 : Int} (ht : t0 ≤ t1) (hr : NoReset t0 t1 sys.history) :
    (grants t0 t1 sys.history : Int) ≤
      (sanitized config).maxTokens.toNat +
        (t1 - t0) / ((sanitized config).refillInterval * 1000000) :=
  ((Paced.init (sane_sanitized config) start).run (sane_sanitized config) h).bound t0 t1 ht hr

/-- Three callers on a bucket of two, over one refill interval. -/
def threeCallers : Option System :=
  run (sanitized { maxTokens := 2, initialTokens := 2 })
    (System.init (sanitized { maxTokens := 2, initialTokens := 2 }) 0)
    [(0, .tryAcquire 0 0), (1, .acquire 0), (1, .attempt 3 5), (2, .tryAcquire 10 20),
      (2, .tryAcquire 1000000000 1000000000)]

theorem threeCallers_isSome : threeCallers.isSome = true := by decide

theorem grants_bounded_three_callers :
    ∃ sys, threeCallers = some sys ∧ grants 0 1000000000 sys.history = 3 ∧
      (grants 0 1000000000 sys.history : Int) ≤ 2 + (1000000000 - 0) / (1000 * 1000000) := by
  have hrun : threeCallers = some (threeCallers.get threeCallers_isSome) :=
    (Option.some_get _).symm
  have hreset : NoReset 0 1000000000 (threeCallers.get threeCallers_isSome).history := by
    unfold NoReset
    decide
  exact ⟨_, hrun, by decide, grants_bounded _ 0 hrun (by decide) hreset⟩

end RateLimiter

end NwsCpp
