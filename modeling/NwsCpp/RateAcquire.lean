import NwsCpp.RatePolling

/-! A lone caller with exact sleeps: `acquire_for` ends after at most one sleep, at
the instant the next token comes or at once. -/

namespace NwsCpp

namespace RateLimiter

/-- The next step of a caller when no time passes but in its sleep. -/
def soloAction (clock : Int) : Phase → Option Action
  | .idle => none
  | .trying _ => some (.attempt clock clock)
  | .refused _ _ => some (.compare clock)
  | .sleeping _ wakeAt => some (.wake wakeAt)

def sleepsIn : Action → Nat
  | .wake _ => 1
  | _ => 0

/-- The steps of a lone caller to the end of its call, with the number of sleeps;
no result when the fuel ends before. -/
def soloRun (config : Config) (caller : Nat) : Nat → System → Option (Nat × System)
  | 0, _ => none
  | fuel + 1, sys =>
    match soloAction sys.clock (sys.phase caller) with
    | none => some (0, sys)
    | some action =>
      (step config sys caller action).bind fun mid =>
        (soloRun config caller fuel mid).map fun result => (result.1 + sleepsIn action, result.2)

def soloCall (config : Config) (sys : System) (caller : Nat) (action : Action) (fuel : Nat) :
    Option (Nat × System) :=
  (step config sys caller action).bind (soloRun config caller fuel)

variable {config : Config} {sys fin : System} {caller fuel sleeps : Nat} {b : Bucket}
  {deadline : Option Int} {t wait wakeAt : Int}

section Steps

theorem solo_idle (h : sys.phase caller = .idle) :
    soloRun config caller (fuel + 1) sys = some (0, sys) := by
  simp [soloRun, soloAction, h]

theorem solo_trying (h : sys.phase caller = .trying deadline) :
    soloRun config caller (fuel + 1) sys =
      soloRun config caller fuel (sys.attempt config caller deadline sys.clock sys.clock) := by
  simp [soloRun, soloAction, h, step, sleepsIn]

theorem solo_refused (h : sys.phase caller = .refused deadline wait) :
    soloRun config caller (fuel + 1) sys =
      soloRun config caller fuel (sys.compare caller deadline wait sys.clock) := by
  simp [soloRun, soloAction, h, step, sleepsIn]

theorem solo_sleeping (h : sys.phase caller = .sleeping deadline wakeAt)
    (hwake : sys.clock ≤ wakeAt) :
    soloRun config caller (fuel + 1) sys =
      (soloRun config caller fuel (sys.enter caller (.trying deadline) wakeAt)).map
        fun result => (result.1 + 1, result.2) := by
  simp [soloRun, soloAction, h, step, sleepsIn, hwake]

end Steps

section Clock

theorem intervalNanos_eq (ht : 0 ≤ t) (hr : t + config.period ≤ clockMax - 1000000) :
    intervalNanos config = config.period := by
  simp only [Config.period, toNanos, clockMax] at hr
  rw [intervalNanos, if_neg, Config.period]
  simp only [toMillis, clockMax, Int.tdiv_eq_ediv_of_nonneg (by decide : (0 : Int) ≤ 2 ^ 63 - 1)]
  omega

theorem deadlineFor_eq {maxWait : Int} (ht : t + toNanos (max maxWait 0) ≤ clockMax - 1000000) :
    deadlineFor maxWait t = t + toNanos (max maxWait 0) := by
  rw [deadlineFor]
  by_cases hw : maxWait ≤ 0
  · rw [if_pos hw, max_eq_right hw, toNanos]
    omega
  · rw [max_eq_left (by omega)] at ht ⊢
    have hroom : ¬ toMillis (clockMax - t) ≤ maxWait := by
      simp only [toNanos, clockMax] at ht
      rw [toMillis, clockMax, Int.tdiv_eq_ediv_of_nonneg (by omega)]
      omega
    rw [if_neg hw, if_neg hroom]

end Clock

def nextRefill (config : Config) (t : Int) (b : Bucket) : Int :=
  (refill config t b).lastRefill + config.period

theorem refill_at_next (hc : Sane config) (hb : Valid config t b)
    (hempty : (refill config t b).tokens.toNat = 0) :
    (refill config (nextRefill config t b) b).tokens.toNat = 1 := by
  have hpos := hc.period_pos
  have hmax := hc.tokens
  obtain ⟨hlast, hage⟩ := refill_age hc hb
  have ht : t ≤ nextRefill config t b := by
    rw [nextRefill]
    omega
  rw [← refill_refill hc hb.tokens hb.lastRefill ht]
  have hlast' : (refill config t b).lastRefill ≤ nextRefill config t b := hlast.trans ht
  have hone : (nextRefill config t b - (refill config t b).lastRefill) / config.period = 1 := by
    rw [nextRefill, add_sub_cancel_left, Int.ediv_self hpos.ne']
  rcases refill_of_lt hc (by omega) hlast' with ⟨hcap, hr⟩ | ⟨-, htok, -⟩
  · rw [hr]
    simp only
    omega
  · omega

def Bucket.take (b : Bucket) : Bucket := { b with tokens := b.tokens - 1 }

def System.during (sys : System) (caller : Nat) (phase : Phase) (time : Int) (b : Bucket) : System where
  bucket := b
  clock := time
  phase := Function.update sys.phase caller phase
  history := sys.history

def System.ended (sys : System) (caller : Nat) (kind : EventKind) (time : Int) (b : Bucket) : System where
  bucket := b
  clock := time
  phase := Function.update sys.phase caller .idle
  history := ⟨caller, time, kind⟩ :: sys.history

section During

variable {phase : Phase}

theorem attempt_granted (hpos : 0 < (refill config t b).tokens) :
    (sys.during caller phase t b).attempt config caller deadline t t =
      sys.ended caller .granted t (refill config t b).take := by
  simp [System.attempt, takeOrWaitTime, hpos, System.enter, System.record, System.ended,
    System.during, Bucket.take]

theorem attempt_refused (hempty : ¬ 0 < (refill config t b).tokens) :
    (sys.during caller phase t b).attempt config caller deadline t t =
      sys.during caller
        (.refused deadline (max (intervalNanos config - (t - (refill config t b).lastRefill)) 0)) t
        (refill config t b) := by
  simp [System.attempt, takeOrWaitTime, hempty, System.enter, System.during]

theorem compare_denied (hlate : ∃ d, deadline = some d ∧ d - t < wait) :
    (sys.during caller phase t b).compare caller deadline wait t =
      sys.ended caller .denied t b := by
  obtain ⟨d, rfl, hlt⟩ := hlate
  simp [System.compare, hlt, System.enter, System.record, System.ended, System.during]

theorem compare_sleeping (hlate : ¬ ∃ d, deadline = some d ∧ d - t < wait) :
    (sys.during caller phase t b).compare caller deadline wait t =
      sys.during caller (.sleeping deadline (t + wait)) t b := by
  cases deadline with
  | none => simp [System.compare, System.enter, System.during]
  | some d =>
    have hnot : ¬ d - t < wait := fun h => hlate ⟨d, rfl, h⟩
    simp [System.compare, hnot, System.enter, System.during]

theorem solo_ended {kind : EventKind} :
    soloRun config caller (fuel + 1) (sys.ended caller kind t b) =
      some (0, sys.ended caller kind t b) :=
  solo_idle (by simp [System.ended])

@[simp] theorem during_phase : (sys.during caller phase t b).phase caller = phase :=
  Function.update_self _ _ _

theorem enter_during (phase' : Phase) (time : Int) :
    (sys.during caller phase t b).enter caller phase' time = sys.during caller phase' time b := by
  simp [System.enter, System.during]

theorem solo_during_granted (hpos : 0 < (refill config t b).tokens) :
    soloRun config caller (fuel + 2) (sys.during caller (.trying deadline) t b) =
      some (0, sys.ended caller .granted t (refill config t b).take) := by
  rw [solo_trying during_phase]
  exact (congrArg _ (attempt_granted hpos)).trans solo_ended

/-- An empty bucket: the call ends at once when its deadline lies before the next
refill, else it sleeps until then and takes the new token. -/
theorem solo_during_empty (hc : Sane config) (hb : Valid config t b)
    (hinterval : intervalNanos config = config.period)
    (hempty : (refill config t b).tokens.toNat = 0) :
    soloRun config caller (fuel + 5) (sys.during caller (.trying deadline) t b) =
      if ∃ d, deadline = some d ∧ d < nextRefill config t b then
        some (0, sys.ended caller .denied t (refill config t b))
      else
        some (1, sys.ended caller .granted (nextRefill config t b)
          (refill config (nextRefill config t b) b).take) := by
  obtain ⟨hlast, hage⟩ := refill_age hc hb
  have hnone : ¬ 0 < (refill config t b).tokens := by
    rw [tokens_pos]
    omega
  have hwait : max (intervalNanos config - (t - (refill config t b).lastRefill)) 0 =
      nextRefill config t b - t := by
    rw [hinterval, nextRefill, max_eq_left (by omega)]
    ring
  have hrefused : (sys.during caller (.trying deadline) t b).attempt config caller deadline t t =
      sys.during caller (.refused deadline (nextRefill config t b - t)) t (refill config t b) := by
    rw [attempt_refused hnone, hwait]
  have htry : soloRun config caller (fuel + 5) (sys.during caller (.trying deadline) t b) =
      soloRun config caller (fuel + 4)
        (sys.during caller (.refused deadline (nextRefill config t b - t)) t (refill config t b)) :=
    (solo_trying during_phase).trans (congrArg _ hrefused)
  rw [htry, solo_refused during_phase]
  split_ifs with hlate
  · have hdenied : ∃ d, deadline = some d ∧ d - t < nextRefill config t b - t := by
      obtain ⟨d, hd, hlt⟩ := hlate
      exact ⟨d, hd, by omega⟩
    exact (congrArg _ (compare_denied hdenied)).trans solo_ended
  · have hsleep : ¬ ∃ d, deadline = some d ∧ d - t < nextRefill config t b - t := by
      rintro ⟨d, hd, hlt⟩
      exact hlate ⟨d, hd, by omega⟩
    have hnext : t ≤ nextRefill config t b := by
      rw [nextRefill]
      omega
    have hagain := refill_refill hc hb.tokens hb.lastRefill hnext
    have hpos : 0 < (refill config (nextRefill config t b) (refill config t b)).tokens := by
      rw [hagain, UInt16.lt_iff_toNat_lt, refill_at_next hc hb hempty]
      exact Nat.one_pos
    have hcompare : (sys.during caller (.refused deadline (nextRefill config t b - t)) t
          (refill config t b)).compare caller deadline (nextRefill config t b - t) t =
        sys.during caller (.sleeping deadline (nextRefill config t b)) t (refill config t b) := by
      rw [compare_sleeping hsleep, add_sub_cancel]
    refine (congrArg _ hcompare).trans ?_
    rw [solo_sleeping during_phase hnext, enter_during, solo_during_granted hpos, hagain]
    rfl

end During

/-- What a call of a lone caller at `t` promises: whether it is granted, when it
returns, how often it has slept and what it has taken. -/
structure Exact (config : Config) (sys : System) (caller : Nat) (t : Int) (deadline : Option Int)
    (granted : Bool) (sleeps : Nat) (fin : System) : Prop where
  idle : fin.phase caller = .idle
  returned : fin.history =
    ⟨caller, fin.clock, if granted then .granted else .denied⟩ :: sys.history
  decision : granted = true ↔ 0 < (refill config t sys.bucket).tokens ∨
    ∀ d, deadline = some d → nextRefill config t sys.bucket ≤ d
  atOnce : 0 < (refill config t sys.bucket).tokens → fin.clock = t ∧ sleeps = 0
  later : ¬ 0 < (refill config t sys.bucket).tokens → granted = true →
    fin.clock = nextRefill config t sys.bucket ∧ sleeps = 1
  inTime : granted = true → ∀ d, deadline = some d → fin.clock ≤ d
  token : granted = true → 0 < (refill config fin.clock sys.bucket).tokens ∧
    fin.bucket = (refill config fin.clock sys.bucket).take
  refused : granted = false → fin.clock = t ∧ sleeps = 0 ∧ fin.bucket = refill config t sys.bucket

theorem solo_exact (caller : Nat) (hc : Sane config) (hb : Valid config t sys.bucket)
    (hinterval : intervalNanos config = config.period) (hdeadline : ∀ d, deadline = some d → t ≤ d) :
    ∃ granted sleeps fin,
      (∀ fuel, soloRun config caller (fuel + 5) (sys.enter caller (.trying deadline) t) =
        some (sleeps, fin)) ∧ Exact config sys caller t deadline granted sleeps fin := by
  have hduring : sys.enter caller (.trying deadline) t =
      sys.during caller (.trying deadline) t sys.bucket := rfl
  simp only [hduring]
  by_cases hpos : 0 < (refill config t sys.bucket).tokens
  · refine ⟨true, 0, sys.ended caller .granted t (refill config t sys.bucket).take, fun fuel =>
      solo_during_granted hpos, ?_⟩
    exact {
      idle := by simp [System.ended]
      returned := rfl
      decision := by simp [hpos]
      atOnce := fun _ => ⟨rfl, rfl⟩
      later := fun h => absurd hpos h
      inTime := fun _ => hdeadline
      token := fun _ => ⟨hpos, rfl⟩
      refused := by simp }
  · have hempty : (refill config t sys.bucket).tokens.toNat = 0 := by
      rw [tokens_pos] at hpos
      omega
    by_cases hlate : ∃ d, deadline = some d ∧ d < nextRefill config t sys.bucket
    · refine ⟨false, 0, sys.ended caller .denied t (refill config t sys.bucket), fun fuel => ?_, ?_⟩
      · rw [solo_during_empty hc hb hinterval hempty, if_pos hlate]
      · exact {
          idle := by simp [System.ended]
          returned := rfl
          decision := by
            obtain ⟨d, hd, hlt⟩ := hlate
            simp only [hpos, false_or, Bool.false_eq_true, false_iff]
            exact fun h => absurd (h d hd) (not_le.mpr hlt)
          atOnce := fun h => absurd h hpos
          later := by simp
          inTime := by simp
          token := by simp
          refused := fun _ => ⟨rfl, rfl, rfl⟩ }
    · have hintime : ∀ d, deadline = some d → nextRefill config t sys.bucket ≤ d := fun d hd =>
        not_lt.mp fun hlt => hlate ⟨d, hd, hlt⟩
      refine ⟨true, 1, sys.ended caller .granted (nextRefill config t sys.bucket)
        (refill config (nextRefill config t sys.bucket) sys.bucket).take, fun fuel => ?_, ?_⟩
      · rw [solo_during_empty hc hb hinterval hempty, if_neg hlate]
      · exact {
          idle := by simp [System.ended]
          returned := rfl
          decision := by simp only [true_iff]; exact Or.inr hintime
          atOnce := fun h => absurd h hpos
          later := fun _ _ => ⟨rfl, rfl⟩
          inTime := fun _ => hintime
          token := fun _ => by
            refine ⟨?_, rfl⟩
            rw [UInt16.lt_iff_toNat_lt]
            exact (refill_at_next hc hb hempty).symm ▸ Nat.one_pos
          refused := by simp }

/-- In every reachable state, a lone caller of `acquire_for` is granted a token
exactly when one is there or comes by its deadline; it takes one token then, after at
most one sleep, and nothing otherwise. `acquire` without a longest wait is granted. -/
theorem acquire_exact (config : Config) (start : Int) {steps : List (Nat × Action)} {sys : System}
    (h : run (sanitized config) (System.init (sanitized config) start) steps = some sys)
    {caller : Nat} (hidle : sys.phase caller = .idle) {t : Int} (hnonneg : 0 ≤ t)
    (ht : sys.clock ≤ t)
    (hr : t + toNanos (sanitized config).refillInterval ≤ clockMax - 1000000) :
    (∀ maxWait, t + toNanos (max maxWait 0) ≤ clockMax - 1000000 →
      ∃ granted sleeps fin,
        (∀ fuel, soloCall (sanitized config) sys caller (.acquireFor maxWait t) (fuel + 5) =
          some (sleeps, fin)) ∧
        Exact (sanitized config) sys caller t (some (t + toNanos (max maxWait 0))) granted sleeps
          fin) ∧
    (config.maxWait = none →
      ∃ sleeps fin, sleeps ≤ 1 ∧
        (∀ fuel, soloCall (sanitized config) sys caller (.acquire t) (fuel + 5) =
          some (sleeps, fin)) ∧
        Exact (sanitized config) sys caller t none true sleeps fin) := by
  have hc := sane_sanitized config
  have hpaced := (Paced.init hc start).run hc h
  have hb := hpaced.valid.until ht
  have hinterval : intervalNanos (sanitized config) = (sanitized config).period :=
    intervalNanos_eq hnonneg hr
  refine ⟨fun maxWait hw => ?_, fun hnone => ?_⟩
  · have hdeadline : ∀ d, some (t + toNanos (max maxWait 0)) = some d → t ≤ d := by
      intro d hd
      have hwait : 0 ≤ max maxWait 0 := le_max_right _ _
      simp only [Option.some.injEq, toNanos] at hd
      omega
    obtain ⟨granted, sleeps, fin, hrun, hexact⟩ :=
      solo_exact caller hc hb hinterval hdeadline
    refine ⟨granted, sleeps, fin, fun fuel => ?_, hexact⟩
    have hstep : step (sanitized config) sys caller (.acquireFor maxWait t) =
        some (sys.enter caller (.trying (some (t + toNanos (max maxWait 0)))) t) := by
      simp [step, hidle, ht, deadlineFor_eq hw]
    rw [soloCall, hstep]
    exact hrun fuel
  · obtain ⟨granted, sleeps, fin, hrun, hexact⟩ :=
      solo_exact caller hc hb hinterval (fun d hd => absurd hd (Option.some_ne_none d).symm)
    obtain rfl : granted = true := hexact.decision.mpr (Or.inr (by simp))
    refine ⟨sleeps, fin, ?_, fun fuel => ?_, hexact⟩
    · by_cases hpos : 0 < (refill (sanitized config) t sys.bucket).tokens
      · exact (hexact.atOnce hpos).2 ▸ Nat.zero_le 1
      · exact (hexact.later hpos rfl).2.le
    · have hstep : step (sanitized config) sys caller (.acquire t) =
          some (sys.enter caller (.trying none) t) := by
        simp [step, hidle, ht, sanitized, hnone]
      rw [soloCall, hstep]
      exact hrun fuel

/-- One token every 30 ms, none at first: a call at 5 ms is granted at 30 ms. -/
def thirtyMillis : Config := { maxTokens := 1, refillInterval := 30, initialTokens := 0 }

theorem acquire_exact_thirty_millis :
    ∃ sleeps fin,
      (∀ fuel, soloCall (sanitized thirtyMillis) (System.init (sanitized thirtyMillis) 0) 0
        (.acquireFor 200 5000000) (fuel + 5) = some (sleeps, fin)) ∧
      fin.clock = 30000000 ∧ sleeps = 1 := by
  have hrun : run (sanitized thirtyMillis) (System.init (sanitized thirtyMillis) 0) [] =
    some (System.init (sanitized thirtyMillis) 0) := rfl
  have hidle : (System.init (sanitized thirtyMillis) 0).phase 0 = .idle := rfl
  obtain ⟨granted, sleeps, fin, hcall, hexact⟩ :=
    (acquire_exact thirtyMillis 0 hrun hidle (t := 5000000) (by decide) (by decide)
      (by decide)).1 200 (by decide)
  have hempty : ¬ 0 < (refill (sanitized thirtyMillis) 5000000
      (System.init (sanitized thirtyMillis) 0).bucket).tokens := by decide
  have hgranted : granted = true := by
    refine hexact.decision.mpr (Or.inr fun d hd => ?_)
    cases hd
    decide
  obtain ⟨hclock, hsleeps⟩ := hexact.later hempty hgranted
  exact ⟨sleeps, fin, hcall, hclock, hsleeps⟩

end RateLimiter

end NwsCpp
