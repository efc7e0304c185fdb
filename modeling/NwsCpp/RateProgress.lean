import NwsCpp.RateAcquire

/-! Waiting callers make progress together: a call that is refused again after its
sleep has been overtaken. -/

namespace NwsCpp

namespace RateLimiter

variable {config : Config} {sys sys' : System} {caller c : Nat} {action : Action}
  {steps : List (Nat × Action)} {extra : List Event}

/-- All that one atomic step can do to the bucket: nothing but a vain refill unless it
takes a token or resets. -/
theorem step_bucket (h : step config sys c action = some sys') :
    sys.clock ≤ sys'.clock ∧
      ((∃ e, sys'.history = e :: sys.history ∧ (e.kind = .granted ∨ e.kind = .reset)) ∨
        sys'.bucket = sys.bucket ∨
        ∃ now, sys.clock ≤ now ∧ sys'.bucket = refill config now sys.bucket ∧
          (refill config now sys.bucket).tokens.toNat = 0) := by
  cases step_iff.mp h with
  | @tryAcquire now later _ hnow hlater =>
    refine ⟨hnow.trans hlater, ?_⟩
    by_cases hpos : 0 < (refill config now sys.bucket).tokens
    · refine Or.inl ⟨⟨c, now, .granted⟩, ?_, Or.inl rfl⟩
      simp [System.tryAcquire, System.record, takeOrWaitTime, hpos]
    · refine Or.inr (Or.inr ⟨now, hnow, ?_, ?_⟩)
      · simp [System.tryAcquire, System.record, takeOrWaitTime, hpos]
      · rw [tokens_pos] at hpos
        omega
  | @attempt deadline now later _ hnow hlater =>
    by_cases hpos : 0 < (refill config now sys.bucket).tokens
    · refine ⟨?_, Or.inl ⟨⟨c, now, .granted⟩, ?_, Or.inl rfl⟩⟩ <;>
        simp [System.attempt, System.record, System.enter, takeOrWaitTime, hpos,
          hnow.trans hlater]
    · refine ⟨?_, Or.inr (Or.inr ⟨now, hnow, ?_, ?_⟩)⟩
      · simp [System.attempt, System.enter, takeOrWaitTime, hpos, hnow.trans hlater]
      · simp [System.attempt, System.enter, takeOrWaitTime, hpos]
      · rw [tokens_pos] at hpos
        omega
  | acquire _ hnow => exact ⟨hnow, Or.inr (Or.inl rfl)⟩
  | acquireFor _ hnow => exact ⟨hnow, Or.inr (Or.inl rfl)⟩
  | compare _ hnow =>
    simp only [System.compare]
    split_ifs <;> exact ⟨hnow, Or.inr (Or.inl rfl)⟩
  | wake _ hnow _ => exact ⟨hnow, Or.inr (Or.inl rfl)⟩
  | availableTokens _ hnow => exact ⟨hnow, Or.inr (Or.inl rfl)⟩
  | reset _ hnow => exact ⟨hnow, Or.inl ⟨_, rfl, Or.inr rfl⟩⟩

/-- The caller tries again only when the next token is due. -/
def Due (due clock : Int) : Phase → Prop
  | .idle => False
  | .trying _ => due ≤ clock
  | .refused _ wait => due ≤ clock + wait
  | .sleeping _ wakeAt => due ≤ wakeAt

theorem Due.mono {due clock clock' : Int} {phase : Phase} (h : Due due clock phase)
    (hclock : clock ≤ clock') : Due due clock' phase := by
  cases phase with
  | idle => exact h
  | trying deadline => exact le_trans h hclock
  | refused deadline wait => exact le_trans h (by omega)
  | sleeping deadline wakeAt => exact h

/-- An empty bucket whose next token the caller waits for. -/
structure Waiting (config : Config) (sys : System) (caller : Nat) : Prop where
  empty : sys.bucket.tokens.toNat = 0
  due : Due (sys.bucket.lastRefill + config.period) sys.clock (sys.phase caller)

theorem refill_of_empty (hc : Sane config) {b : Bucket} {now : Int} (hlast : b.lastRefill ≤ now)
    (hb : b.tokens.toNat = 0) (h : (refill config now b).tokens.toNat = 0) :
    refill config now b = b := by
  have hmax := hc.tokens
  rcases refill_of_lt hc (by omega) hlast with ⟨-, hr⟩ | ⟨-, htok, hl⟩
  · rw [hr] at h
    simp only at h
    omega
  · have hzero : (now - b.lastRefill) / config.period = 0 := by omega
    rw [hzero, zero_mul, add_zero] at hl
    exact Bucket.ext (by omega) hl

/-- Once the next token is due, a refill brings it. -/
theorem refill_of_due (hc : Sane config) {b : Bucket} {now : Int}
    (hb : b.tokens.toNat = 0) (hdue : b.lastRefill + config.period ≤ now) :
    0 < (refill config now b).tokens := by
  have hpos := hc.period_pos
  have hmax := hc.tokens
  have hone : 1 ≤ (now - b.lastRefill) / config.period := by
    rw [Int.le_ediv_iff_mul_le hpos]
    omega
  rw [tokens_pos]
  have hlast : b.lastRefill ≤ now := by omega
  rcases refill_of_lt hc (by omega) hlast with ⟨-, hr⟩ | ⟨-, htok, -⟩
  · rw [hr]
    exact hmax
  · omega

namespace Waiting

theorem other (hc : Sane config) (hv : Valid config sys.clock sys.bucket)
    (h : Waiting config sys caller) (hne : c ≠ caller)
    (hs : step config sys c action = some sys')
    (hhistory : sys'.history = extra ++ sys.history)
    (hquiet : ∀ e ∈ extra, e.kind ≠ .granted ∧ e.kind ≠ .reset) :
    Waiting config sys' caller := by
  have hphase := (step_frame hs).1 caller hne.symm
  obtain ⟨hclock, ⟨e, he, hkind⟩ | hbucket | ⟨now, hnow, hbucket, hempty⟩⟩ := step_bucket hs
  · have hsame : extra = [e] := List.append_cancel_right (hhistory.symm.trans he)
    have hnot := hquiet e (by simp [hsame])
    exact (hkind.elim hnot.1 hnot.2).elim
  · refine ⟨hbucket ▸ h.empty, ?_⟩
    rw [hbucket, hphase]
    exact h.due.mono hclock
  · rw [refill_of_empty hc (hv.lastRefill.trans hnow) h.empty hempty] at hbucket
    refine ⟨hbucket ▸ h.empty, ?_⟩
    rw [hbucket, hphase]
    exact h.due.mono hclock

/-- A refusal leaves the caller waiting. -/
theorem of_attempt (hrange : config.period ≤ clockMax) {deadline : Option Int}
    {now later : Int} (hempty : ¬ 0 < (refill config now sys.bucket).tokens) :
    Waiting config (sys.attempt config caller deadline now later) caller := by
  have hinterval : config.period ≤ intervalNanos config := by
    rw [intervalNanos]
    split_ifs
    · exact hrange
    · exact le_rfl
  have hresult : sys.attempt config caller deadline now later =
      { sys with bucket := refill config now sys.bucket }.enter caller (.refused deadline
        (max (intervalNanos config - (later - (refill config now sys.bucket).lastRefill)) 0))
        later := by
    simp [System.attempt, takeOrWaitTime, hempty]
  rw [hresult]
  refine ⟨?_, ?_⟩
  · rw [tokens_pos] at hempty
    simp only [System.enter]
    omega
  · simp only [System.enter, Function.update_self, Due]
    omega

end Waiting

def isAttempt : Action → Bool
  | .attempt _ _ => true
  | _ => false

/-- How often a caller tries for a token. -/
def attempts (caller : Nat) (steps : List (Nat × Action)) : Nat :=
  steps.countP fun next => decide (next.1 = caller) && isAttempt next.2

theorem attempts_of_other (h : isAttempt action = false) : attempts caller [(c, action)] = 0 := by
  simp [attempts, h]

def granted (events : List Event) : Nat := events.countP fun e => decide (e.kind = .granted)

/-- After `n` tries of the caller and `g` grants to the others. -/
def Overtaken (config : Config) (caller : Nat) (n g : Nat) (sys : System) : Prop :=
  n ≤ g ∨ n = g + 1 ∧ Waiting config sys caller

theorem Overtaken.of_not_waiting {n g : Nat} (h : Overtaken config caller n g sys)
    (hnot : ¬ Waiting config sys caller) : n ≤ g :=
  h.resolve_right fun hwait => hnot hwait.2

/-- The steps of the caller itself, as long as its call goes on. -/
theorem overtaken_own (hc : Sane config) (hrange : config.period ≤ clockMax) {n g : Nat}
    (h : Overtaken config caller n g sys) (hs : step config sys caller action = some sys')
    (hhistory : sys'.history = sys.history) :
    Overtaken config caller (n + attempts caller [(caller, action)]) g sys' := by
  cases step_iff.mp hs with
  | tryAcquire _ _ _ => exact absurd hhistory (List.cons_ne_self _ _)
  | availableTokens _ _ => exact absurd hhistory (List.cons_ne_self _ _)
  | reset _ _ => exact absurd hhistory (List.cons_ne_self _ _)
  | acquire idle _ =>
    rw [attempts_of_other rfl]
    refine Or.inl (h.of_not_waiting fun hwait => ?_)
    simpa [idle, Due] using hwait.due
  | acquireFor idle _ =>
    rw [attempts_of_other rfl]
    refine Or.inl (h.of_not_waiting fun hwait => ?_)
    simpa [idle, Due] using hwait.due
  | @attempt deadline now later trying hnow _ =>
    have hone : attempts caller [(caller, .attempt now later)] = 1 := by
      simp [attempts, isAttempt]
    rw [hone]
    by_cases hpos : 0 < (refill config now sys.bucket).tokens
    · have hgrown : (sys.attempt config caller deadline now later).history =
          ⟨caller, now, .granted⟩ :: sys.history := by
        simp [System.attempt, takeOrWaitTime, hpos, System.record, System.enter]
      rw [hgrown] at hhistory
      exact absurd hhistory (List.cons_ne_self _ _)
    · have hle : n ≤ g := by
        refine h.of_not_waiting fun hwait => hpos ?_
        have hdue := hwait.due
        simp only [trying, Due] at hdue
        exact refill_of_due hc hwait.empty (hdue.trans hnow)
      rcases hle.lt_or_eq with hlt | rfl
      · exact Or.inl hlt
      · exact Or.inr ⟨rfl, Waiting.of_attempt hrange hpos⟩
  | @compare deadline wait now refused hnow =>
    have hentered : sys.compare caller deadline wait now =
        sys.enter caller (.sleeping deadline (now + wait)) now := by
      simp only [System.compare] at hhistory ⊢
      split_ifs at hhistory ⊢
      · exact absurd hhistory (List.cons_ne_self _ _)
      · rfl
    rw [hentered, attempts_of_other rfl]
    refine h.imp id fun hwait => ⟨hwait.1, hwait.2.empty, ?_⟩
    have hdue := hwait.2.due
    simp only [refused, Due] at hdue
    simp only [System.enter, Function.update_self, Due]
    omega
  | @wake deadline wakeAt now sleeping _ hwake =>
    rw [attempts_of_other rfl]
    refine h.imp id fun hwait => ⟨hwait.1, hwait.2.empty, ?_⟩
    have hdue := hwait.2.due
    simp only [sleeping, Due] at hdue
    simp only [System.enter, Function.update_self, Due]
    exact hdue.trans hwake

theorem overtaken_step (hc : Sane config) (hrange : config.period ≤ clockMax)
    (hv : Valid config sys.clock sys.bucket) {n g : Nat} (h : Overtaken config caller n g sys)
    (hs : step config sys c action = some sys') (hhistory : sys'.history = extra ++ sys.history)
    (hothers : ∀ e ∈ extra, e.caller ≠ caller ∧ e.kind ≠ .reset) :
    Overtaken config caller (n + attempts caller [(c, action)]) (g + granted extra) sys' := by
  by_cases hne : c = caller
  · -- an event of the caller would end its call
    subst hne
    obtain ⟨-, more, hmore, hown⟩ := step_frame hs
    obtain rfl : extra = more := List.append_cancel_right (hhistory.symm.trans hmore)
    obtain rfl : extra = [] := by
      rw [List.eq_nil_iff_forall_not_mem]
      exact fun e he => (hothers e he).1 (hown e he)
    exact overtaken_own hc hrange h hs hhistory
  · have hzero : attempts caller [(c, action)] = 0 := by simp [attempts, hne]
    rw [hzero]
    rcases h with hle | ⟨rfl, hwait⟩
    · exact Or.inl (by omega)
    · by_cases hgrant : granted extra = 0
      · rw [hgrant]
        refine Or.inr ⟨rfl, hwait.other hc hv hne hs hhistory fun e he => ⟨?_, (hothers e he).2⟩⟩
        rw [granted, List.countP_eq_zero] at hgrant
        simpa using hgrant e he
      · exact Or.inl (by omega)

theorem overtaken_run (hc : Sane config) (hrange : config.period ≤ clockMax)
    (hp : Paced config sys) {n g : Nat} (h : Overtaken config caller n g sys)
    (hs : run config sys steps = some sys') (hhistory : sys'.history = extra ++ sys.history)
    (hothers : ∀ e ∈ extra, e.caller ≠ caller ∧ e.kind ≠ .reset) :
    Overtaken config caller (n + attempts caller steps) (g + granted extra) sys' := by
  induction steps generalizing sys n g extra with
  | nil =>
    obtain rfl : sys = sys' := by simpa [run] using hs
    obtain rfl : extra = [] := by simpa using hhistory
    exact h
  | cons next steps ih =>
    obtain ⟨mid, hmid, hrest⟩ := run_cons.mp hs
    obtain ⟨-, first, hfirst, -⟩ := step_frame hmid
    obtain ⟨rest, hlater⟩ := run_history hrest
    obtain rfl : extra = rest ++ first := by
      rw [hlater, hfirst, ← List.append_assoc] at hhistory
      exact (List.append_cancel_right hhistory).symm
    have hstep := overtaken_step hc hrange hp.valid h hmid hfirst fun e he =>
      hothers e (List.mem_append_right _ he)
    have hrun := ih (hp.step hc hmid) hstep hrest hlater fun e he =>
      hothers e (List.mem_append_left _ he)
    have htries : attempts caller (next :: steps) =
        attempts caller [next] + attempts caller steps := by
      rw [attempts, attempts, attempts, ← List.countP_append]
      rfl
    rw [htries, granted, List.countP_append, ← granted, ← granted, ← Nat.add_assoc,
      Nat.add_comm (granted rest), ← Nat.add_assoc]
    exact hrun

/-- While a call of `acquire` or `acquire_for` lasts and nobody resets, it tries at most
once more than the other callers are granted tokens meanwhile, whatever the
interleaving and however late the callers wake. -/
theorem attempts_le_grants (config : Config) (hrange : (sanitized config).period ≤ clockMax)
    (start : Int) {before during : List (Nat × Action)} {sys fin : System} {extra : List Event}
    (h : run (sanitized config) (System.init (sanitized config) start) before = some sys)
    (hrun : run (sanitized config) sys during = some fin)
    (hhistory : fin.history = extra ++ sys.history) (caller : Nat)
    (hothers : ∀ e ∈ extra, e.caller ≠ caller ∧ e.kind ≠ .reset) :
    attempts caller during ≤ granted extra + 1 := by
  have hc := sane_sanitized config
  have hp := (Paced.init hc start).run hc h
  have hfin := overtaken_run hc hrange hp (n := 0) (g := 0) (Or.inl le_rfl) hrun hhistory hothers
  rcases hfin with hle | ⟨heq, -⟩ <;> omega

/-- The first caller sleeps until 1 s, when the second one takes the token. -/
def overtakenSteps : List (Nat × Action) :=
  [(0, .acquire 0), (0, .attempt 0 0), (0, .compare 0), (1, .tryAcquire 1000000000 1000000000),
    (0, .wake 1000000005), (0, .attempt 1000000005 1000000006)]

def overtakenRun : Option System :=
  run (sanitized { initialTokens := 0 }) (System.init (sanitized { initialTokens := 0 }) 0)
    overtakenSteps

theorem overtakenRun_isSome : overtakenRun.isSome = true := by decide

theorem attempts_overtaken :
    ∃ fin, overtakenRun = some fin ∧ attempts 0 overtakenSteps = 2 ∧ granted fin.history = 1 ∧
      attempts 0 overtakenSteps ≤ granted fin.history + 1 := by
  have hrun : overtakenRun = some (overtakenRun.get overtakenRun_isSome) :=
    (Option.some_get _).symm
  have hstart : run (sanitized { initialTokens := 0 })
      (System.init (sanitized { initialTokens := 0 }) 0) [] = some _ := rfl
  exact ⟨_, hrun, by decide, by decide, attempts_le_grants { initialTokens := 0 } (by decide) 0
    hstart hrun (List.append_nil _).symm 0 (by decide)⟩

end RateLimiter

end NwsCpp
