import NwsCpp.RateCredit

/-! Calls that fail change nothing for the others: a run with the polls erased is
a run, with the same results. -/

namespace NwsCpp

namespace RateLimiter

variable {config : Config} {sys sys' full part : System} {caller : Nat} {action : Action}
  {steps : List (Nat × Action)}

/-- A step touches its caller only: the other phases, and the results of the others. -/
theorem step_frame (h : step config sys caller action = some sys') :
    (∀ c, c ≠ caller → sys'.phase c = sys.phase c) ∧
      ∃ extra, sys'.history = extra ++ sys.history ∧ ∀ e ∈ extra, e.caller = caller := by
  have henter : ∀ phase c, c ≠ caller → Function.update sys.phase caller phase c = sys.phase c :=
    fun phase c hc => Function.update_of_ne hc _ _
  cases step_iff.mp h with
  | tryAcquire _ _ _ => exact ⟨fun c _ => rfl, [_], rfl, by simp⟩
  | acquire _ _ => exact ⟨henter _, [], rfl, by simp⟩
  | acquireFor _ _ => exact ⟨henter _, [], rfl, by simp⟩
  | attempt _ _ _ =>
    simp only [System.attempt]
    split
    · exact ⟨henter _, [_], rfl, by simp⟩
    · exact ⟨henter _, [], rfl, by simp⟩
  | compare _ _ =>
    simp only [System.compare]
    split_ifs
    · exact ⟨henter _, [_], rfl, by simp⟩
    · exact ⟨henter _, [], rfl, by simp⟩
  | wake _ _ _ => exact ⟨henter _, [], rfl, by simp⟩
  | availableTokens _ _ => exact ⟨fun c _ => rfl, [_], rfl, by simp⟩
  | reset _ _ => exact ⟨fun c _ => rfl, [_], rfl, by simp⟩

theorem run_cons {next : Nat × Action} :
    run config sys (next :: steps) = some sys' ↔
      ∃ mid, step config sys next.1 next.2 = some mid ∧ run config mid steps = some sys' := by
  rw [run, List.foldlM_cons, Option.bind_eq_bind, Option.bind_eq_some_iff]
  rfl

theorem run_history (h : run config sys steps = some sys') :
    ∃ extra, sys'.history = extra ++ sys.history := by
  induction steps generalizing sys with
  | nil =>
    obtain rfl : sys = sys' := by simpa [run] using h
    exact ⟨[], rfl⟩
  | cons next steps ih =>
    obtain ⟨mid, hmid, hrest⟩ := run_cons.mp h
    obtain ⟨-, extra, hextra, -⟩ := step_frame hmid
    obtain ⟨more, hmore⟩ := ih hrest
    exact ⟨more ++ extra, by rw [hmore, hextra, List.append_assoc]⟩

theorem takeOrWaitTime_congr {now : Int} {b b' : Bucket} (later : Int)
    (h : refill config now b = refill config now b') :
    takeOrWaitTime config now later b = takeOrWaitTime config now later b' := by
  rw [takeOrWaitTime, takeOrWaitTime, h]

theorem valid_takeOrWaitTime {now later : Int} {b : Bucket} (hc : Sane config)
    (hb : Valid config now b) (hlater : now ≤ later) :
    Valid config later (takeOrWaitTime config now later b).2 := by
  have hv := valid_refill hc hb
  rw [takeOrWaitTime]
  split_ifs with hpos
  · exact (hv.take hpos).until hlater
  · exact hv.until hlater

/-- A run and the same run without the calls of the polling callers: later refills
cannot tell the buckets apart. -/
structure Erased (config : Config) (polls : Nat → Bool) (full part : System) : Prop where
  clock : part.clock ≤ full.clock
  valid : Valid config full.clock full.bucket
  valid' : Valid config part.clock part.bucket
  bucket : ∀ t, full.clock ≤ t → refill config t full.bucket = refill config t part.bucket
  phase : ∀ c, polls c = false → full.phase c = part.phase c
  history : part.history = full.history.filter fun e => !polls e.caller

namespace Erased

variable {polls : Nat → Bool}

theorem init (hc : Sane config) (polls : Nat → Bool) (start : Int) :
    Erased config polls (System.init config start) (System.init config start) where
  clock := le_rfl
  valid := ⟨hc.initial, le_rfl⟩
  valid' := ⟨hc.initial, le_rfl⟩
  bucket := fun _ _ => rfl
  phase := fun _ _ => rfl
  history := rfl

/-- A step of a polling caller shows only in what is erased. -/
theorem poll_frame (h : Erased config polls full part) (hpoll : polls caller = true)
    (hs : step config full caller action = some sys') :
    (∀ c, polls c = false → sys'.phase c = part.phase c) ∧
      part.history = (sys'.history.filter fun e => !polls e.caller) ∧
      ∀ e, sys'.history = e :: full.history → e.caller = caller := by
  obtain ⟨hphase, extra, hextra, hcaller⟩ := step_frame hs
  refine ⟨fun c hpc => ?_, ?_, fun e he => ?_⟩
  · have hne : c ≠ caller := by
      rintro rfl
      rw [hpc] at hpoll
      exact absurd hpoll (by simp)
    rw [hphase c hne, h.phase c hpc]
  · have hgone : extra.filter (fun e => !polls e.caller) = [] := by
      rw [List.filter_eq_nil_iff]
      intro e he
      simp [hcaller e he, hpoll]
    rw [hextra, List.filter_append, hgone, List.nil_append, h.history]
  · have hsame : extra = [e] := List.append_cancel_right (hextra.symm.trans he)
    exact hcaller e (by simp [hsame])

theorem poll (hc : Sane config) (h : Erased config polls full part) (hpoll : polls caller = true)
    (hs : step config full caller action = some sys')
    (hquiet : ∀ e ∈ sys'.history, polls e.caller = true → e.kind ≠ .granted ∧ e.kind ≠ .reset) :
    Erased config polls sys' part := by
  obtain ⟨hphases, hhistory, hown⟩ := h.poll_frame hpoll hs
  cases step_effect hs with
  | quiet _ hclock hbucket _ _ =>
    exact {
      clock := h.clock.trans hclock
      valid := hbucket ▸ h.valid.until hclock
      valid' := h.valid'
      bucket := fun t ht => hbucket ▸ h.bucket t (hclock.trans ht)
      phase := hphases
      history := hhistory }
  | refused now _ hstart hclock hbucket _ _ =>
    have hv := valid_refill hc (h.valid.until hstart)
    exact {
      clock := h.clock.trans (hstart.trans hclock)
      valid := hbucket ▸ hv.until hclock
      valid' := h.valid'
      bucket := fun t ht => by
        rw [hbucket, refill_refill hc h.valid.tokens (h.valid.lastRefill.trans hstart)
          (hclock.trans ht)]
        exact h.bucket t (hstart.trans (hclock.trans ht))
      phase := hphases
      history := hhistory }
  | granted now c _ _ _ _ hgrant =>
    have hc' : c = caller := hown _ hgrant
    exact absurd rfl (hquiet ⟨c, now, .granted⟩ (by simp [hgrant]) (hc' ▸ hpoll)).1
  | reset now c _ _ _ hreset =>
    have hc' : c = caller := hown _ hreset
    exact absurd rfl (hquiet ⟨c, now, .reset⟩ (by simp [hreset]) (hc' ▸ hpoll)).2

theorem phase_update (h : Erased config polls full part) (phase : Phase) (c : Nat)
    (hc : polls c = false) :
    Function.update full.phase caller phase c = Function.update part.phase caller phase c := by
  by_cases he : c = caller
  · rw [he, Function.update_self, Function.update_self]
  · rw [Function.update_of_ne he, Function.update_of_ne he, h.phase c hc]

theorem enter (h : Erased config polls full part) (phase : Phase) {now : Int}
    (hnow : full.clock ≤ now) :
    Erased config polls (full.enter caller phase now) (part.enter caller phase now) where
  clock := le_rfl
  valid := h.valid.until hnow
  valid' := h.valid'.until (h.clock.trans hnow)
  bucket := fun t ht => h.bucket t (hnow.trans ht)
  phase := h.phase_update phase
  history := h.history

theorem record (h : Erased config polls full part) (hcaller : polls caller = false) (time : Int)
    (kind : EventKind) :
    Erased config polls (full.record caller time kind) (part.record caller time kind) where
  clock := h.clock
  valid := h.valid
  valid' := h.valid'
  bucket := h.bucket
  phase := h.phase
  history := by
    simp only [System.record, List.filter_cons, hcaller, Bool.not_false, if_true, h.history]

theorem merged (h : Erased config polls full part) {later : Int} {b : Bucket}
    (hb : Valid config later b) :
    Erased config polls { full with bucket := b, clock := later }
      { part with bucket := b, clock := later } where
  clock := le_rfl
  valid := hb
  valid' := hb
  bucket := fun _ _ => rfl
  phase := h.phase
  history := h.history

theorem tryAcquire (hc : Sane config) (h : Erased config polls full part)
    (hcaller : polls caller = false) {now later : Int} (hnow : full.clock ≤ now)
    (hlater : now ≤ later) :
    Erased config polls (full.tryAcquire config caller now later)
      (part.tryAcquire config caller now later) := by
  have htake := valid_takeOrWaitTime hc (h.valid.until hnow) hlater
  simp only [System.tryAcquire, ← takeOrWaitTime_congr later (h.bucket now hnow)]
  exact (h.merged htake).record hcaller now _

theorem available (hc : Sane config) (h : Erased config polls full part)
    (hcaller : polls caller = false) {now : Int} (hnow : full.clock ≤ now) :
    Erased config polls
      ({ full with clock := now }.record caller now
        (.available (availableTokens config now full.bucket)))
      ({ part with clock := now }.record caller now
        (.available (availableTokens config now part.bucket))) := by
  have hfull := h.valid.until hnow
  have hpart := h.valid'.until (h.clock.trans hnow)
  have hsame : availableTokens config now full.bucket = availableTokens config now part.bucket := by
    rw [availableTokens_eq hc hfull, availableTokens_eq hc hpart, h.bucket now hnow]
  have hlater : Erased config polls { full with clock := now } { part with clock := now } := {
    clock := le_rfl
    valid := hfull
    valid' := hpart
    bucket := fun t ht => h.bucket t (hnow.trans ht)
    phase := h.phase
    history := h.history }
  rw [hsame]
  exact hlater.record hcaller now _

theorem attempt (hc : Sane config) (h : Erased config polls full part)
    (hcaller : polls caller = false) (deadline : Option Int) {now later : Int}
    (hnow : full.clock ≤ now) (hlater : now ≤ later) :
    Erased config polls (full.attempt config caller deadline now later)
      (part.attempt config caller deadline now later) := by
  have htake := valid_takeOrWaitTime hc (h.valid.until hnow) hlater
  simp only [System.attempt, ← takeOrWaitTime_congr later (h.bucket now hnow)]
  split
  · exact ((h.merged htake).enter .idle le_rfl).record hcaller now .granted
  · exact (h.merged htake).enter _ le_rfl

theorem compare (h : Erased config polls full part) (hcaller : polls caller = false)
    (deadline : Option Int) (wait : Int) {now : Int} (hnow : full.clock ≤ now) :
    Erased config polls (full.compare caller deadline wait now)
      (part.compare caller deadline wait now) := by
  simp only [System.compare]
  split_ifs
  · exact (h.enter .idle hnow).record hcaller now .denied
  · exact h.enter _ hnow

theorem reset (hc : Sane config) (h : Erased config polls full part)
    (hcaller : polls caller = false) (now : Int) :
    Erased config polls
      ({ full with bucket := RateLimiter.reset config now, clock := now }.record caller now .reset)
      ({ part with bucket := RateLimiter.reset config now, clock := now }.record caller now .reset) :=
  have hv : Valid config now (RateLimiter.reset config now) := ⟨hc.initial, le_rfl⟩
  (h.merged hv).record hcaller now .reset

theorem other (hc : Sane config) (h : Erased config polls full part)
    (hcaller : polls caller = false) (hs : step config full caller action = some sys') :
    ∃ part', step config part caller action = some part' ∧ Erased config polls sys' part' := by
  have hmono : ∀ {now : Int}, full.clock ≤ now → part.clock ≤ now := fun hnow => h.clock.trans hnow
  have hphase := (h.phase caller hcaller).symm
  cases step_iff.mp hs with
  | tryAcquire hidle hnow hlater =>
    exact ⟨_, step_iff.mpr (.tryAcquire (hphase.trans hidle) (hmono hnow) hlater),
      h.tryAcquire hc hcaller hnow hlater⟩
  | acquire hidle hnow =>
    exact ⟨_, step_iff.mpr (.acquire (hphase.trans hidle) (hmono hnow)), h.enter _ hnow⟩
  | acquireFor hidle hnow =>
    exact ⟨_, step_iff.mpr (.acquireFor (hphase.trans hidle) (hmono hnow)), h.enter _ hnow⟩
  | attempt htrying hnow hlater =>
    exact ⟨_, step_iff.mpr (.attempt (hphase.trans htrying) (hmono hnow) hlater),
      h.attempt hc hcaller _ hnow hlater⟩
  | compare hrefused hnow =>
    exact ⟨_, step_iff.mpr (.compare (hphase.trans hrefused) (hmono hnow)),
      h.compare hcaller _ _ hnow⟩
  | wake hsleeping hnow hwake =>
    exact ⟨_, step_iff.mpr (.wake (hphase.trans hsleeping) (hmono hnow) hwake), h.enter _ hnow⟩
  | availableTokens hidle hnow =>
    exact ⟨_, step_iff.mpr (.availableTokens (hphase.trans hidle) (hmono hnow)),
      h.available hc hcaller hnow⟩
  | reset hidle hnow =>
    exact ⟨_, step_iff.mpr (.reset (hphase.trans hidle) (hmono hnow)), h.reset hc hcaller _⟩

theorem run (hc : Sane config) (h : Erased config polls full part)
    (hs : RateLimiter.run config full steps = some sys')
    (hquiet : ∀ e ∈ sys'.history, polls e.caller = true → e.kind ≠ .granted ∧ e.kind ≠ .reset) :
    ∃ part', RateLimiter.run config part (steps.filter fun next => !polls next.1) = some part' ∧
      Erased config polls sys' part' := by
  induction steps generalizing full part with
  | nil =>
    obtain rfl : full = sys' := by simpa [RateLimiter.run] using hs
    exact ⟨part, rfl, h⟩
  | cons next steps ih =>
    obtain ⟨mid, hmid, hrest⟩ := run_cons.mp hs
    cases hnext : polls next.1 with
    | true =>
      obtain ⟨more, hmore⟩ := run_history hrest
      have hpoll := h.poll hc hnext hmid fun e he => hquiet e (by simp [hmore, he])
      rw [List.filter_cons, hnext]
      exact ih hpoll hrest
    | false =>
      obtain ⟨part', hstep, hother⟩ := h.other hc hnext hmid
      obtain ⟨fin, hrun, herased⟩ := ih hother hrest
      rw [List.filter_cons, hnext]
      exact ⟨fin, run_cons.mpr ⟨part', hstep, hrun⟩, herased⟩

end Erased

/-- Refilling at any instant on the way changes no later refill. Hence in every run
of the callers the calls of polling ones, when none of them takes a token or resets,
can be erased: the rest is a run in which the others get the same results. -/
theorem polling_keeps_credit (config : Config) :
    (∀ b t1 t2, b.tokens ≤ (sanitized config).maxTokens → b.lastRefill ≤ t1 → t1 ≤ t2 →
      refill (sanitized config) t2 (refill (sanitized config) t1 b) =
        refill (sanitized config) t2 b) ∧
    ∀ start steps sys (polls : Nat → Bool),
      run (sanitized config) (System.init (sanitized config) start) steps = some sys →
      (∀ e ∈ sys.history, polls e.caller = true → e.kind ≠ .granted ∧ e.kind ≠ .reset) →
      ∃ sys', run (sanitized config) (System.init (sanitized config) start)
          (steps.filter fun next => !polls next.1) = some sys' ∧
        sys'.history = sys.history.filter fun e => !polls e.caller := by
  have hc := sane_sanitized config
  refine ⟨fun b t1 t2 hb h1 h2 => ?_, fun start steps sys polls hrun hquiet => ?_⟩
  · exact refill_refill hc (UInt16.le_iff_toNat_le.mp hb) h1 h2
  · obtain ⟨sys', hrun', herased⟩ := (Erased.init hc polls start).run hc hrun hquiet
    exact ⟨sys', hrun', herased.history⟩

/-- Caller 1 polls twice within the first second, the second time with an `acquire_for` of no
time; then caller 0 asks for the token of that second. -/
def polledSteps : List (Nat × Action) :=
  [(1, .tryAcquire 400000000 400000000), (1, .acquireFor 0 900000000),
    (1, .attempt 900000000 900000000), (1, .compare 900000000),
    (0, .tryAcquire 1000000000 1000000000)]

def polledRun (steps : List (Nat × Action)) : Option System :=
  run (sanitized { initialTokens := 0 }) (System.init (sanitized { initialTokens := 0 }) 0) steps

theorem polledRun_isSome : (polledRun polledSteps).isSome = true := by decide

theorem polling_keeps_credit_polled :
    ∃ sys sys', polledRun polledSteps = some sys ∧
      sys.history.map (fun e => (e.caller, e.kind)) = [(0, .granted), (1, .denied), (1, .denied)] ∧
      polledRun [(0, .tryAcquire 1000000000 1000000000)] = some sys' ∧
      sys'.history = sys.history.filter fun e => !(e.caller == 1) := by
  have hrun : polledRun polledSteps = some ((polledRun polledSteps).get polledRun_isSome) :=
    (Option.some_get _).symm
  have hhistory : ((polledRun polledSteps).get polledRun_isSome).history.map
      (fun e => (e.caller, e.kind)) = [(0, .granted), (1, .denied), (1, .denied)] := by decide
  obtain ⟨sys', hrun', herased⟩ := (polling_keeps_credit { initialTokens := 0 }).2 0 polledSteps _
    (· == 1) hrun (by decide)
  exact ⟨_, sys', hrun, hhistory, hrun', herased⟩

end RateLimiter

end NwsCpp
