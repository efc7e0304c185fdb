import NwsCpp.RateProgress

/-! The limiter refuses only what it must: a caller waits exactly when the tokens of
some window are spent. -/

namespace NwsCpp

namespace RateLimiter

/-- The events of a window of the history, the latest first, when it opened and with
how many tokens at most: the start or a `reset` gives the initial ones, any other
moment a full bucket. -/
inductive Window (config : Config) (start : Int) :
    (history recent : List Event) → (opened : Int) → (base : Nat) → Prop
  | start : Window config start [] [] start config.initialTokens.toNat
  | reset {history : List Event} (caller : Nat) (opened : Int) :
    Window config start (⟨caller, opened, .reset⟩ :: history) [] opened
      config.initialTokens.toNat
  | full {history : List Event} (opened : Int) :
    Window config start history [] opened config.maxTokens.toNat
  | next {history recent : List Event} {opened : Int} {base : Nat} {e : Event}
    (window : Window config start history recent opened base) (kind : e.kind ≠ .reset)
    (time : e.kind = .granted → opened ≤ e.time) :
    Window config start (e :: history) (e :: recent) opened base

variable {config : Config} {start opened now : Int} {history recent extra : List Event}
  {base : Nat} {b : Bucket} {sys sys' : System}

theorem Window.base_le (hc : Sane config)
    (h : Window config start history recent opened base) : base ≤ config.maxTokens.toNat := by
  induction h with
  | start => exact hc.initial
  | reset => exact hc.initial
  | full => exact le_rfl
  | next _ _ _ ih => exact ih

section Quiet

variable {clock : Int}

theorem Quiet.granted_append (h : Quiet clock extra) :
    granted (extra ++ history) = granted history := by
  rw [granted, granted, List.countP_append, Nat.add_eq_right, List.countP_eq_zero]
  intro e he
  simp [(h e he).1]

theorem Window.append (h : Window config start history recent opened base)
    (hq : Quiet clock extra) :
    Window config start (extra ++ history) (extra ++ recent) opened base := by
  induction extra with
  | nil => exact h
  | cons e extra ih =>
    have hhead := hq e List.mem_cons_self
    exact (ih fun x hx => hq x (List.mem_cons_of_mem e hx)).next hhead.2.1
      fun hgrant => absurd hgrant hhead.1

/-- A window of a history with quiet calls in front is fresh or goes further back. -/
theorem Window.of_append (hq : Quiet clock extra)
    (h : Window config start (extra ++ history) recent opened base) :
    granted recent = 0 ∧ base = config.maxTokens.toNat ∨
      ∃ older, Window config start history older opened base ∧
        granted recent = granted older := by
  induction extra generalizing recent with
  | nil => exact Or.inr ⟨recent, h, rfl⟩
  | cons e extra ih =>
    have hhead := hq e List.mem_cons_self
    cases h with
    | reset => exact absurd rfl hhead.2.1
    | full => exact Or.inl ⟨rfl, rfl⟩
    | @next _ recent _ _ _ window =>
      have hskip : granted (e :: recent) = granted recent := by
        rw [granted, List.countP_cons_of_neg (by simpa using hhead.1), granted]
      rw [hskip]
      exact ih (fun x hx => hq x (List.mem_cons_of_mem e hx)) window

end Quiet

/-- The bucket holds what some window still gives. -/
def Supplied (config : Config) (start : Int) (history : List Event) (b : Bucket) : Prop :=
  ∃ recent opened base, ∃ k : Int, Window config start history recent opened base ∧ 0 ≤ k ∧
    b.lastRefill = opened + k * config.period ∧
    (b.tokens.toNat + granted recent : Int) = base + k

namespace Supplied

theorem of_full (h : b.tokens.toNat = config.maxTokens.toNat) :
    Supplied config start history b :=
  ⟨[], b.lastRefill, _, 0, .full _, le_rfl, by rw [zero_mul, add_zero], by rw [h]; rfl⟩

theorem append {clock : Int} (h : Supplied config start history b) (hq : Quiet clock extra) :
    Supplied config start (extra ++ history) b := by
  obtain ⟨recent, opened, base, k, hwindow, hk, hlast, htokens⟩ := h
  refine ⟨extra ++ recent, opened, base, k, hwindow.append hq, hk, hlast, ?_⟩
  rw [hq.granted_append]
  exact htokens

theorem refill (hc : Sane config) (hb : Valid config now b)
    (h : Supplied config start history b) :
    Supplied config start history (RateLimiter.refill config now b) := by
  rcases refill_cases hc hb with ⟨hfull, hr⟩ | ⟨-, -, hr⟩ | ⟨earned, hpos, -, -, htok, hl⟩ | ⟨-, hr⟩
  · exact of_full (by rw [hr]; exact hfull)
  · rwa [hr]
  · obtain ⟨recent, opened, base, k, hwindow, hk, hlast, htokens⟩ := h
    refine ⟨recent, opened, base, k + earned, hwindow, by omega, ?_, by omega⟩
    rw [hl, hlast, add_mul, add_assoc]
  · exact of_full (by rw [hr])

theorem take (hc : Sane config) (h : Supplied config start history b)
    (hlast : b.lastRefill ≤ now) (hpos : 0 < b.tokens) (caller : Nat) :
    Supplied config start (⟨caller, now, .granted⟩ :: history)
      { b with tokens := b.tokens - 1 } := by
  obtain ⟨recent, opened, base, k, hwindow, hk, hopened, htokens⟩ := h
  have hpaid : 0 ≤ k * config.period := mul_nonneg hk hc.period_pos.le
  have hless := toNat_take hpos
  have hone := tokens_pos.mp hpos
  have hcount : granted (⟨caller, now, .granted⟩ :: recent) = granted recent + 1 :=
    List.countP_cons_of_pos (by simp)
  refine ⟨_, opened, base, k, hwindow.next (by simp) fun _ => ?_, hk, hopened, ?_⟩
  · simp only
    omega
  · simp only
    omega

end Supplied

/-- No window gives more than its tokens at hand and one for each period. -/
def Limited (config : Config) (start : Int) (history : List Event) (clock : Int) (b : Bucket) :
    Prop :=
  ∀ recent opened base, Window config start history recent opened base →
    granted recent = 0 ∧ base = config.maxTokens.toNat ∨
      Within config opened (granted recent + (config.maxTokens.toNat - base)) clock b

namespace Limited

variable {clock : Int}

theorem append (h : Limited config start history clock b) {later : Int} (hlater : clock ≤ later)
    (hq : Quiet later extra) : Limited config start (extra ++ history) later b := by
  intro recent opened base hwindow
  rcases Window.of_append hq hwindow with hfresh | ⟨older, holder, hsame⟩
  · exact Or.inl hfresh
  · rw [hsame]
    exact (h older opened base holder).imp_right fun hwithin t ht => hwithin t (hlater.trans ht)

theorem refill (hc : Sane config) (hclock : clock ≤ now) (hb : Valid config now b)
    (h : Limited config start history clock b) :
    Limited config start history now (RateLimiter.refill config now b) := by
  intro recent opened base hwindow
  exact (h recent opened base hwindow).imp_right fun hwithin => hwithin.refill hc hclock hb

theorem take (hc : Sane config) (hclock : clock ≤ now) (hb : Valid config now b)
    (h : Limited config start history clock b)
    (hpos : 0 < (RateLimiter.refill config now b).tokens) (caller : Nat) {later : Int}
    (hlater : now ≤ later) :
    Limited config start (⟨caller, now, .granted⟩ :: history) later
      { RateLimiter.refill config now b with
        tokens := (RateLimiter.refill config now b).tokens - 1 } := by
  intro recent opened base hwindow
  cases hwindow with
  | full => exact Or.inl ⟨rfl, rfl⟩
  | @next _ recent _ _ _ window _ time =>
    have hopened : opened ≤ now := time rfl
    have hcount : granted (⟨caller, now, .granted⟩ :: recent) = granted recent + 1 :=
      List.countP_cons_of_pos (by simp)
    have hwithin : Within config opened (granted recent + (config.maxTokens.toNat - base)) now
        (RateLimiter.refill config now b) := by
      rcases h recent opened base window with ⟨hzero, hbase⟩ | hwithin
      · rw [hzero, hbase, Nat.sub_self, Nat.add_zero]
        exact within_refill_first hc hb hopened
      · exact hwithin.refill hc hclock hb
    right
    rw [hcount, Nat.add_right_comm]
    exact fun t ht => hwithin.take hpos t (hlater.trans ht)

theorem reset (hc : Sane config) (caller : Nat) :
    Limited config start (⟨caller, now, .reset⟩ :: history) now (RateLimiter.reset config now) := by
  intro recent opened base hwindow
  have hinitial := hc.initial
  cases hwindow with
  | full => exact Or.inl ⟨rfl, rfl⟩
  | reset =>
    right
    intro t _
    simp only [RateLimiter.reset, granted, List.countP_nil]
    omega
  | next _ kind _ => exact absurd rfl kind

end Limited

/-- What holds of the limiter and its windows after every step. -/
structure Balanced (config : Config) (start : Int) (sys : System) : Prop where
  paced : Paced config sys
  supplied : Supplied config start sys.history sys.bucket
  limited : Limited config start sys.history sys.clock sys.bucket

namespace Balanced

theorem init (hc : Sane config) (start : Int) :
    Balanced config start (System.init config start) where
  paced := Paced.init hc start
  supplied := by
    refine ⟨[], start, _, 0, .start, le_rfl, ?_, ?_⟩ <;> simp [System.init, reset, granted]
  limited := by
    intro recent opened base hwindow
    have hinitial := hc.initial
    cases hwindow with
    | full => exact Or.inl ⟨rfl, rfl⟩
    | start =>
      right
      intro t _
      simp only [System.init, reset, granted, List.countP_nil]
      omega

theorem step (hc : Sane config) (h : Balanced config start sys) {caller : Nat} {action : Action}
    (hs : RateLimiter.step config sys caller action = some sys') :
    Balanced config start sys' := by
  have hpaced := h.paced.step hc hs
  cases step_effect hs with
  | quiet extra clock bucket hist silent =>
    refine ⟨hpaced, ?_, ?_⟩
    · rw [hist, bucket]
      exact h.supplied.append silent
    · rw [hist, bucket]
      exact h.limited.append clock silent
  | refused now extra start clock bucket hist silent =>
    have hv := h.paced.valid.until start
    refine ⟨hpaced, ?_, ?_⟩
    · rw [hist, bucket]
      exact (h.supplied.refill hc hv).append silent
    · rw [hist, bucket]
      exact (h.limited.refill hc start hv).append clock silent
  | granted now caller start clock tokens bucket hist =>
    have hv := h.paced.valid.until start
    refine ⟨hpaced, ?_, ?_⟩
    · rw [hist, bucket]
      exact (h.supplied.refill hc hv).take hc (valid_refill hc hv).lastRefill tokens caller
    · rw [hist, bucket]
      exact h.limited.take hc start hv tokens caller clock
  | reset now caller start clock bucket hist =>
    refine ⟨hpaced, ?_, ?_⟩
    · rw [hist, bucket]
      refine ⟨[], now, _, 0, .reset caller now, le_rfl, ?_, ?_⟩ <;>
        simp [RateLimiter.reset, RateLimiter.granted]
    · rw [hist, bucket, clock]
      exact Limited.reset hc caller

theorem run (hc : Sane config) {steps : List (Nat × Action)} (h : Balanced config start sys)
    (hs : RateLimiter.run config sys steps = some sys') : Balanced config start sys' := by
  induction steps generalizing sys with
  | nil =>
    obtain rfl : sys = sys' := by simpa [RateLimiter.run] using hs
    exact h
  | cons next steps ih =>
    obtain ⟨mid, hmid, hrest⟩ := run_cons.mp hs
    exact ih (h.step hc hmid) hrest

end Balanced

/-- The window has given all that it can give by `now`. -/
def Spent (config : Config) (start : Int) (history : List Event) (now : Int) : Prop :=
  ∃ recent opened base, Window config start history recent opened base ∧ opened ≤ now ∧
    (base : Int) + (now - opened) / config.period ≤ granted recent

theorem Supplied.spent (hc : Sane config) (h : Supplied config start history b)
    (hlast : b.lastRefill ≤ now) (hage : now - b.lastRefill < config.period)
    (hempty : b.tokens.toNat = 0) : Spent config start history now := by
  obtain ⟨recent, opened, base, k, hwindow, hk, hopened, htokens⟩ := h
  have hpos := hc.period_pos
  have hpaid : 0 ≤ k * config.period := mul_nonneg hk hpos.le
  refine ⟨recent, opened, base, hwindow, by omega, ?_⟩
  have hle : (now - opened) / config.period < k + 1 := by
    rw [Int.ediv_lt_iff_lt_mul hpos, add_mul, one_mul]
    omega
  omega

theorem Limited.not_spent (hc : Sane config) (h : Limited config start history now b)
    (hlast : b.lastRefill ≤ now) (hpos : 0 < b.tokens) : ¬ Spent config start history now := by
  rintro ⟨recent, opened, base, hwindow, hopened, hspent⟩
  have hone := tokens_pos.mp hpos
  have hmax := hc.tokens
  have hbase := hwindow.base_le hc
  have hperiods := Int.ediv_nonneg (sub_nonneg.mpr hopened) hc.period_pos.le
  have hage := Int.ediv_nonneg (sub_nonneg.mpr hlast) hc.period_pos.le
  rcases h recent opened base hwindow with ⟨hzero, hfull⟩ | hwithin
  · omega
  · have hnow := hwithin now le_rfl
    omega

/-- In every reachable state, whatever the interleaving, a try at `now` is refused
exactly when some window of the history has given all its tokens. -/
theorem refused_iff_spent (config : Config) (start : Int) {steps : List (Nat × Action)}
    {sys : System}
    (h : run (sanitized config) (System.init (sanitized config) start) steps = some sys)
    {now : Int} (hnow : sys.clock ≤ now) (later : Int) :
    (takeOrWaitTime (sanitized config) now later sys.bucket).1 ≠ none ↔
      Spent (sanitized config) start sys.history now := by
  have hc := sane_sanitized config
  have hbalanced := (Balanced.init hc start).run hc h
  have hv := hbalanced.paced.valid.until hnow
  obtain ⟨hlast, hage⟩ := refill_age hc hv
  rw [takeOrWaitTime]
  by_cases hpos : 0 < (refill (sanitized config) now sys.bucket).tokens
  · rw [if_pos hpos]
    have hnot := (hbalanced.limited.refill hc hnow hv).not_spent hc hlast hpos
    simpa using hnot
  · rw [if_neg hpos]
    rw [tokens_pos] at hpos
    have hspent := (hbalanced.supplied.refill hc hv).spent hc hlast hage (by omega)
    simpa using hspent

/-- The caller that was overtaken is refused again: the window since the start has
given its one token. -/
theorem refused_overtaken :
    ∃ sys, overtakenRun = some sys ∧
      (takeOrWaitTime (sanitized { initialTokens := 0 }) 1000000007 1000000007
        sys.bucket).1 ≠ none ∧
      Spent (sanitized { initialTokens := 0 }) 0 sys.history 1000000007 := by
  have hrun : overtakenRun = some (overtakenRun.get overtakenRun_isSome) :=
    (Option.some_get _).symm
  have hnow : (overtakenRun.get overtakenRun_isSome).clock ≤ 1000000007 := by decide
  have hiff := refused_iff_spent { initialTokens := 0 } 0 hrun hnow 1000000007
  have hrefused : (takeOrWaitTime (sanitized { initialTokens := 0 }) 1000000007 1000000007
      (overtakenRun.get overtakenRun_isSome).bucket).1 ≠ none := by decide
  exact ⟨_, hrun, hrefused, hiff.mp hrefused⟩

end RateLimiter

end NwsCpp
