import NwsCpp.RateBound

/-! Refilling in steps is refilling once: what the read-only estimate promises and
why calls that fail leave no trace. -/

namespace NwsCpp

namespace RateLimiter

variable {config : Config} {b : Bucket} {clock now t1 t2 : Int}

theorem Bucket.ext {b b' : Bucket} (ht : b.tokens.toNat = b'.tokens.toNat)
    (hl : b.lastRefill = b'.lastRefill) : b = b' := by
  cases b
  cases b'
  simp only [Bucket.mk.injEq]
  exact ⟨UInt16.toNat_inj.mp ht, hl⟩

theorem refill_of_full (h : config.maxTokens.toNat ≤ b.tokens.toNat) (now : Int) :
    refill config now b = { b with lastRefill := now } := by
  rw [refill, if_pos (UInt16.le_iff_toNat_le.mpr h)]

theorem refill_of_lt (hc : Sane config) (hlt : b.tokens.toNat < config.maxTokens.toNat)
    (hlast : b.lastRefill ≤ now) :
    ((config.maxTokens.toNat : Int) ≤ b.tokens.toNat + (now - b.lastRefill) / config.period ∧
      refill config now b = { tokens := config.maxTokens, lastRefill := now }) ∨
    ((b.tokens.toNat : Int) + (now - b.lastRefill) / config.period < config.maxTokens.toNat ∧
      ((refill config now b).tokens.toNat : Int) =
        b.tokens.toNat + (now - b.lastRefill) / config.period ∧
      (refill config now b).lastRefill =
        b.lastRefill + (now - b.lastRefill) / config.period * config.period) := by
  rcases refill_cases hc ⟨hlt.le, hlast⟩ with ⟨hfull, -⟩ | ⟨-, hage, hr⟩ |
    ⟨earned, -, hearned, hsmall, htok, hl⟩ | ⟨hcap, hr⟩
  · omega
  · have hzero : (now - b.lastRefill) / config.period = 0 :=
      Int.ediv_eq_zero_of_lt (sub_nonneg.mpr hlast) hage
    rw [hr, hzero]
    exact Or.inr ⟨by omega, by omega, by omega⟩
  · exact Or.inr (hearned ▸ ⟨hsmall, htok, hl⟩)
  · exact Or.inl ⟨hcap, hr⟩

theorem refill_refill (hc : Sane config) (hb : b.tokens.toNat ≤ config.maxTokens.toNat)
    (h1 : b.lastRefill ≤ t1) (h2 : t1 ≤ t2) :
    refill config t2 (refill config t1 b) = refill config t2 b := by
  rcases hb.lt_or_eq with hlt | hfull
  · have hdiv : (t1 - b.lastRefill) / config.period ≤ (t2 - b.lastRefill) / config.period :=
      Int.ediv_le_ediv hc.period_pos (by omega)
    rcases refill_of_lt hc hlt h1 with ⟨hcap, hr⟩ | ⟨hsmall, htok, hl⟩
    · rw [hr, refill_of_full le_rfl]
      rcases refill_of_lt hc hlt (h1.trans h2) with ⟨-, hr2⟩ | ⟨hsmall2, -⟩
      · rw [hr2]
      · omega
    · -- the periods before and after `t1` add up
      have hpaid := Int.ediv_mul_le (t1 - b.lastRefill) hc.period_pos.ne'
      have hrest : (t2 - (refill config t1 b).lastRefill) / config.period =
          (t2 - b.lastRefill) / config.period - (t1 - b.lastRefill) / config.period := by
        rw [hl, ← sub_sub, Int.sub_mul_ediv_right _ _ hc.period_pos.ne']
      have hlt1 : (refill config t1 b).tokens.toNat < config.maxTokens.toNat := by omega
      have hlast1 : (refill config t1 b).lastRefill ≤ t2 := by omega
      rcases refill_of_lt hc hlt1 hlast1 with ⟨hcap, hr⟩ | ⟨hsmall1, htok1, hl1⟩ <;>
        rcases refill_of_lt hc hlt (h1.trans h2) with ⟨hcap2, hr2⟩ | ⟨hsmall2, htok2, hl2⟩
      · rw [hr, hr2]
      · omega
      · omega
      · refine Bucket.ext (by omega) ?_
        rw [hl1, hl2, hrest, hl, sub_mul]
        ring
  · have hagain : refill config t2 { b with lastRefill := t1 } = { b with lastRefill := t2 } :=
      refill_of_full (b := { b with lastRefill := t1 }) hfull.ge t2
    rw [refill_of_full hfull.ge t1, refill_of_full hfull.ge t2, hagain]

theorem refill_age (hc : Sane config) (hb : Valid config now b) :
    (refill config now b).lastRefill ≤ now ∧
      now - (refill config now b).lastRefill < config.period := by
  refine ⟨(valid_refill hc hb).lastRefill, ?_⟩
  have hpos := hc.period_pos
  rcases refill_cases hc hb with ⟨-, hr⟩ | ⟨-, hage, hr⟩ | ⟨earned, -, hearned, -, -, hl⟩ | ⟨-, hr⟩
  · rw [hr]
    simpa using hpos
  · rwa [hr]
  · have hrest := Int.lt_ediv_add_one_mul_self (now - b.lastRefill) hpos
    rw [← hearned, add_mul, one_mul] at hrest
    rw [hl]
    omega
  · rw [hr]
    simpa using hpos

theorem refill_of_recent (hc : Sane config) (hlt : b.tokens.toNat < config.maxTokens.toNat)
    (hlast : b.lastRefill ≤ now) (hage : now - b.lastRefill < config.period) :
    refill config now b = b := by
  have hzero : (now - b.lastRefill) / config.period = 0 :=
    Int.ediv_eq_zero_of_lt (sub_nonneg.mpr hlast) hage
  rcases refill_of_lt hc hlt hlast with ⟨hcap, -⟩ | ⟨-, htok, hl⟩
  · omega
  · rw [hzero] at htok hl
    exact Bucket.ext (by omega) (by omega)

section Available

theorem availableTokens_eq (hc : Sane config) (hb : Valid config now b) :
    availableTokens config now b = (refill config now b).tokens := by
  have hage : 0 ≤ now - b.lastRefill := sub_nonneg.mpr hb.lastRefill
  have hdiv := Int.ediv_nonneg hage hc.period_pos.le
  have hmax := UInt16.toNat_lt config.maxTokens
  rw [availableTokens, earned_eq config hage, max_eq_left hdiv]
  apply UInt16.toNat_inj.mp
  rw [UInt16.toNat_ofNat']
  rcases hb.tokens.lt_or_eq with hlt | hfull
  · rcases refill_of_lt hc hlt hb.lastRefill with ⟨hcap, hr⟩ | ⟨hsmall, htok, -⟩
    · rw [hr, min_eq_right hcap]
      simp only [Int.toNat_natCast]
      omega
    · rw [min_eq_left hsmall.le]
      omega
  · rw [refill_of_full hfull.ge, min_eq_right (by omega)]
    simp only [Int.toNat_natCast]
    omega

/-- The bucket after `n` calls of `try_acquire` at one instant. -/
def afterTries (config : Config) (now : Int) (b : Bucket) : Nat → Bucket
  | 0 => b
  | n + 1 => (takeOrWaitTime config now now (afterTries config now b n)).2

theorem refill_afterTries (hc : Sane config) (hb : Valid config now b) {n : Nat}
    (hn : n ≤ (refill config now b).tokens.toNat) :
    Valid config now (afterTries config now b n) ∧
      (refill config now (afterTries config now b n)).tokens.toNat =
        (refill config now b).tokens.toNat - n := by
  induction n with
  | zero => exact ⟨hb, rfl⟩
  | succ n ih =>
    obtain ⟨hvalid, htok⟩ := ih (by omega)
    have hage := refill_age hc hvalid
    have hle := (valid_refill hc hvalid).tokens
    generalize hr : refill config now (afterTries config now b n) = r at hage hle htok
    have hpos : 0 < r.tokens := tokens_pos.mpr (by omega)
    have hafter : afterTries config now b (n + 1) = { r with tokens := r.tokens - 1 } := by
      rw [afterTries, takeOrWaitTime, hr, if_pos hpos]
    have hless := toNat_take hpos
    have hlt : (r.tokens - 1).toNat < config.maxTokens.toNat := by omega
    have hsettled : refill config now { r with tokens := r.tokens - 1 } =
        { r with tokens := r.tokens - 1 } := refill_of_recent hc hlt hage.1 hage.2
    rw [hafter, hsettled]
    exact ⟨⟨hlt.le, hage.1⟩, by simp only; omega⟩

end Available

/-- In every reachable state, `available_tokens` counts the tries at that instant
that succeed before the first one that fails. -/
theorem available_exact (config : Config) (start : Int) {steps : List (Nat × Action)} {sys : System}
    (h : run (sanitized config) (System.init (sanitized config) start) steps = some sys) {t : Int}
    (ht : sys.bucket.lastRefill ≤ t) :
    let available := (availableTokens (sanitized config) t sys.bucket).toNat
    (∀ i < available, (takeOrWaitTime (sanitized config) t t
        (afterTries (sanitized config) t sys.bucket i)).1 = none) ∧
      (takeOrWaitTime (sanitized config) t t
        (afterTries (sanitized config) t sys.bucket available)).1 ≠ none := by
  have hc := sane_sanitized config
  have hb : Valid (sanitized config) t sys.bucket :=
    ⟨((Paced.init hc start).run hc h).valid.tokens, ht⟩
  simp only [availableTokens_eq hc hb]
  refine ⟨fun i hi => ?_, ?_⟩
  · have htok := (refill_afterTries hc hb hi.le).2
    rw [takeOrWaitTime, if_pos (tokens_pos.mpr (by omega))]
  · have htok := (refill_afterTries hc hb le_rfl).2
    rw [takeOrWaitTime, if_neg fun hpos => ?_]
    · simp
    · have htokens := tokens_pos.mp hpos
      omega

theorem available_after_try :
    ∃ sys, run (sanitized {}) (System.init (sanitized {}) 0) [(0, .tryAcquire 0 0)] = some sys ∧
      (takeOrWaitTime (sanitized {}) 500000000 500000000
        (afterTries (sanitized {}) 500000000 sys.bucket 4)).1 ≠ none ∧
      (takeOrWaitTime (sanitized {}) 1000000000 1000000000
        (afterTries (sanitized {}) 1000000000 sys.bucket 4)).1 = none := by
  refine ⟨_, rfl, ?_⟩
  have hrun : run (sanitized {}) (System.init (sanitized {}) 0) [(0, .tryAcquire 0 0)] = some _ := rfl
  have hearly := available_exact {} 0 hrun (t := 500000000) (by decide)
  have hlate := available_exact {} 0 hrun (t := 1000000000) (by decide)
  exact ⟨hearly.2, hlate.1 4 (by decide)⟩

end RateLimiter

end NwsCpp
