import NwsCpp.NwsClientCache
import NwsCpp.RateBound

/-! The requests that a client sends in a stretch of time, against the limiter that meters
its tokens. -/

namespace NwsCpp

open Bytes

namespace Request

def Event.isCall : Event → Bool
  | .call _ => true
  | _ => false

def Event.isGrant : Event → Bool
  | .token granted => granted
  | _ => false

/-- The events of a trace with the times at which they happened. -/
abbrev Timed := List (Int × Event)

section Windows

variable (t0 t1 : Int) (timed : Timed)

def callsWithin : Nat := timed.countP fun e => e.2.isCall && decide (t0 ≤ e.1 ∧ e.1 ≤ t1)

def grantsWithin : Nat := timed.countP fun e => e.2.isGrant && decide (t0 ≤ e.1 ∧ e.1 ≤ t1)

/-- The times of the tokens granted. -/
def grantTimes : List Int := (timed.filter fun e => e.2.isGrant).map Prod.fst

end Windows

variable {t0 t1 : Int} {timed : Timed}

theorem grantsWithin_eq (t0 t1 : Int) (timed : Timed) :
    grantsWithin t0 t1 timed = (grantTimes timed).countP fun t => decide (t0 ≤ t ∧ t ≤ t1) := by
  rw [grantTimes, List.countP_map, List.countP_filter, grantsWithin]
  apply List.countP_congr
  intro e _
  simp [and_comm]

theorem callsWithin_eq_zero (h : ∀ e ∈ timed, e.1 < t0) : callsWithin t0 t1 timed = 0 := by
  rw [callsWithin, List.countP_eq_zero]
  intro e he
  have := h e he
  simp only [Bool.and_eq_true, decide_eq_true_eq, not_and]
  omega

theorem OwnToken.of_append {events more : List Event} (h : OwnToken (events ++ more)) :
    OwnToken events := by
  intro i outcome hi
  obtain ⟨hlt, -⟩ := List.getElem?_eq_some_iff.mp hi
  obtain ⟨j, rfl, hj⟩ := h i outcome (by rwa [List.getElem?_append_left hlt])
  exact ⟨j, rfl, by rwa [List.getElem?_append_left (by omega)] at hj⟩

theorem OwnToken.before_call {events : List Event} {outcome : Result HttpResponse}
    (h : OwnToken (events ++ [.call outcome])) : ∃ rest, events = rest ++ [.token true] := by
  obtain ⟨j, hj, htoken⟩ := h events.length outcome (by simp)
  rw [List.getElem?_append_left (by omega)] at htoken
  have hlast : events.getLast? = some (.token true) := by
    rw [List.getLast?_eq_getElem?, hj, Nat.add_sub_cancel]
    exact htoken
  exact ⟨events.dropLast, (List.dropLast_append_getLast? _ hlast).symm⟩

/-- One while the latest event is a token of the window that no call has followed. -/
def unused (t0 t1 : Int) (timed : Timed) : Nat :=
  timed.getLast?.elim 0 fun e => if e.2.isGrant && decide (t0 ≤ e.1 ∧ e.1 ≤ t1) then 1 else 0

theorem counts_concat (t0 t1 : Int) (timed : Timed) (e : Int × Event) :
    callsWithin t0 t1 (timed ++ [e]) = callsWithin t0 t1 timed +
        (if e.2.isCall && decide (t0 ≤ e.1 ∧ e.1 ≤ t1) then 1 else 0) ∧
      grantsWithin t0 t1 (timed ++ [e]) = grantsWithin t0 t1 timed + unused t0 t1 (timed ++ [e]) := by
  simp [callsWithin, grantsWithin, unused, List.countP_append, List.countP_singleton]

theorem callsWithin_add_unused_le (hown : OwnToken (timed.map Prod.snd))
    (hsorted : (timed.map Prod.fst).Pairwise (· ≤ ·)) :
    callsWithin t0 t1 timed + unused t0 t1 timed ≤ grantsWithin t0 t1 timed + 1 := by
  induction timed using List.reverseRecOn with
  | nil => simp [callsWithin, unused]
  | append_singleton timed e ih =>
    obtain ⟨t, event⟩ := e
    rw [List.map_append] at hown hsorted
    obtain ⟨hbefore, -, hlast⟩ := List.pairwise_append.mp hsorted
    have ih := ih hown.of_append hbefore
    obtain ⟨hcalls, hgrants⟩ := counts_concat t0 t1 timed (t, event)
    by_cases hcall : event.isCall = true ∧ t0 ≤ t ∧ t ≤ t1
    · have hone : callsWithin t0 t1 (timed ++ [(t, event)]) = callsWithin t0 t1 timed + 1 := by
        rw [hcalls, if_pos (by simpa using hcall)]
      obtain ⟨outcome, rfl⟩ : ∃ outcome, event = .call outcome := by
        cases event <;> simp_all [Event.isCall]
      have hunused : unused t0 t1 (timed ++ [(t, .call outcome)]) = 0 := by
        simp [unused, Event.isGrant]
      obtain ⟨rest, hrest⟩ := hown.before_call
      obtain ⟨timed', token, rfl, -, htoken⟩ := List.map_eq_append_iff.mp hrest
      obtain ⟨⟨a, event⟩, rfl, rfl⟩ := List.map_eq_singleton_iff.mp htoken
      have ha : a ≤ t := hlast a (by simp) t (by simp)
      by_cases hin : t0 ≤ a
      · -- the token of the call is of the window, and still unused before the call
        have htoken : unused t0 t1 (timed' ++ [(a, .token true)]) = 1 := by
          have hle : a ≤ t1 := by omega
          simp [unused, Event.isGrant, hin, hle]
        omega
      · -- everything before the call lies before the window
        have hzero : callsWithin t0 t1 (timed' ++ [(a, .token true)]) = 0 := by
          apply callsWithin_eq_zero
          intro e he
          have hle : e.1 ≤ a := by
            rcases List.mem_append.mp he with he | he
            · rw [List.map_append] at hbefore
              exact (List.pairwise_append.mp hbefore).2.2 e.1 (List.mem_map_of_mem he) a (by simp)
            · rw [List.mem_singleton.mp he]
          omega
        omega
    · have hsame : callsWithin t0 t1 (timed ++ [(t, event)]) = callsWithin t0 t1 timed := by
        rw [hcalls, if_neg (by simpa using hcall), Nat.add_zero]
      omega

/-- In a window, one call may have its token from before; each other call has a token of
the window to itself. -/
theorem callsWithin_le (hown : OwnToken (timed.map Prod.snd))
    (hsorted : (timed.map Prod.fst).Pairwise (· ≤ ·)) :
    callsWithin t0 t1 timed ≤ grantsWithin t0 t1 timed + 1 :=
  (Nat.le_add_right _ _).trans (callsWithin_add_unused_le hown hsorted)

end Request

namespace RateLimiter

/-- The times at which a caller was granted a token, the earliest first. -/
def grantTimesOf (caller : Nat) (history : List Event) : List Int :=
  (history.reverse.filter fun e => e.caller == caller && decide (e.kind = .granted)).map Event.time

theorem countP_grantTimesOf_le (caller : Nat) (t0 t1 : Int) (history : List Event) :
    (grantTimesOf caller history).countP (fun t => decide (t0 ≤ t ∧ t ≤ t1)) ≤
      grants t0 t1 history := by
  rw [grantTimesOf, List.countP_map, List.countP_filter, List.countP_reverse, grants]
  apply List.countP_mono_left
  intro e _ he
  simp only [Function.comp_apply, Bool.and_eq_true, beq_iff_eq, decide_eq_true_eq] at he ⊢
  exact ⟨he.2.2, he.1⟩

end RateLimiter

namespace NWSClient

variable {σ D : Type*} [JsonDouble D]

/-- However its calls and those of other callers of the limiter interleave, a client calls its
transport in every window without a `reset` at most a full bucket of times, once for each refill
interval of the window, and once with a token it had before. -/
theorem calls_within_bounded (env : Env σ) (parseRoot : Text → Result (Json D))
    (config : Points.Config) (world : σ) (calls : List (Call D)) {replies : List (Reply D)}
    {client : Client σ D}
    (hrun : run env parseRoot config calls (Points.Client.init config world) =
      some (replies, client))
    (limits : RateLimiter.Config) (start : Int) {steps : List (Nat × RateLimiter.Action)}
    {limiter : RateLimiter.System}
    (hlimiter : RateLimiter.run (RateLimiter.sanitized limits)
      (RateLimiter.System.init (RateLimiter.sanitized limits) start) steps = some limiter)
    {timed : Request.Timed} (htrace : timed.map Prod.snd = client.request.trace)
    (hsorted : (timed.map Prod.fst).Pairwise (· ≤ ·)) (caller : Nat)
    (htokens : Request.grantTimes timed = RateLimiter.grantTimesOf caller limiter.history)
    {t0 t1 : Int} (ht : t0 ≤ t1) (hreset : RateLimiter.NoReset t0 t1 limiter.history) :
    (Request.callsWithin t0 t1 timed : Int) ≤
      (RateLimiter.sanitized limits).maxTokens.toNat +
        (t1 - t0) / ((RateLimiter.sanitized limits).refillInterval * 1000000) + 1 := by
  have hown : Request.OwnToken client.request.trace := by
    obtain ⟨replies', client', asked, hrun', hrequests⟩ :=
      run_asks env parseRoot config calls (Points.Client.init config world)
    obtain ⟨-, rfl⟩ := Prod.mk.inj (Option.some.inj (hrun.symm.trans hrun'))
    obtain ⟨request, events, hgets, htrace, hown, -⟩ :=
      Request.doGets_trace env config.retry (asked.flatten.map Prod.fst) ⟨world, []⟩
    obtain rfl := Option.some.inj (hgets.symm.trans hrequests.exchanged.doGets)
    have htrace : client.request.trace = events := htrace
    rwa [htrace]
  have hcalls : Request.callsWithin t0 t1 timed ≤ Request.grantsWithin t0 t1 timed + 1 :=
    Request.callsWithin_le (htrace ▸ hown) hsorted
  have hgrants : Request.grantsWithin t0 t1 timed ≤ RateLimiter.grants t0 t1 limiter.history := by
    rw [Request.grantsWithin_eq, htokens]
    exact RateLimiter.countP_grantTimesOf_le caller t0 t1 limiter.history
  have hsane := RateLimiter.sane_sanitized limits
  have hbound := ((RateLimiter.Paced.init hsane start).run hsane hlimiter).bound t0 t1 ht hreset
  have hperiod : (RateLimiter.sanitized limits).period =
    (RateLimiter.sanitized limits).refillInterval * 1000000 := rfl
  rw [hperiod] at hbound
  omega

section Prairie

/-- The six events of the requests that `prairieCalls` makes with a cache. -/
def prairieTimes : List Int := [0, 5, 6, 9, 10, 12]

/-- The limiter behind them, which another caller shares. -/
def prairieLimiter : Option RateLimiter.System :=
  RateLimiter.run (RateLimiter.sanitized {}) (RateLimiter.System.init (RateLimiter.sanitized {}) 0)
    [(0, .acquire 0), (0, .attempt 0 1), (1, .tryAcquire 3 3), (0, .acquire 5), (0, .attempt 6 7),
      (0, .acquire 9), (0, .attempt 10 10)]

theorem prairieLimiter_isSome : prairieLimiter.isSome = true := by decide

theorem calls_within_prairie : ∃ timed : Request.Timed,
    Request.callsWithin 0 12 timed = 3 ∧
      (Request.callsWithin 0 12 timed : Int) ≤ 5 + (12 - 0) / (1000 * 1000000) + 1 := by
  obtain ⟨replies, client, -, hrun, -⟩ := run_asks prairieEnv prairieRoot { enableCache := true }
    prairieCalls (Points.Client.init { enableCache := true } ())
  have hfacts : ((run prairieEnv prairieRoot { enableCache := true } prairieCalls
      (Points.Client.init { enableCache := true } ())).map fun result =>
        (result.2.request.trace.length,
          Request.grantTimes (prairieTimes.zip result.2.request.trace),
          Request.callsWithin 0 12 (prairieTimes.zip result.2.request.trace))) =
      some (6, [0, 6, 10], 3) := by decide +kernel
  rw [hrun, Option.map_some, Option.some.injEq, Prod.mk.injEq, Prod.mk.injEq] at hfacts
  obtain ⟨hlength, htokens, hcalls⟩ := hfacts
  have hlimiter : prairieLimiter = some (prairieLimiter.get prairieLimiter_isSome) :=
    (Option.some_get _).symm
  have hgranted : RateLimiter.grantTimesOf 0 (prairieLimiter.get prairieLimiter_isSome).history =
    [0, 6, 10] := by decide
  have hreset : RateLimiter.NoReset 0 12 (prairieLimiter.get prairieLimiter_isSome).history := by
    unfold RateLimiter.NoReset
    decide
  have htimes : (prairieTimes.zip client.request.trace).map Prod.fst = prairieTimes :=
    List.map_fst_zip (by rw [hlength]; decide)
  refine ⟨prairieTimes.zip client.request.trace, hcalls, ?_⟩
  exact calls_within_bounded prairieEnv prairieRoot { enableCache := true } () prairieCalls hrun {}
    0 hlimiter (List.map_snd_zip (by rw [hlength]; decide)) (by rw [htimes]; decide) 0
    (htokens.trans hgranted.symm) (by decide) hreset

end Prairie

end NWSClient

end NwsCpp
