import NwsCpp.Retry

/-! The request protocol of `do_get`: the retry loop over the limiter and the
transport, and the trace it leaves. -/

namespace NwsCpp

open Bytes

/-- What the client meets outside: the wait for a token, the transport, the
sleep between attempts and the random draw, each with the state `σ` behind it. -/
structure Env (σ : Type*) where
  acquire : σ → Bool × σ
  transport : Text → σ → Result HttpResponse × σ
  sleep : Int → σ → σ
  jitter : ℚ → σ → ℚ × σ

namespace Request

inductive Event where
  | token (granted : Bool)
  | call (outcome : Result HttpResponse)
  | sleep (delay : Int)

structure Client (σ : Type*) where
  world : σ
  trace : List Event := []

variable {σ : Type*} (env : Env σ) (policy : RetryPolicy)

def tokenTimeout : Error := Error.rateLimited (ascii "Timed out waiting for an NWS request token")

def attemptGet (path : Text) (client : Client σ) : Result HttpResponse × Client σ :=
  let token := env.acquire client.world
  if token.1 then
    let reply := env.transport path token.2
    (reply.1, ⟨reply.2, client.trace ++ [.token true, .call reply.1]⟩)
  else (.error tokenTimeout, ⟨token.2, client.trace ++ [.token false]⟩)

/-- The delay before the next attempt, drawn and slept. -/
def pauseAfter (attempt : UInt8) (client : Client σ) : Client σ :=
  let draw := if 0 < policy.spread then env.jitter policy.spread client.world else (1, client.world)
  let delay := policy.calculateRetryDelay attempt draw.1
  ⟨env.sleep delay draw.2, client.trace ++ [.sleep delay]⟩

def doGet (path : Text) (client : Client σ) : Option (Result HttpResponse × Client σ) :=
  policy.withRetry (attemptGet env path) (pauseAfter env policy) client

theorem pauseAfter_trace (attempt : UInt8) (client : Client σ) :
    ∃ delay, (pauseAfter env policy attempt client).trace = client.trace ++ [.sleep delay] :=
  ⟨_, rfl⟩

def doGets (client : Client σ) (paths : List Text) : Option (Client σ) :=
  paths.foldlM (fun client path => (doGet env policy path client).map Prod.snd) client

/-- The traces of a request with `left` attempts left, and their results. -/
inductive Rounds : Nat → List Event → Result HttpResponse → Prop
  | timedOut {left : Nat} : Rounds (left + 1) [.token false] (.error tokenTimeout)
  | last {left : Nat} {outcome : Result HttpResponse}
      (stop : policy.shouldRetry outcome = false ∨ left = 0) :
      Rounds (left + 1) [.token true, .call outcome] outcome
  | again {left : Nat} {outcome result : Result HttpResponse} {delay : Int} {events : List Event}
      (retry : policy.shouldRetry outcome = true) (rest : Rounds left events result) :
      Rounds (left + 1) (.token true :: .call outcome :: .sleep delay :: events) result

def calls (events : List Event) : List (Result HttpResponse) :=
  events.filterMap fun
    | .call outcome => some outcome
    | _ => none

def tokens (events : List Event) : List Bool :=
  events.filterMap fun
    | .token granted => some granted
    | _ => none

section Lists

variable (events more : List Event)

theorem calls_append : calls (events ++ more) = calls events ++ calls more := List.filterMap_append

theorem tokens_append : tokens (events ++ more) = tokens events ++ tokens more :=
  List.filterMap_append

end Lists

/-- Each call stands right behind a granted token, so no token serves two calls. -/
def OwnToken (events : List Event) : Prop :=
  ∀ i outcome, events[i]? = some (.call outcome) → ∃ j, i = j + 1 ∧ events[j]? = some (.token true)

/-- At every moment there have been at most as many calls as tokens granted. -/
def Covered (events : List Event) : Prop :=
  ∀ n, (calls (events.take n)).length ≤ (tokens (events.take n)).count true

/-- What one request promises of its trace and its result. -/
structure Protocol (events : List Event) (result : Result HttpResponse) : Prop where
  ownToken : OwnToken events
  bounded : (calls events).length ≤ policy.maxAttempts.toNat
  retried : ∀ i outcome, (calls events)[i]? = some outcome → i + 1 < (calls events).length →
    policy.shouldRetry outcome = true
  timedOut : ∀ k, (tokens events)[k]? = some false →
    result = .error tokenTimeout ∧ (calls events).length = k ∧ (tokens events).length = k + 1
  finished : policy.maxAttempts ≠ 0 → (∀ granted ∈ tokens events, granted = true) →
    (calls events).getLast? = some result ∧
      (policy.shouldRetry result = false ∨ (calls events).length = policy.maxAttempts.toNat)
  disabled : policy.maxAttempts = 0 →
    events = [] ∧ result = .error (Error.network (ascii "Max retry attempts exceeded"))

variable {env policy}

theorem shouldRetry_tokenTimeout : policy.shouldRetry (.error tokenTimeout) = false := by
  simp [RetryPolicy.shouldRetry, RetryPolicy.shouldRetryError, tokenTimeout, Error.rateLimited]

theorem attemptGet_granted (path : Text) {client : Client σ}
    (h : (env.acquire client.world).1 = true) :
    ∃ outcome world, attemptGet env path client =
      (outcome, ⟨world, client.trace ++ [.token true, .call outcome]⟩) := by
  simp only [attemptGet, h, if_true]
  exact ⟨_, _, rfl⟩

theorem attemptGet_timedOut (path : Text) {client : Client σ}
    (h : (env.acquire client.world).1 = false) :
    ∃ world, attemptGet env path client =
      (.error tokenTimeout, ⟨world, client.trace ++ [.token false]⟩) := by
  simp only [attemptGet, h, Bool.false_eq_true, if_false]
  exact ⟨_, rfl⟩

variable (env) in
theorem withRetryFrom_rounds (path : Text) {fuel left : Nat} {attempt : UInt8} (client : Client σ)
    (hleft : attempt.toNat + left = policy.maxAttempts.toNat) (hfuel : left < fuel) :
    ∃ result client' events,
      policy.withRetryFrom (attemptGet env path) (pauseAfter env policy) fuel attempt client =
        some (result, client') ∧
      client'.trace = client.trace ++ events ∧ Rounds policy (left + 1) events result := by
  induction fuel generalizing left attempt client with
  | zero => omega
  | succ fuel ih =>
    have hle : attempt ≤ policy.maxAttempts := UInt8.le_iff_toNat_le.mpr (by omega)
    rw [RetryPolicy.withRetryFrom_succ, if_pos hle]
    cases htoken : (env.acquire client.world).1 with
    | false =>
      obtain ⟨world, hop⟩ := attemptGet_timedOut path htoken
      rw [hop, shouldRetry_tokenTimeout, Bool.false_and, if_neg Bool.false_ne_true]
      exact ⟨_, _, _, rfl, rfl, Rounds.timedOut⟩
    | true =>
      obtain ⟨outcome, world, hop⟩ := attemptGet_granted path htoken
      rw [hop]
      by_cases hagain : policy.shouldRetry outcome = true ∧ attempt < policy.maxAttempts
      · have hlt := UInt8.lt_iff_toNat_lt.mp hagain.2
        have hnext := RetryPolicy.toNat_succ_of_lt hagain.2
        obtain ⟨left, rfl⟩ : ∃ n, left = n + 1 := ⟨left - 1, by omega⟩
        have hleft' : (attempt + 1).toNat + left = policy.maxAttempts.toNat := by omega
        obtain ⟨delay, hpause⟩ := pauseAfter_trace env policy attempt
          ⟨world, client.trace ++ [.token true, .call outcome]⟩
        obtain ⟨result, client', events, hrun, htrace, hrounds⟩ := ih _ hleft' (by omega)
        refine ⟨result, client', .token true :: .call outcome :: .sleep delay :: events, ?_, ?_,
          hrounds.again hagain.1⟩
        · rwa [if_pos (by simpa using hagain)]
        · rw [htrace, hpause]
          simp
      · rw [if_neg (by simpa using hagain)]
        refine ⟨_, _, _, rfl, rfl, Rounds.last ?_⟩
        cases hretry : policy.shouldRetry outcome with
        | false => exact Or.inl rfl
        | true =>
          have hlast : ¬ attempt < policy.maxAttempts := fun h => hagain ⟨hretry, h⟩
          rw [UInt8.lt_iff_toNat_lt] at hlast
          exact Or.inr (by omega)

theorem Covered.append {events more : List Event} (h : Covered events) (hmore : Covered more) :
    Covered (events ++ more) := by
  intro n
  rw [List.take_append, calls_append, tokens_append, List.length_append, List.count_append]
  exact Nat.add_le_add (h n) (hmore _)

theorem covered_nil : Covered [] := fun n => by simp [calls]

theorem covered_token (granted : Bool) : Covered [.token granted] := by
  rintro (- | n) <;> simp [calls, tokens]

theorem covered_call (outcome : Result HttpResponse) : Covered [.token true, .call outcome] := by
  rintro (- | - | n) <;> simp [calls, tokens]

theorem covered_pause (outcome : Result HttpResponse) (delay : Int) :
    Covered [.token true, .call outcome, .sleep delay] := by
  rintro (- | - | - | n) <;> simp [calls, tokens]

namespace Rounds

variable {left : Nat} {events : List Event} {result : Result HttpResponse}

theorem covered (h : Rounds policy left events result) : Covered events := by
  induction h with
  | timedOut => exact covered_token false
  | last => exact covered_call _
  | again _ _ ih => exact (covered_pause _ _).append ih

theorem ownToken (h : Rounds policy left events result) : OwnToken events := by
  induction h with
  | timedOut =>
    rintro (- | i) outcome hi <;> simp at hi
  | last =>
    rintro (- | - | i) outcome hi
    · simp at hi
    · exact ⟨0, rfl, rfl⟩
    · simp at hi
  | again _ _ ih =>
    rintro (- | - | - | i) outcome hi
    · simp at hi
    · exact ⟨0, rfl, rfl⟩
    · simp at hi
    · obtain ⟨j, rfl, hj⟩ := ih i outcome hi
      exact ⟨j + 3, rfl, hj⟩

theorem bounded (h : Rounds policy left events result) : (calls events).length ≤ left := by
  induction h with
  | timedOut => exact Nat.zero_le _
  | last => exact Nat.succ_le_succ (Nat.zero_le _)
  | again _ _ ih => exact Nat.succ_le_succ ih

theorem retried (h : Rounds policy left events result) :
    ∀ i outcome, (calls events)[i]? = some outcome → i + 1 < (calls events).length →
      policy.shouldRetry outcome = true := by
  induction h with
  | timedOut => simp [calls]
  | last => simp [calls]
  | again retry rest ih =>
    rintro (- | i) outcome hi hlt
    · obtain rfl := Option.some.inj hi
      exact retry
    · exact ih i outcome hi (Nat.lt_of_succ_lt_succ hlt)

theorem timedOut_result (h : Rounds policy left events result) :
    ∀ k, (tokens events)[k]? = some false →
      result = .error tokenTimeout ∧ (calls events).length = k ∧ (tokens events).length = k + 1 := by
  induction h with
  | timedOut =>
    rintro (- | k) hk
    · exact ⟨rfl, rfl, rfl⟩
    · simp [tokens] at hk
  | last =>
    rintro (- | k) hk <;> simp [tokens] at hk
  | again _ _ ih =>
    rintro (- | k) hk
    · simp [tokens] at hk
    · obtain ⟨hresult, hcalls, htokens⟩ := ih k hk
      exact ⟨hresult, congrArg (· + 1) hcalls, congrArg (· + 1) htokens⟩

theorem finished (h : Rounds policy left events result)
    (hall : ∀ granted ∈ tokens events, granted = true) :
    (calls events).getLast? = some result ∧
      (policy.shouldRetry result = false ∨ (calls events).length = left) := by
  induction h with
  | timedOut => simp [tokens] at hall
  | last stop => exact ⟨rfl, stop.imp_right fun h => by simp [calls, h]⟩
  | @again left outcome result delay events retry rest ih =>
    obtain ⟨hlast, hstop⟩ := ih fun granted hg => hall granted (List.mem_cons_of_mem _ hg)
    have hcalls : calls (.token true :: .call outcome :: .sleep delay :: events) =
        outcome :: calls events := rfl
    rw [hcalls]
    refine ⟨?_, hstop.imp_right fun h => congrArg (· + 1) h⟩
    rw [List.getLast?_cons, hlast]
    rfl

theorem last_call (h : Rounds policy left events result) :
    (calls events).getLast? = some result ∨
      result = .error tokenTimeout ∧ ∀ outcome ∈ calls events, policy.shouldRetry outcome = true := by
  induction h with
  | timedOut => exact Or.inr ⟨rfl, by simp [calls]⟩
  | last => exact Or.inl rfl
  | @again left outcome result delay events retry rest ih =>
    have hcalls : calls (.token true :: .call outcome :: .sleep delay :: events) =
        outcome :: calls events := rfl
    rw [hcalls, List.getLast?_cons]
    rcases ih with hlast | ⟨hresult, hall⟩
    · rw [hlast]
      exact Or.inl rfl
    · exact Or.inr ⟨hresult, List.forall_mem_cons.mpr ⟨retry, hall⟩⟩

end Rounds

def attemptsExceeded : Error := Error.network (ascii "Max retry attempts exceeded")

theorem doGet_cases (env : Env σ) (policy : RetryPolicy) (path : Text) (client : Client σ) :
    ∃ result client' events, doGet env policy path client = some (result, client') ∧
      client'.trace = client.trace ++ events ∧
      (policy.maxAttempts = 0 ∧ events = [] ∧ result = .error attemptsExceeded ∨
        policy.maxAttempts ≠ 0 ∧ Rounds policy policy.maxAttempts.toNat events result) := by
  by_cases hmax : policy.maxAttempts = 0
  · have hnone : ¬ (1 : UInt8) ≤ policy.maxAttempts := by
      rw [hmax]
      decide
    refine ⟨.error attemptsExceeded, client, [], ?_, (List.append_nil _).symm,
      Or.inl ⟨hmax, rfl, rfl⟩⟩
    rw [doGet, RetryPolicy.withRetry, RetryPolicy.withRetryFrom_succ, if_neg hnone]
    rfl
  · have hpos : 0 < policy.maxAttempts.toNat := by
      rw [Nat.pos_iff_ne_zero]
      exact fun h => hmax (UInt8.toNat_inj.mp h)
    have hlt := policy.maxAttempts.toNat_lt
    have hleft : (1 : UInt8).toNat + (policy.maxAttempts.toNat - 1) = policy.maxAttempts.toNat := by
      rw [UInt8.toNat_one]
      omega
    have hfuel : policy.maxAttempts.toNat - 1 < 256 := by omega
    obtain ⟨result, client', events, hrun, htrace, hrounds⟩ :=
      withRetryFrom_rounds env path client hleft hfuel
    rw [Nat.sub_add_cancel hpos] at hrounds
    exact ⟨result, client', events, hrun, htrace, Or.inr ⟨hmax, hrounds⟩⟩

theorem doGet_rounds (env : Env σ) (policy : RetryPolicy) (path : Text) (client : Client σ) :
    ∃ result client' events, doGet env policy path client = some (result, client') ∧
      client'.trace = client.trace ++ events ∧ Covered events ∧ Protocol policy events result := by
  obtain ⟨result, client', events, hrun, htrace, ⟨hmax, rfl, rfl⟩ | ⟨hmax, hrounds⟩⟩ :=
    doGet_cases env policy path client
  · exact ⟨_, client', [], hrun, htrace, covered_nil, {
      ownToken := fun i outcome hi => by simp at hi
      bounded := Nat.zero_le _
      retried := fun i outcome hi => by simp [calls] at hi
      timedOut := fun k hk => by simp [tokens] at hk
      finished := fun h => absurd hmax h
      disabled := fun _ => ⟨rfl, rfl⟩ }⟩
  · exact ⟨result, client', events, hrun, htrace, hrounds.covered, {
      ownToken := hrounds.ownToken
      bounded := hrounds.bounded
      retried := hrounds.retried
      timedOut := hrounds.timedOut_result
      finished := fun _ => hrounds.finished
      disabled := fun h => absurd h hmax }⟩

theorem doGets_covered (env : Env σ) (policy : RetryPolicy) (paths : List Text) {client : Client σ}
    (h : Covered client.trace) :
    ∃ client', doGets env policy client paths = some client' ∧ Covered client'.trace := by
  induction paths generalizing client with
  | nil => exact ⟨client, rfl, h⟩
  | cons path paths ih =>
    obtain ⟨result, mid, events, hrun, htrace, hcovered, -⟩ := doGet_rounds env policy path client
    have hmid : Covered mid.trace := htrace ▸ h.append hcovered
    obtain ⟨client', hrest, hc⟩ := ih hmid
    refine ⟨client', ?_, hc⟩
    rw [doGets, List.foldlM_cons, hrun]
    exact hrest

end Request

end NwsCpp
