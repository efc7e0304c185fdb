import NwsCpp.DoGet

/-! The attempts of one request: the last of them, which the reply comes from, and the
calls of an environment that keeps its own record of them. -/

namespace NwsCpp

open Bytes

namespace RetryPolicy

/-- What holds of the first attempt and goes from a retried attempt over its pause to the next
holds of the last one, whose result is that of the loop. -/
theorem withRetryFrom_last {policy : RetryPolicy} {S : Type*}
    {operation : S → Result HttpResponse × S} {pause : UInt8 → S → S} {I : UInt8 → S → Prop}
    (hagain : ∀ attempt s, I attempt s → attempt < policy.maxAttempts →
      policy.shouldRetry (operation s).1 = true → I (attempt + 1) (pause attempt (operation s).2))
    {fuel : Nat} {attempt : UInt8} {s s' : S} {result : Result HttpResponse} (hs : I attempt s)
    (hle : attempt ≤ policy.maxAttempts)
    (h : policy.withRetryFrom operation pause fuel attempt s = some (result, s')) :
    ∃ n last, I n last ∧ operation last = (result, s') ∧
      (policy.shouldRetry result = false ∨ n = policy.maxAttempts) := by
  induction fuel generalizing attempt s with
  | zero => cases h
  | succ fuel ih =>
    rw [withRetryFrom_succ, if_pos hle] at h
    split_ifs at h with hretry
    · rw [Bool.and_eq_true, decide_eq_true_eq] at hretry
      refine ih (hagain attempt s hs hretry.2 hretry.1) ?_ h
      have hnext := toNat_succ_of_lt hretry.2
      have hlt := UInt8.lt_iff_toNat_lt.mp hretry.2
      rw [UInt8.le_iff_toNat_le]
      omega
    · have hop : operation s = (result, s') := Option.some.inj h
      refine ⟨attempt, s, hs, hop, ?_⟩
      rw [hop, Bool.and_eq_true, decide_eq_true_eq, not_and_or] at hretry
      refine hretry.imp Bool.eq_false_iff.mpr fun hlast => ?_
      rw [UInt8.le_iff_toNat_le] at hle
      rw [UInt8.lt_iff_toNat_lt] at hlast
      exact UInt8.toNat_inj.mp (by omega)

/-- A map of the states that the operation and the pause respect goes through the loop. -/
theorem withRetryFrom_map {policy : RetryPolicy} {S T : Type*} (f : S → T)
    {operation : S → Result HttpResponse × S} {operation' : T → Result HttpResponse × T}
    {pause : UInt8 → S → S} {pause' : UInt8 → T → T}
    (hop : ∀ s, operation' (f s) = Prod.map id f (operation s))
    (hpause : ∀ attempt s, pause' attempt (f s) = f (pause attempt s)) (fuel : Nat)
    (attempt : UInt8) (s : S) :
    policy.withRetryFrom operation' pause' fuel attempt (f s) =
      (policy.withRetryFrom operation pause fuel attempt s).map (Prod.map id f) := by
  induction fuel generalizing attempt s with
  | zero => rfl
  | succ fuel ih =>
    rw [withRetryFrom_succ, withRetryFrom_succ, hop, Prod.map_fst, Prod.map_snd, id_eq, hpause, ih]
    split_ifs <;> rfl

end RetryPolicy

namespace Request

variable {σ : Type*}

/-- The clients that a request for `path` makes its attempts from, with their numbers: the one
it starts from, and after an attempt that is retried the one that has slept. -/
inductive Tries (env : Env σ) (policy : RetryPolicy) (path : Text) (start : Client σ) :
    UInt8 → Client σ → Prop
  | first : Tries env policy path start 1 start
  | again {attempt : UInt8} {client : Client σ} (tried : Tries env policy path start attempt client)
      (left : attempt < policy.maxAttempts)
      (retry : policy.shouldRetry (attemptGet env path client).1 = true) :
      Tries env policy path start (attempt + 1)
        (pauseAfter env policy attempt (attemptGet env path client).2)

/-- The attempt from `last` is the last one of a request, with its outcome and the client
after it. -/
structure LastAttempt (env : Env σ) (policy : RetryPolicy) (path : Text)
    (start last : Client σ) (outcome : Result HttpResponse) (finish : Client σ) : Prop where
  made : attemptGet env path last = (outcome, finish)
  tried : ∃ attempt, Tries env policy path start attempt last ∧
    (policy.shouldRetry outcome = false ∨ attempt = policy.maxAttempts)

theorem doGet_last (env : Env σ) (policy : RetryPolicy) (path : Text) (client : Client σ) :
    ∃ result client', doGet env policy path client = some (result, client') ∧
      (policy.maxAttempts = 0 ∧ result = .error attemptsExceeded ∧ client' = client ∨
        policy.maxAttempts ≠ 0 ∧ ∃ last, LastAttempt env policy path client last result client') := by
  obtain ⟨result, client', events, hrun, -, -⟩ := doGet_cases env policy path client
  refine ⟨result, client', hrun, ?_⟩
  by_cases hmax : policy.maxAttempts = 0
  · have hnone : ¬ (1 : UInt8) ≤ policy.maxAttempts := by
      rw [hmax]
      decide
    rw [doGet, RetryPolicy.withRetry, RetryPolicy.withRetryFrom_succ, if_neg hnone] at hrun
    obtain ⟨rfl, rfl⟩ := Prod.mk.inj (Option.some.inj hrun)
    exact Or.inl ⟨hmax, rfl, rfl⟩
  · have hle : (1 : UInt8) ≤ policy.maxAttempts := by
      have hpos : policy.maxAttempts.toNat ≠ 0 := fun h => hmax (UInt8.toNat_inj.mp h)
      rw [UInt8.le_iff_toNat_le, UInt8.toNat_one]
      omega
    have hfirst : Tries env policy path client 1 client := .first
    obtain ⟨n, last, htried, hmade, hstop⟩ := RetryPolicy.withRetryFrom_last
      (fun attempt s hs hlt hretry => hs.again hlt hretry) hfirst hle hrun
    exact Or.inr ⟨hmax, last, hmade, n, htried, hstop⟩

/-- A path asked for, and what the attempts at it ended with. -/
abbrev Exchange := Text × Result HttpResponse

/-- Requests one after the other. -/
inductive Exchanged (env : Env σ) (policy : RetryPolicy) :
    Client σ → List Exchange → Client σ → Prop
  | nil (client : Client σ) : Exchanged env policy client [] client
  | cons {path : Text} {reply : Result HttpResponse} {client mid client' : Client σ}
      {rest : List Exchange}
      (first : doGet env policy path client = some (reply, mid))
      (others : Exchanged env policy mid rest client') :
      Exchanged env policy client ((path, reply) :: rest) client'

namespace Exchanged

variable {env : Env σ} {policy : RetryPolicy} {client mid client' : Client σ}
  {xs ys : List Exchange}

theorem single {path : Text} {reply : Result HttpResponse}
    (h : doGet env policy path client = some (reply, client')) :
    Exchanged env policy client [(path, reply)] client' :=
  .cons h (.nil client')

theorem doGet {path : Text} {reply : Result HttpResponse}
    (h : Exchanged env policy client [(path, reply)] client') :
    doGet env policy path client = some (reply, client') := by
  cases h with
  | cons first others =>
    cases others
    exact first

theorem append (h : Exchanged env policy client xs mid) (h' : Exchanged env policy mid ys client') :
    Exchanged env policy client (xs ++ ys) client' := by
  induction h with
  | nil => exact h'
  | cons first _ ih => exact .cons first (ih h')

theorem doGets (h : Exchanged env policy client xs client') :
    doGets env policy client (xs.map Prod.fst) = some client' := by
  induction h with
  | nil => rfl
  | cons first _ ih =>
    rw [List.map_cons, Request.doGets, List.foldlM_cons, first]
    exact ih

theorem trace (h : Exchanged env policy client xs client') :
    ∃ events, client'.trace = client.trace ++ events := by
  induction h with
  | nil => exact ⟨[], (List.append_nil _).symm⟩
  | @cons path reply client mid client' rest first _ ih =>
    obtain ⟨result, other, events, hrun, htrace, -⟩ := doGet_cases env policy path client
    obtain ⟨-, rfl⟩ := Prod.mk.inj (Option.some.inj (first.symm.trans hrun))
    obtain ⟨more, hmore⟩ := ih
    exact ⟨events ++ more, by rw [hmore, htrace, List.append_assoc]⟩

end Exchanged

section Recording

/-- The environment keeps in `record` what it is called for and what it answers. -/
structure Records (env : Env σ) (record : σ → List Event) : Prop where
  acquire : ∀ world,
    record (env.acquire world).2 = record world ++ [.token (env.acquire world).1]
  transport : ∀ path world,
    record (env.transport path world).2 = record world ++ [.call (env.transport path world).1]
  sleep : ∀ delay world, record (env.sleep delay world) = record world ++ [.sleep delay]
  jitter : ∀ spread world, record (env.jitter spread world).2 = record world

/-- The environment with a record beside its state. -/
def recording (env : Env σ) : Env (σ × List Event) where
  acquire world :=
    ((env.acquire world.1).1, (env.acquire world.1).2,
      world.2 ++ [.token (env.acquire world.1).1])
  transport path world :=
    ((env.transport path world.1).1, (env.transport path world.1).2,
      world.2 ++ [.call (env.transport path world.1).1])
  sleep delay world := (env.sleep delay world.1, world.2 ++ [.sleep delay])
  jitter spread world :=
    ((env.jitter spread world.1).1, (env.jitter spread world.1).2, world.2)

theorem records_recording (env : Env σ) : Records (recording env) Prod.snd where
  acquire _ := rfl
  transport _ _ := rfl
  sleep _ _ := rfl
  jitter _ _ := rfl

/-- A client beside whose environment its trace is recorded. -/
def Client.recorded (client : Client σ) : Client (σ × List Event) where
  world := (client.world, client.trace)
  trace := client.trace

theorem attemptGet_recorded (env : Env σ) (path : Text) (client : Client σ) :
    attemptGet (recording env) path client.recorded =
      Prod.map id Client.recorded (attemptGet env path client) := by
  obtain ⟨world, trace⟩ := client
  cases htoken : (env.acquire world).1 with
  | false => simp [attemptGet, recording, Client.recorded, htoken]
  | true => simp [attemptGet, recording, Client.recorded, htoken]

theorem pauseAfter_recorded (env : Env σ) (policy : RetryPolicy) (attempt : UInt8)
    (client : Client σ) :
    pauseAfter (recording env) policy attempt client.recorded =
      (pauseAfter env policy attempt client).recorded := by
  obtain ⟨world, trace⟩ := client
  by_cases hspread : 0 < policy.spread
  · simp [pauseAfter, recording, Client.recorded, hspread]
  · simp [pauseAfter, recording, Client.recorded, hspread]

/-- The trace that a request leaves is the record of the calls it makes, whatever the
environment is. -/
theorem doGet_recorded (env : Env σ) (policy : RetryPolicy) (path : Text) (client : Client σ) :
    doGet (recording env) policy path client.recorded =
      (doGet env policy path client).map (Prod.map id Client.recorded) :=
  RetryPolicy.withRetryFrom_map Client.recorded (attemptGet_recorded env path)
    (pauseAfter_recorded env policy) 256 1 client

/-- The trace of the client is what the environment has recorded since `before`. -/
def Traced (record : σ → List Event) (before : List Event) (client : Client σ) : Prop :=
  record client.world = before ++ client.trace

variable {env : Env σ} {record : σ → List Event} {before : List Event} {client client' : Client σ}

theorem attemptGet_traced (hrecords : Records env record) (path : Text)
    (h : Traced record before client) : Traced record before (attemptGet env path client).2 := by
  have hacquire := hrecords.acquire client.world
  rw [h] at hacquire
  rw [attemptGet]
  cases htoken : (env.acquire client.world).1 with
  | false =>
    rw [htoken] at hacquire
    rw [if_neg Bool.false_ne_true, Traced, hacquire, List.append_assoc]
  | true =>
    rw [htoken] at hacquire
    rw [if_pos rfl, Traced, hrecords.transport, hacquire, List.append_assoc, List.append_assoc]
    rfl

theorem pauseAfter_traced (hrecords : Records env record) (policy : RetryPolicy) (attempt : UInt8)
    (h : Traced record before client) :
    Traced record before (pauseAfter env policy attempt client) := by
  simp only [Traced, pauseAfter, hrecords.sleep]
  split_ifs
  · rw [hrecords.jitter, h, List.append_assoc]
  · rw [h, List.append_assoc]

theorem Tries.traced (hrecords : Records env record) {policy : RetryPolicy} {path : Text}
    {attempt : UInt8} (htried : Tries env policy path client attempt client')
    (h : Traced record before client) : Traced record before client' := by
  induction htried with
  | first => exact h
  | again _ _ _ ih => exact pauseAfter_traced hrecords policy _ (attemptGet_traced hrecords path ih)

/-- A request adds to the trace the calls that the environment records of it. -/
theorem doGet_traced (hrecords : Records env record) {policy : RetryPolicy} {path : Text}
    {result : Result HttpResponse} (hrun : doGet env policy path client = some (result, client'))
    (h : Traced record before client) : Traced record before client' := by
  obtain ⟨reply, finish, hrun', ⟨-, -, rfl⟩ | ⟨-, last, hlast⟩⟩ := doGet_last env policy path client
  · obtain ⟨-, rfl⟩ := Prod.mk.inj (Option.some.inj (hrun'.symm.trans hrun))
    exact h
  · obtain ⟨-, rfl⟩ := Prod.mk.inj (Option.some.inj (hrun'.symm.trans hrun))
    obtain ⟨attempt, htried, -⟩ := hlast.tried
    simpa only [hlast.made] using attemptGet_traced hrecords path (htried.traced hrecords h)

theorem Exchanged.traced (hrecords : Records env record) {policy : RetryPolicy}
    {xs : List Exchange} (hx : Exchanged env policy client xs client')
    (h : Traced record before client) : Traced record before client' := by
  induction hx with
  | nil => exact h
  | cons first _ ih => exact ih (doGet_traced hrecords first h)

end Recording

end Request

end NwsCpp
