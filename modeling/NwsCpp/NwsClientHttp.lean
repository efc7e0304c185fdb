import NwsCpp.HttpTransfers
import NwsCpp.NwsClientRuns

/-! The client over its HTTP client: what every reply is made of. -/

namespace NwsCpp

open Bytes

/-- The environment whose transport is the HTTP client, over a libcurl that may do something
else at every call. -/
def overHttp {σ : Type*} (env : Env σ) (curl : σ → Curl) (http : ClientConfig) : Env σ :=
  { env with
    transport := fun path world =>
      (HttpClient.get (curl world) http path, (env.transport path world).2) }

namespace NWSClient

open HttpClient (Completes Received)

variable {σ D R : Type*} [JsonDouble D]

/-- What the attempt of a request from `last` calls: libcurl as it is once the token is there. -/
def transferOf (env : Env σ) (curl : σ → Curl) (last : Request.Client σ) : Curl :=
  curl (env.acquire last.world).2

/-- The ways in which a request from `start` to `finish` ends, and what its reply is made of:
of what its own last attempt brought. -/
inductive Ends (env : Env σ) (parseRoot : Text → Result (Json D)) (policy : RetryPolicy)
    (curl : σ → Curl) (http : ClientConfig) (path : Text) (decode : Text → Result R)
    (start finish : Request.Client σ) : Result R → Prop
  | disabled (off : policy.maxAttempts = 0) (unchanged : finish = start) :
      Ends env parseRoot policy curl http path decode start finish
        (.error Request.attemptsExceeded)
  | timedOut {last : Request.Client σ}
      (attempt : Request.LastAttempt (overHttp env curl http) policy path start last
        (.error Request.tokenTimeout) finish)
      (timeout : (env.acquire last.world).1 = false) :
      Ends env parseRoot policy curl http path decode start finish (.error Request.tokenTimeout)
  | failed {last : Request.Client σ} {error : Error}
      (attempt : Request.LastAttempt (overHttp env curl http) policy path start last
        (.error error) finish)
      (token : (env.acquire last.world).1 = true)
      (transfer : HttpClient.get (transferOf env curl last) http path = .error error)
      (code : error.code = .networkError ∨ error.code = .invalidRequest) :
      Ends env parseRoot policy curl http path decode start finish (.error error)
  | refused {last : Request.Client σ} {response : HttpResponse}
      (attempt : Request.LastAttempt (overHttp env curl http) policy path start last
        (.ok response) finish)
      (token : (env.acquire last.world).1 = true)
      (completes : Completes (transferOf env curl last) http path)
      (received : Received (transferOf env curl last) http path response)
      (status : response.statusCode ≠ 200) :
      Ends env parseRoot policy curl http path decode start finish
        (.error (Error.fromResponse (problemDetails parseRoot) response.statusCode.toInt
          response.body (getCorrelationId response)))
  | answered {last : Request.Client σ} {response : HttpResponse}
      (attempt : Request.LastAttempt (overHttp env curl http) policy path start last
        (.ok response) finish)
      (token : (env.acquire last.world).1 = true)
      (completes : Completes (transferOf env curl last) http path)
      (received : Received (transferOf env curl last) http path response)
      (status : response.statusCode = 200) :
      Ends env parseRoot policy curl http path decode start finish (decode response.body)

variable {env : Env σ} {parseRoot : Text → Result (Json D)} {policy : RetryPolicy}
  {curl : σ → Curl} {http : ClientConfig} {path : Text} {decode : Text → Result R}
  {start last finish : Request.Client σ}

theorem ends_of_last {outcome : Result HttpResponse}
    (h : Request.LastAttempt (overHttp env curl http) policy path start last outcome finish) :
    Ends env parseRoot policy curl http path decode start finish
      (readReply parseRoot decode outcome) := by
  have hmade := h.made
  rw [Request.attemptGet] at hmade
  cases htoken : (env.acquire last.world).1 with
  | false =>
    have htoken' : ((overHttp env curl http).acquire last.world).1 = false := htoken
    rw [if_neg (by rw [htoken']; exact Bool.false_ne_true)] at hmade
    obtain ⟨rfl, -⟩ := Prod.mk.inj hmade
    exact .timedOut h htoken
  | true =>
    have htoken' : ((overHttp env curl http).acquire last.world).1 = true := htoken
    rw [if_pos htoken'] at hmade
    have hget : HttpClient.get (transferOf env curl last) http path = outcome :=
      (Prod.mk.inj hmade).1
    cases outcome with
    | error error => exact .failed h htoken hget (HttpClient.code_of_get_error hget)
    | ok response =>
      obtain ⟨hcompletes, hreceived⟩ := HttpClient.get_eq_ok_iff.mp hget
      rw [readReply, bodyOrError]
      split_ifs with hstatus
      · exact .refused h htoken hcompletes hreceived hstatus
      · exact .answered h htoken hcompletes hreceived (not_not.mp hstatus)

theorem ends_of_doGet {reply : Result HttpResponse}
    (h : Request.doGet (overHttp env curl http) policy path start = some (reply, finish)) :
    Ends env parseRoot policy curl http path decode start finish
      (readReply parseRoot decode reply) := by
  obtain ⟨reply', finish', hrun, hcases⟩ :=
    Request.doGet_last (overHttp env curl http) policy path start
  obtain ⟨rfl, rfl⟩ := Prod.mk.inj (Option.some.inj (hrun.symm.trans h))
  rcases hcases with ⟨hmax, rfl, hsame⟩ | ⟨-, last, hlast⟩
  · exact .disabled hmax hsame
  · exact ends_of_last hlast

/-- Whatever libcurl does in its calls, the reply of an endpoint is decoded from the whole body
of the transfer of its last attempt, or is one of the errors of that attempt; so is the answer
to the request for a point that the cache does not have. -/
theorem replies_whole (env : Env σ) (curl : σ → Curl) (http : ClientConfig)
    (parseRoot : Text → Result (Json D)) (config : Points.Config) (client : Client σ D) :
    (∀ (decode : Text → Result R) path, ∃ reply client',
      fetch (overHttp env curl http) parseRoot config decode path client = some (reply, client') ∧
        Ends env parseRoot config.retry curl http path decode client.request client'.request
          reply) ∧
    ∀ input : Points.Input D, ∃ reply client',
      Points.fetchPoint (overHttp env curl http) (readers parseRoot) config input client =
          some (reply, client') ∧
        Ends env parseRoot config.retry curl http input.path (readers parseRoot).point
          client.request client'.request reply := by
  constructor
  · intro decode path
    obtain ⟨result, client', reply, hrun, rfl, hx, -⟩ :=
      fetch_asks (overHttp env curl http) parseRoot config decode path client
    exact ⟨_, client', hrun, ends_of_doGet hx.doGet⟩
  · intro input
    obtain ⟨reply, client', hrun, hx⟩ :=
      Points.fetchPoint_asks (overHttp env curl http) (readers parseRoot) config input client
    exact ⟨_, client', hrun, ends_of_doGet hx.doGet⟩

end NWSClient

end NwsCpp
