import NwsCpp.Points

/-! What `get_point` returns is what the service answered, now or within the
time to live of the cache. -/

namespace NwsCpp

open Bytes Request

namespace Points

variable {σ D P : Type*} [Double D] {env : Env σ} {readers : Readers P} {config : Config}

theorem status_of_shouldRetry {policy : RetryPolicy} {response : HttpResponse}
    (h : policy.shouldRetry (.ok response) = true) : response.statusCode ≠ 200 := by
  intro h200
  have hoff : policy.shouldRetry (.ok response) = false := by
    rw [RetryPolicy.shouldRetry, RetryPolicy.shouldRetryResponse, h200, if_neg (by decide)]
    simp
  rw [hoff] at h
  exact Bool.noConfusion h

def decoded (readers : Readers P) (reply : Result HttpResponse) : Option P :=
  ((bodyOrError readers reply).bind readers.point).toOption

theorem decoded_ok (readers : Readers P) (response : HttpResponse) :
    decoded readers (.ok response) =
      if response.statusCode = 200 then (readers.point response.body).toOption else none := by
  by_cases h : response.statusCode = 200 <;> simp [decoded, bodyOrError, h, Except.bind, Except.toOption]

theorem fetched_eq_decoded (policy : RetryPolicy) {events : List Request.Event} {reply : Result HttpResponse}
    (h : events = [] ∧ reply = .error attemptsExceeded ∨
      ∃ left, Rounds policy left events reply) :
    fetched readers events = decoded readers reply := by
  rcases h with ⟨rfl, rfl⟩ | ⟨left, hrounds⟩
  · rfl
  · rcases hrounds.last_call with hlast | ⟨rfl, hall⟩
    · rw [fetched, hlast]
      cases reply with
      | error error => rfl
      | ok response => exact (decoded_ok readers response).symm
    · have hnone : decoded readers (.error tokenTimeout) = none := rfl
      rw [hnone, fetched]
      cases hlast : (calls events).getLast? with
      | none => rfl
      | some outcome =>
        cases outcome with
        | error error => rfl
        | ok response =>
          have hretry := hall _ (List.mem_of_getLast? hlast)
          simp [status_of_shouldRetry hretry]

theorem fetchPoint_cases (env : Env σ) (readers : Readers P) (config : Config) (input : Input D)
    (client : Client σ D P) :
    ∃ result client' events, fetchPoint env readers config input client = some (result, client') ∧
      client'.request.trace = client.request.trace ++ events ∧
      ((∃ error, result = .error error) ∧ fetched readers events = none ∧
          client'.cache = client.cache ∨
        ∃ response, result = .ok response ∧ fetched readers events = some response ∧
          client'.cache = client.cache.map fun cache =>
            cache.call config.cache input.stored (.put input.key response none)) := by
  obtain ⟨reply, request, events, hrun, htrace, hcases⟩ :=
    doGet_cases env config.retry input.path client.request
  have hfetched : fetched readers events = decoded readers reply := by
    apply fetched_eq_decoded config.retry
    exact hcases.imp And.right fun h => ⟨_, h.2⟩
  simp only [fetchPoint, hrun]
  rw [decoded] at hfetched
  cases hbody : bodyOrError readers reply with
  | error error =>
    rw [hbody] at hfetched
    exact ⟨_, { client with request }, events, rfl, htrace, Or.inl ⟨⟨error, rfl⟩, hfetched, rfl⟩⟩
  | ok body =>
    cases hpoint : readers.point body with
    | error error =>
      simp only [hbody, Except.bind, hpoint] at hfetched ⊢
      exact ⟨_, { client with request }, events, rfl, htrace,
        Or.inl ⟨⟨error, rfl⟩, hfetched, rfl⟩⟩
    | ok response =>
      simp only [hbody, Except.bind, hpoint] at hfetched ⊢
      exact ⟨_, ⟨request, _⟩, events, rfl, htrace, Or.inr ⟨response, rfl, hfetched, rfl⟩⟩

def Client.entry (client : Client σ D P) (key : CoordinateKey D) : Option (LruCache.CacheEntry P) :=
  client.cache.bind fun cache => cache.state.map.find key

/-- What one call promises, given the calls before it. -/
structure CallCoherent (readers : Readers P) (config : Config) (before after : Session σ D P)
    (record : Record D P) : Prop where
  answered : ∀ response, record.result = .ok response →
    fetched readers record.events = some response ∨
      record.events = [] ∧ ∃ stored,
        latest readers record.input.key before.records = some (response, stored) ∧
          record.input.lookedUp - stored ≤ config.cache.ttlNanos
  uncached : config.enableCache = false → ∀ response, record.result = .ok response →
    fetched readers record.events = some response
  failed : ∀ error, record.result = .error error → ∀ key entry,
    after.client.entry key = some entry → before.client.entry key = some entry

/-- What ties a client to the calls made. -/
structure Inv (readers : Readers P) (config : Config) (client : Client σ D P)
    (records : List (Record D P)) : Prop where
  enabled : client.cache.isSome = config.enableCache
  coherent : ∀ cache, client.cache = some cache → LruCache.Inv config.cache cache
  history : ∀ cache, client.cache = some cache → ∀ key,
    LruCache.lastPut key cache.history = latest readers key records

theorem inv_init (readers : Readers P) (config : Config) (world : σ) :
    Inv readers config (Client.init config world : Client σ D P) [] := by
  refine ⟨?_, fun cache hc => ?_, fun cache hc key => ?_⟩
  · cases h : config.enableCache <;> simp [Client.init, h]
  · cases h : config.enableCache <;> simp [Client.init, h] at hc
    exact hc ▸ LruCache.Inv.init
  · cases h : config.enableCache <;> simp [Client.init, h] at hc
    rw [← hc]
    rfl

theorem find_of_find_get {K V : Type*} [BEq K] [Hashable K] [EquivBEq K] [LawfulHashable K]
    {cache : LruCache.Config} {key a : K} {now : Int} {st : LruCache.State K V}
    {entry : LruCache.CacheEntry V}
    (h : (LruCache.get cache key now st).2.map.find a = some entry) : st.map.find a = some entry := by
  rw [LruCache.get] at h
  cases hf : st.map.find key with
  | none => rwa [hf] at h
  | some old =>
    rw [hf] at h
    simp only at h
    split_ifs at h
    · rw [Containers.KeyMap.find_erase] at h
      split_ifs at h
      exact h
    · exact h

variable [LawfulDouble D]

theorem Inv.look {client : Client σ D P} {records : List (Record D P)}
    (h : Inv readers config client records) {cache : LruCache.Run (CoordinateKey D) P}
    (hcache : client.cache = some cache) (input : Input D) :
    Inv readers config
      { client with cache := some (cache.call config.cache input.lookedUp (.get input.key)) }
      records where
  enabled := by simpa [hcache] using h.enabled
  coherent looked hl := by
    obtain rfl := Option.some.inj hl
    exact (h.coherent cache hcache).call _ _
  history looked hl key := by
    obtain rfl := Option.some.inj hl
    exact h.history cache hcache key

omit [LawfulDouble D] in
theorem step_quiet {session : Session σ D P} {input : Input D} {result : Result P}
    {client : Client σ D P} (hinv : Inv readers config client session.records)
    (hrequest : client.request = session.client.request)
    (hget : getPoint env readers config input session.client = some (result, client)) :
    session.call env readers config input =
        some ⟨client, ⟨input, [], result⟩ :: session.records⟩ ∧
      Inv readers config client (⟨input, [], result⟩ :: session.records) := by
  refine ⟨by simp [Session.call, hget, hrequest], hinv.enabled, hinv.coherent, fun cache hc key => ?_⟩
  rw [hinv.history cache hc key]
  rfl

theorem step_fetch {session : Session σ D P} {input : Input D} {client : Client σ D P}
    (hinv : Inv readers config client session.records)
    (hrequest : client.request = session.client.request)
    (hentries : ∀ key entry, client.entry key = some entry →
      session.client.entry key = some entry)
    (hget : getPoint env readers config input session.client =
      fetchPoint env readers config input client) :
    ∃ session' record, session.call env readers config input = some session' ∧
      session'.records = record :: session.records ∧ record.input = input ∧
      CallCoherent readers config session session' record ∧
      Inv readers config session'.client session'.records := by
  obtain ⟨result, client', events, hrun, htrace, hcases⟩ :=
    fetchPoint_cases env readers config input client
  have hevents : client'.request.trace.drop session.client.request.trace.length = events := by
    rw [htrace, hrequest, List.drop_left]
  refine ⟨⟨client', ⟨input, events, result⟩ :: session.records⟩, ⟨input, events, result⟩, ?_, rfl,
    rfl, ?_, ?_⟩
  · rw [Session.call, hget, hrun]
    simp [hevents]
  · rcases hcases with ⟨⟨error, rfl⟩, -, hcache⟩ | ⟨response, rfl, hfetched, -⟩
    · refine ⟨fun response hr => by simp at hr, fun _ response hr => by simp at hr,
        fun _ _ key entry he => hentries key entry ?_⟩
      rwa [Client.entry, hcache] at he
    · refine ⟨fun other hr => Or.inl ?_, fun _ other hr => ?_, fun error hr => by simp at hr⟩ <;>
        rwa [← Except.ok.inj hr]
  · rcases hcases with ⟨-, hnone, hcache⟩ | ⟨response, -, hfetched, hcache⟩
    · refine ⟨by rw [hcache]; exact hinv.enabled,
        fun cache hc => hinv.coherent cache (hcache ▸ hc), fun cache hc key => ?_⟩
      rw [hinv.history cache (hcache ▸ hc) key, latest, hnone]
    · refine ⟨by simpa [hcache] using hinv.enabled, fun cache hc => ?_, fun cache hc key => ?_⟩
      · rw [hcache, Option.map_eq_some_iff] at hc
        obtain ⟨old, hold, rfl⟩ := hc
        exact (hinv.coherent old hold).call _ _
      · rw [hcache, Option.map_eq_some_iff] at hc
        obtain ⟨old, hold, rfl⟩ := hc
        rw [latest, hfetched, ← hinv.history old hold key]
        simp only [LruCache.Run.call, LruCache.step, LruCache.put_completed]
        rfl

theorem step_coherent (env : Env σ) {session : Session σ D P}
    (h : Inv readers config session.client session.records) (input : Input D) :
    ∃ session' record, session.call env readers config input = some session' ∧
      session'.records = record :: session.records ∧ record.input = input ∧
      CallCoherent readers config session session' record ∧
      Inv readers config session'.client session'.records := by
  by_cases hinvalid : input.invalid = true
  · have hget : getPoint env readers config input session.client =
        some (.error invalidCoordinates, session.client) := by rw [getPoint, if_pos hinvalid]
    obtain ⟨hcall, hinv⟩ := step_quiet h rfl hget
    exact ⟨_, _, hcall, rfl, rfl, ⟨fun _ hr => by simp at hr, fun _ _ hr => by simp at hr,
      fun _ _ _ _ he => he⟩, hinv⟩
  · cases hcache : session.client.cache with
    | none =>
      apply step_fetch h rfl fun _ _ he => he
      simp [getPoint, hinvalid, hcache]
    | some cache =>
      have hlooked := h.look hcache input
      cases hhit : (LruCache.get config.cache input.key input.lookedUp cache.state).1 with
      | some response =>
        obtain ⟨-, stored, hlast, hage⟩ :=
          (LruCache.get_hit_iff (h.coherent cache hcache) _ _ _).mp hhit
        have hget : getPoint env readers config input session.client = some (.ok response,
            { session.client with
              cache := some (cache.call config.cache input.lookedUp (.get input.key)) }) := by
          simp [getPoint, hinvalid, hcache, hhit]
        obtain ⟨hcall, hinv⟩ := step_quiet hlooked rfl hget
        rw [h.history cache hcache] at hlast
        refine ⟨_, _, hcall, rfl, rfl, ⟨fun other hr => Or.inr ⟨rfl, stored, ?_, hage⟩,
          fun hoff => ?_, fun error hr => by simp at hr⟩, hinv⟩
        · rwa [← Except.ok.inj hr]
        · have := h.enabled
          simp [hcache, hoff] at this
      | none =>
        apply step_fetch hlooked rfl
        · intro key entry he
          rw [Client.entry, hcache]
          exact find_of_find_get he
        · simp [getPoint, hinvalid, hcache, hhit]

/-- From any run of calls, the next call returns what its own request brought or
what the latest request for its coordinates did, and a failure stores nothing. -/
theorem getPoint_coherent (env : Env σ) (readers : Readers P) (config : Config) (world : σ)
    (inputs : List (Input D)) :
    ∃ session, run env readers config { client := Client.init config world } inputs = some session ∧
      ∀ input, ∃ session' record, session.call env readers config input = some session' ∧
        session'.records = record :: session.records ∧ record.input = input ∧
        CallCoherent readers config session session' record := by
  have hrun : ∀ inputs (session : Session σ D P),
      Inv readers config session.client session.records →
      ∃ final, run env readers config session inputs = some final ∧
        Inv readers config final.client final.records := by
    intro inputs
    induction inputs with
    | nil => exact fun session h => ⟨session, rfl, h⟩
    | cons input inputs ih =>
      intro session h
      obtain ⟨mid, -, hcall, -, -, -, hmid⟩ := step_coherent env h input
      obtain ⟨final, hfinal, hinv⟩ := ih mid hmid
      refine ⟨final, ?_, hinv⟩
      rw [run, List.foldlM_cons, hcall]
      exact hfinal
  obtain ⟨session, hsession, hinv⟩ := hrun inputs { client := Client.init config world }
    (inv_init readers config world)
  refine ⟨session, hsession, fun input => ?_⟩
  obtain ⟨session', record, hcall, hrecords, hinput, hcoherent, -⟩ :=
    step_coherent env hinv input
  exact ⟨session', record, hcall, hrecords, hinput, hcoherent⟩

/-- Whole degrees with the values of `double` that are not finite. -/
inductive Degrees where
  | nan
  | infinite
  | whole (degrees : Int)
  deriving DecidableEq

instance : Double Degrees where
  eq a b := decide (a = b) && decide (a ≠ .nan)
  lt
    | .whole a, .whole b => decide (a < b)
    | .whole _, .infinite => true
    | _, _ => false
  isnan a := decide (a = .nan)
  isfinite
    | .whole _ => true
    | _ => false
  ofInt := .whole
  hash
    | .whole a => hash a
    | _ => 0
  format
    | .whole a => Decimal.intText a
    | .infinite => ascii "inf"
    | .nan => ascii "nan"

instance : LawfulDouble Degrees where
  eq_self a := by simp [Double.eq, Double.isnan]
  eq_symm h := by
    simp only [Double.eq, Bool.and_eq_true, decide_eq_true_eq] at h ⊢
    exact ⟨h.1.symm, h.1 ▸ h.2⟩
  eq_trans h h' := by
    simp only [Double.eq, Bool.and_eq_true, decide_eq_true_eq] at h h' ⊢
    exact ⟨h.1.trans h'.1, h.2⟩
  hash_eq h := by
    simp only [Double.eq, Bool.and_eq_true, decide_eq_true_eq] at h
    rw [h.1]

/-- A service that answers every request with the path asked for. -/
def echoEnv : Env Unit where
  acquire world := (true, world)
  transport path world := (.ok { statusCode := 200, body := path }, world)
  sleep _ world := world
  jitter _ world := (1, world)

def echoReaders : Readers Text where
  problem _ := none
  point body := .ok body

def kansas (lookedUp stored : Int) : Input Degrees :=
  { latitude := .whole 40, longitude := .whole (-100), lookedUp, stored }

theorem getPoint_coherent_kansas :
    ∃ session session' record,
      run echoEnv echoReaders { enableCache := true }
        { client := Client.init { enableCache := true } () } [kansas 0 7] = some session ∧
      session.call echoEnv echoReaders { enableCache := true } (kansas 9 9) = some session' ∧
      session'.records = record :: session.records ∧
      CallCoherent echoReaders { enableCache := true } session session' record ∧
      record.events.length = 0 ∧ record.result.toOption = some (ascii "/points/40,-100") := by
  obtain ⟨session, hrun, hnext⟩ :=
    getPoint_coherent echoEnv echoReaders { enableCache := true } () [kansas 0 7]
  obtain ⟨session', record, hcall, hrecords, -, hcoherent⟩ := hnext (kansas 9 9)
  have hlast : ((run echoEnv echoReaders { enableCache := true }
      { client := Client.init { enableCache := true } () } [kansas 0 7]).bind fun session =>
        session.call echoEnv echoReaders { enableCache := true } (kansas 9 9)).bind
          (fun session => session.records.head?.map fun record =>
            (record.events.length, record.result.toOption)) =
      some (0, some (ascii "/points/40,-100")) := by decide +kernel
  rw [hrun, Option.bind_some, hcall, Option.bind_some, hrecords, List.head?_cons, Option.map_some,
    Option.some.injEq, Prod.mk.injEq] at hlast
  exact ⟨session, session', record, hrun, hcall, hrecords, hcoherent, hlast⟩

end Points

end NwsCpp
