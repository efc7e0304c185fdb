import NwsCpp.NwsClientRuns

/-! The cache of points under the methods of the client: it stays coherent whatever is
called, and on a service that does not change it can only be told by the requests it saves. -/

namespace NwsCpp

open Bytes

namespace NWSClient

open Request (doGets)

variable {σ D : Type*} [JsonDouble D] {env : Env σ} {parseRoot : Text → Result (Json D)}
  {config : Points.Config}

section Coherence

abbrev Session (σ D : Type*) [JsonDouble D] := Points.Session σ D (PointResponse D)

/-- The coordinates that a call looks up. -/
def Call.lookup : Call D → Option (Points.Input D)
  | .getPoint input => some input
  | .getForecastForLocation input _ => some input
  | .getCurrentWeather input => some input
  | _ => none

def Reply.failure : Reply D → Option Error
  | .point (.error error) => some error
  | .forecast (.error error) => some error
  | .observation (.error error) => some error
  | _ => none

/-- A lookup is the whole of `get_point`; the other methods end with it when it fails. -/
def Call.Follows (call : Call D) (result : Result (PointResponse D)) (reply : Reply D) : Prop :=
  match call with
  | .getPoint _ => reply = .point result
  | _ => ∀ error, result = .error error → reply.failure = some error

variable (env parseRoot config) in
/-- A call, with its lookup among the records. -/
def performOn (call : Call D) (session : Session σ D) : Option (Reply D × Session σ D) :=
  match call.lookup with
  | none =>
    (perform env parseRoot config call session.client).map
      (Prod.map id fun client => { session with client })
  | some input =>
    match session.call env (readers parseRoot) config input with
    | none => none
    | some looked =>
      (perform env parseRoot config call session.client).map
        (Prod.map id fun client => { looked with client })

variable (env parseRoot config) in
def runOn (session : Session σ D) (calls : List (Call D)) : Option (Session σ D) :=
  calls.foldlM (fun session call => (performOn env parseRoot config call session).map Prod.snd)
    session

theorem Inv.congr_cache {client client' : Client σ D}
    {records : List (Points.Record D (PointResponse D))}
    (h : Points.Inv (readers parseRoot) config client records)
    (hcache : client'.cache = client.cache) :
    Points.Inv (readers parseRoot) config client' records where
  enabled := hcache ▸ h.enabled
  coherent cache hc := h.coherent cache (hcache ▸ hc)
  history cache hc := h.history cache (hcache ▸ hc)

theorem perform_keeps_cache (env : Env σ) (parseRoot : Text → Result (Json D))
    (config : Points.Config) {call : Call D} (h : call.lookup = none) (client : Client σ D) :
    ∃ reply client', perform env parseRoot config call client = some (reply, client') ∧
      client'.cache = client.cache := by
  cases call with
  | getPoint => cases h
  | getForecastForLocation => cases h
  | getCurrentWeather => cases h
  | _ =>
    obtain ⟨result, client', -, hrun, -, -, hcache⟩ := fetch_asks env parseRoot config _ _ client
    exact ⟨_, client', congrArg (Option.map _) hrun, hcache⟩

theorem perform_follows {call : Call D} {input : Points.Input D} (h : call.lookup = some input)
    {client mid : Client σ D} {result : Result (PointResponse D)}
    (hget : getPoint env parseRoot config input client = some (result, mid)) :
    ∃ reply client', perform env parseRoot config call client = some (reply, client') ∧
      client'.cache = mid.cache ∧ call.Follows result reply := by
  cases call with
  | getPoint other =>
    obtain rfl := Option.some.inj h
    exact ⟨.point result, mid, by rw [perform, hget]; rfl, rfl, rfl⟩
  | getForecastForLocation other units =>
    obtain rfl := Option.some.inj h
    rw [perform, getForecastForLocation, hget]
    cases result with
    | error error => exact ⟨_, mid, rfl, rfl, fun _ he => Except.error.inj he ▸ rfl⟩
    | ok point =>
      obtain ⟨forecast, client', -, hrun, -, -, hcache⟩ := fetch_asks env parseRoot config
        (decodeWith (deserializeForecastResponse parseRoot) { properties := {} })
        (PathCall.getForecast point.properties.gridId point.properties.gridX
          point.properties.gridY units).target mid
      exact ⟨_, client', congrArg (Option.map _) hrun, hcache, fun _ he => by cases he⟩
  | getCurrentWeather other =>
    obtain rfl := Option.some.inj h
    rw [perform, getCurrentWeather, hget]
    cases result with
    | error error => exact ⟨_, mid, rfl, rfl, fun _ he => Except.error.inj he ▸ rfl⟩
    | ok point =>
      obtain ⟨stations, near, -, hstations, -, -, hnear⟩ := fetch_asks env parseRoot config
        (decodeWith (deserializeStationCollection parseRoot) {})
        (PathCall.getGridpointStations point.properties.gridId point.properties.gridX
          point.properties.gridY).target mid
      simp only [getGridpointStations, hstations]
      cases stations with
      | error error => exact ⟨_, near, rfl, hnear, fun _ he => by cases he⟩
      | ok stations =>
        cases hfeatures : stations.features with
        | nil =>
          simp only [hfeatures]
          exact ⟨_, near, rfl, hnear, fun _ he => by cases he⟩
        | cons nearest rest =>
          obtain ⟨observation, client', -, hrun, -, -, hcache⟩ := fetch_asks env parseRoot config
            (decodeWith (deserializeObservationResponse parseRoot) { properties := {} })
            (PathCall.getLatestObservation nearest.properties.stationIdentifier).target near
          simp only [hfeatures]
          exact ⟨_, client', congrArg (Option.map _) hrun, hcache.trans hnear,
            fun _ he => by cases he⟩
  | _ => cases h

/-- What one call does to the cache and the records, given the calls before it. -/
structure CallKeeps (env : Env σ) (parseRoot : Text → Result (Json D)) (config : Points.Config)
    (session : Session σ D) (call : Call D) (reply : Reply D) (session' : Session σ D) : Prop where
  untouched : call.lookup = none →
    session'.client.cache = session.client.cache ∧ session'.records = session.records
  looked : ∀ input, call.lookup = some input → ∃ looked record,
    session.call env (readers parseRoot) config input = some looked ∧
      looked.records = record :: session.records ∧ record.input = input ∧
      Points.CallCoherent (readers parseRoot) config session looked record ∧
      session'.client.cache = looked.client.cache ∧ session'.records = looked.records ∧
      call.Follows record.result reply

variable [LawfulDouble D]

theorem performOn_coherent {session : Session σ D}
    (hinv : Points.Inv (readers parseRoot) config session.client session.records)
    (env : Env σ) (call : Call D) :
    ∃ reply session', performOn env parseRoot config call session = some (reply, session') ∧
      CallKeeps env parseRoot config session call reply session' ∧
      Points.Inv (readers parseRoot) config session'.client session'.records := by
  cases hlookup : call.lookup with
  | none =>
    obtain ⟨reply, client', hrun, hcache⟩ :=
      perform_keeps_cache env parseRoot config hlookup session.client
    refine ⟨reply, { session with client := client' }, ?_, ⟨fun _ => ⟨hcache, rfl⟩,
      fun _ h => ?_⟩, Inv.congr_cache hinv hcache⟩
    · simp only [performOn, hlookup, hrun]
      rfl
    · rw [hlookup] at h
      cases h
  | some input =>
    obtain ⟨looked, record, hcall, hrecords, hinput, hcoherent, hlooked⟩ :=
      Points.step_coherent env hinv input
    have hcall' := hcall
    rw [Points.Session.call, Option.map_eq_some_iff] at hcall'
    obtain ⟨⟨result, mid⟩, hget, rfl⟩ := hcall'
    obtain rfl := List.head_eq_of_cons_eq hrecords
    obtain ⟨reply, client', hrun, hcache, hfollows⟩ := perform_follows hlookup hget
    refine ⟨reply, ⟨client', _⟩, ?_, ⟨fun h => ?_, fun other h => ?_⟩,
      Inv.congr_cache hlooked hcache⟩
    · simp only [performOn, hlookup, hcall, hrun]
      rfl
    · rw [hlookup] at h
      cases h
    · obtain rfl := Option.some.inj (hlookup.symm.trans h)
      exact ⟨_, _, hcall, rfl, rfl, hcoherent, hcache, rfl, hfollows⟩

/-- Whatever was called before, a call leaves the cache alone or looks up one point, which
is answered as `get_point` promises; a failed lookup is the failure of the call. -/
theorem runOn_coherent (env : Env σ) (parseRoot : Text → Result (Json D))
    (config : Points.Config) (world : σ) (calls : List (Call D)) :
    ∃ session, runOn env parseRoot config { client := Points.Client.init config world } calls =
        some session ∧
      ∀ call, ∃ reply session',
        performOn env parseRoot config call session = some (reply, session') ∧
          CallKeeps env parseRoot config session call reply session' := by
  have hrun : ∀ calls (session : Session σ D),
      Points.Inv (readers parseRoot) config session.client session.records →
      ∃ final, runOn env parseRoot config session calls = some final ∧
        Points.Inv (readers parseRoot) config final.client final.records := by
    intro calls
    induction calls with
    | nil => exact fun session h => ⟨session, rfl, h⟩
    | cons call calls ih =>
      intro session h
      obtain ⟨reply, mid, hcall, -, hmid⟩ := performOn_coherent h env call
      obtain ⟨final, hfinal, hinv⟩ := ih mid hmid
      refine ⟨final, ?_, hinv⟩
      rw [runOn, List.foldlM_cons, hcall]
      exact hfinal
  obtain ⟨session, hsession, hinv⟩ := hrun calls { client := Points.Client.init config world }
    (Points.inv_init (readers parseRoot) config world)
  refine ⟨session, hsession, fun call => ?_⟩
  obtain ⟨reply, session', hperform, hkeeps, -⟩ := performOn_coherent hinv env call
  exact ⟨reply, session', hperform, hkeeps⟩

end Coherence

section Sequence

/-- What follows a request that succeeded; a failure stays as it is. -/
def onSuccess {R S : Type*} (next : R → Client σ D → Option (Result S × Client σ D)) :
    Result R × Client σ D → Option (Result S × Client σ D)
  | (.error error, client) => some (.error error, client)
  | (.ok reply, client) => next reply client

variable (env parseRoot config)

/-- The last request of `get_current_weather`, to the first of the stations. -/
def observeNearest (stations : StationCollectionResponse D) (client : Client σ D) :
    Option (Result (ObservationResponse D) × Client σ D) :=
  match stations.features with
  | [] => some (.error noStations, client)
  | nearest :: _ =>
    getLatestObservation env parseRoot config nearest.properties.stationIdentifier client

theorem getForecastForLocation_eq (input : Points.Input D) (units : Option UnitSystem)
    (client : Client σ D) :
    getForecastForLocation env parseRoot config input units client =
      (getPoint env parseRoot config input client).bind (onSuccess fun point =>
        getForecast env parseRoot config point.properties.gridId point.properties.gridX
          point.properties.gridY units) := by
  rw [getForecastForLocation]
  rcases getPoint env parseRoot config input client with - | ⟨- | -, -⟩ <;> rfl

theorem getCurrentWeather_eq (input : Points.Input D) (client : Client σ D) :
    getCurrentWeather env parseRoot config input client =
      (getPoint env parseRoot config input client).bind (onSuccess fun point client =>
        (getGridpointStations env parseRoot config point.properties.gridId
          point.properties.gridX point.properties.gridY client).bind
            (onSuccess (observeNearest env parseRoot config))) := by
  rw [getCurrentWeather]
  rcases getPoint env parseRoot config input client with - | ⟨- | point, mid⟩
  · rfl
  · rfl
  · simp only [Option.bind_some, onSuccess]
    rcases getGridpointStations env parseRoot config point.properties.gridId
      point.properties.gridX point.properties.gridY mid with - | ⟨- | -, -⟩ <;> rfl

end Sequence

section Steady

/-- An environment that grants every token, over a service that answers each path alike. -/
structure Steady (env : Env σ) (service : Text → Result HttpResponse) : Prop where
  granted : ∀ world, (env.acquire world).1 = true
  answers : ∀ path world, (env.transport path world).1 = service path

/-- What a request brings from the service in the end. -/
def answer (service : Text → Result HttpResponse) (policy : RetryPolicy) (path : Text) :
    Result HttpResponse :=
  if policy.maxAttempts = 0 then .error Request.attemptsExceeded else service path

variable {service : Text → Result HttpResponse}

theorem doGet_steady (hsteady : Steady env service) (policy : RetryPolicy) (path : Text)
    (client : Request.Client σ) :
    ∃ client', Request.doGet env policy path client =
      some (answer service policy path, client') := by
  obtain ⟨result, client', hrun, ⟨hmax, rfl, -⟩ | ⟨hmax, last, hlast⟩⟩ :=
    Request.doGet_last env policy path client
  · exact ⟨client', by rw [hrun, answer, if_pos hmax]⟩
  · have hresult : result = service path := by
      have hmade := congrArg Prod.fst hlast.made
      simp only [Request.attemptGet, hsteady.granted, if_true, hsteady.answers] at hmade
      exact hmade.symm
    exact ⟨client', by rw [hrun, hresult, answer, if_neg hmax]⟩

variable (parseRoot config) in
/-- What an endpoint tells of the service. -/
def told {R : Type*} (service : Text → Result HttpResponse) (decode : Text → Result R)
    (path : Text) : Result R :=
  (bodyOrError (readers parseRoot : Readers (PointResponse D))
    (answer service config.retry path)).bind decode

theorem fetch_steady (hsteady : Steady env service) {R : Type*} (decode : Text → Result R)
    (path : Text) (client : Client σ D) :
    ∃ client', fetch env parseRoot config decode path client =
        some (told parseRoot config service decode path, client') ∧
      Makes env config client [path] client' ∧ client'.cache = client.cache := by
  obtain ⟨request, hrun⟩ := doGet_steady hsteady config.retry path client.request
  refine ⟨{ client with request }, ?_, Request.doGets_singleton hrun, rfl⟩
  rw [fetch, hrun, told]
  cases hbody : bodyOrError (readers parseRoot : Readers (PointResponse D))
    (answer service config.retry path) <;> simp only [hbody] <;> rfl

variable (parseRoot config) in
def toldPoint (service : Text → Result HttpResponse) (input : Points.Input D) :
    Result (PointResponse D) :=
  told parseRoot config service (readers parseRoot).point input.path

variable (parseRoot config) in
/-- Every point in the cache is what the service would tell for its coordinates. -/
def Served (service : Text → Result HttpResponse) (client : Client σ D) : Prop :=
  ∀ cache, client.cache = some cache → LruCache.Inv config.cache cache ∧
    ∀ key value time, LruCache.lastPut key cache.history = some (value, time) →
      ∃ input : Points.Input D, input.invalid = false ∧ (input.key == key) = true ∧
        toldPoint parseRoot config service input = .ok value

theorem fetchPoint_steady (hsteady : Steady env service) (input : Points.Input D)
    (client : Client σ D) :
    ∃ client', Points.fetchPoint env (readers parseRoot) config input client =
        some (toldPoint parseRoot config service input, client') ∧
      Makes env config client [input.path] client' ∧
      (client'.cache = client.cache ∨
        ∃ value, toldPoint parseRoot config service input = .ok value ∧
          client'.cache = client.cache.map fun cache =>
            cache.call config.cache input.stored (.put input.key value none)) := by
  obtain ⟨request, hrun⟩ := doGet_steady hsteady config.retry input.path client.request
  have hmakes := Request.doGets_singleton hrun
  simp only [Points.fetchPoint, hrun, toldPoint, told]
  cases hbody : bodyOrError (readers parseRoot : Readers (PointResponse D))
    (answer service config.retry input.path) with
  | error error =>
    exact ⟨{ client with request }, rfl, hmakes, Or.inl rfl⟩
  | ok body =>
    simp only [Except.bind]
    cases (readers parseRoot : Readers (PointResponse D)).point body with
    | error error => exact ⟨{ client with request }, rfl, hmakes, Or.inl rfl⟩
    | ok response => exact ⟨⟨request, _⟩, rfl, hmakes, Or.inr ⟨response, rfl, rfl⟩⟩

/-- Coordinates that the cache takes for the same are the same to the service. -/
def Alike (D : Type*) [JsonDouble D] (service : Text → Result HttpResponse) : Prop :=
  ∀ a b : Points.Input D, a.invalid = false → b.invalid = false → (a.key == b.key) = true →
    service a.path = service b.path

variable [LawfulDouble D]

theorem Served.look {client : Client σ D} (h : Served parseRoot config service client)
    {cache : LruCache.Run (CoordinateKey D) (PointResponse D)} (hcache : client.cache = some cache)
    (input : Points.Input D) :
    Served parseRoot config service
      { client with cache := some (cache.call config.cache input.lookedUp (.get input.key)) } := by
  intro looked hlooked
  obtain rfl := Option.some.inj hlooked
  obtain ⟨hinv, hhistory⟩ := h cache hcache
  exact ⟨hinv.call _ _, hhistory⟩

theorem Served.store {client : Client σ D} (h : Served parseRoot config service client)
    {input : Points.Input D} (hvalid : input.invalid = false) {value : PointResponse D}
    (htold : toldPoint parseRoot config service input = .ok value) (request : Request.Client σ) :
    Served parseRoot config service
      { request
        cache := client.cache.map fun cache =>
          cache.call config.cache input.stored (.put input.key value none) } := by
  intro stored hstored
  obtain ⟨cache, hcache, rfl⟩ := Option.map_eq_some_iff.mp hstored
  obtain ⟨hinv, hhistory⟩ := h cache hcache
  refine ⟨hinv.call _ _, fun key found time hput => ?_⟩
  simp only [LruCache.Run.call, LruCache.step, LruCache.put_completed, LruCache.lastPut] at hput
  split_ifs at hput with hkey
  · obtain ⟨rfl, -⟩ := Prod.mk.inj (Option.some.inj hput)
    exact ⟨input, hvalid, hkey, htold⟩
  · exact hhistory key found time hput

/-- With the cache or without it, `get_point` tells what the service tells. -/
theorem getPoint_steady (hsteady : Steady env service) (halike : Alike D service)
    (input : Points.Input D) {client : Client σ D}
    (hserved : Served parseRoot config service client) :
    ∃ client' paths, getPoint env parseRoot config input client =
        some (if input.invalid then .error Points.invalidCoordinates
          else toldPoint parseRoot config service input, client') ∧
      Makes env config client paths client' ∧ Served parseRoot config service client' ∧
      paths.Sublist (if input.invalid then [] else [input.path]) ∧
      (client.cache = none → client'.cache = none ∧
        paths = if input.invalid then [] else [input.path]) := by
  rw [getPoint, Points.getPoint]
  cases hinvalid : input.invalid with
  | true =>
    exact ⟨client, [], rfl, rfl, hserved, .slnil, fun hnone => ⟨hnone, rfl⟩⟩
  | false =>
    have hfetch {client : Client σ D} (hserved : Served parseRoot config service client) :
        ∃ client', Points.fetchPoint env (readers parseRoot) config input client =
            some (toldPoint parseRoot config service input, client') ∧
          Makes env config client [input.path] client' ∧
          Served parseRoot config service client' ∧
          (client.cache = none → client'.cache = none) := by
      obtain ⟨client', hrun, hmakes, hcache | ⟨value, htold, hcache⟩⟩ :=
        fetchPoint_steady hsteady input client
      · exact ⟨client', hrun, hmakes, fun cache hc => hserved cache (hcache ▸ hc),
          fun hnone => hcache.trans hnone⟩
      · refine ⟨client', hrun, hmakes, fun cache hc => ?_, fun hnone => by rw [hcache, hnone]; rfl⟩
        exact hserved.store hinvalid htold client'.request cache (hcache ▸ hc)
    simp only [Bool.false_eq_true, if_false]
    cases hcache : client.cache with
    | none =>
      obtain ⟨client', hrun, hmakes, hserved', hnone⟩ := hfetch hserved
      exact ⟨client', _, hrun, hmakes, hserved', .refl _, fun _ => ⟨hnone hcache, rfl⟩⟩
    | some cache =>
      simp only
      cases hhit : (LruCache.get config.cache input.key input.lookedUp cache.state).1 with
      | none =>
        obtain ⟨client', hrun, hmakes, hserved', -⟩ := hfetch (hserved.look hcache input)
        exact ⟨client', _, hrun, hmakes, hserved', .refl _, fun h => by cases h⟩
      | some response =>
        obtain ⟨hinv, hhistory⟩ := hserved cache hcache
        obtain ⟨-, time, hput, -⟩ := (LruCache.get_hit_iff hinv _ _ _).mp hhit
        obtain ⟨other, hother, hkey, htold⟩ := hhistory _ _ _ hput
        have hsame : toldPoint parseRoot config service input = .ok response := by
          rw [← htold, toldPoint, toldPoint, told, told, answer, answer,
            halike other input hother hinvalid hkey]
        rw [hsame]
        exact ⟨_, [], rfl, rfl, hserved.look hcache input, List.nil_sublist _,
          fun h => by cases h⟩

/-- The same client without its cache. -/
abbrev uncached (config : Points.Config) : Points.Config := { config with enableCache := false }

/-- Two clients of one service, the first with a cache, that have had the same replies. -/
structure Alongside (parseRoot : Text → Result (Json D)) (config : Points.Config)
    (service : Text → Result HttpResponse) (cached plain : Client σ D) : Prop where
  served : Served parseRoot config service cached
  uncached : plain.cache = none

/-- A step of both clients to one reply; the first leaves requests out. -/
def Steps (env : Env σ) (parseRoot : Text → Result (Json D)) (config : Points.Config)
    (service : Text → Result HttpResponse) {R : Type*} (cached plain : Client σ D)
    (step step' : Option (R × Client σ D)) : Prop :=
  ∃ reply cached' plain' kept asked, step = some (reply, cached') ∧ step' = some (reply, plain') ∧
    Makes env config cached kept cached' ∧ Makes env config plain asked plain' ∧
    kept.Sublist asked ∧ Alongside parseRoot config service cached' plain'

variable {cached plain : Client σ D}

omit [LawfulDouble D] in
theorem steps_fetch (hsteady : Steady env service)
    (h : Alongside parseRoot config service cached plain) {R : Type*} (decode : Text → Result R)
    (path : Text) :
    Steps env parseRoot config service cached plain
      (fetch env parseRoot config decode path cached)
      (fetch env parseRoot (uncached config) decode path plain) := by
  obtain ⟨cached', hrun, hmakes, hcache⟩ := fetch_steady hsteady decode path cached
  obtain ⟨plain', hrun', hmakes', hcache'⟩ :
      ∃ client', fetch env parseRoot (uncached config) decode path plain =
          some (told parseRoot config service decode path, client') ∧
        Makes env config plain [path] client' ∧ client'.cache = plain.cache :=
    fetch_steady hsteady decode path plain
  exact ⟨_, cached', plain', [path], [path], hrun, hrun', hmakes, hmakes', .refl _,
    ⟨fun cache hc => h.served cache (hcache ▸ hc), hcache'.trans h.uncached⟩⟩

theorem steps_getPoint (hsteady : Steady env service) (halike : Alike D service)
    (h : Alongside parseRoot config service cached plain) (input : Points.Input D) :
    Steps env parseRoot config service cached plain (getPoint env parseRoot config input cached)
      (getPoint env parseRoot (uncached config) input plain) := by
  have hempty : Served parseRoot (uncached config) service plain := by
    intro cache hcache
    rw [h.uncached] at hcache
    cases hcache
  obtain ⟨cached', kept, hrun, hmakes, hserved, hkept, -⟩ :=
    getPoint_steady hsteady halike input h.served
  obtain ⟨plain', asked, hrun', hmakes', -, -, hplain⟩ :=
    getPoint_steady hsteady halike input hempty
  obtain ⟨hnone, rfl⟩ := hplain h.uncached
  exact ⟨_, cached', plain', kept, _, hrun, hrun', hmakes, hmakes', hkept, ⟨hserved, hnone⟩⟩

omit [LawfulDouble D] in
theorem Steps.map {R S : Type*} {step step' : Option (R × Client σ D)}
    (h : Steps env parseRoot config service cached plain step step') (f : R → S) :
    Steps env parseRoot config service cached plain (step.map (Prod.map f id))
      (step'.map (Prod.map f id)) := by
  obtain ⟨reply, cached', plain', kept, asked, rfl, rfl, hmakes, hmakes', hkept, hnext⟩ := h
  exact ⟨f reply, cached', plain', kept, asked, rfl, rfl, hmakes, hmakes', hkept, hnext⟩

omit [LawfulDouble D] in
/-- Both clients go on from one reply. -/
theorem Steps.bind {R S : Type*} {step step' : Option (R × Client σ D)}
    (h : Steps env parseRoot config service cached plain step step')
    {next next' : R × Client σ D → Option (S × Client σ D)}
    (hnext : ∀ reply cached' plain', Alongside parseRoot config service cached' plain' →
      Steps env parseRoot config service cached' plain' (next (reply, cached'))
        (next' (reply, plain'))) :
    Steps env parseRoot config service cached plain (step.bind next) (step'.bind next') := by
  obtain ⟨reply, mid, mid', kept, asked, rfl, rfl, hmakes, hmakes', hkept, hmid⟩ := h
  obtain ⟨final, cached', plain', more, more', hrun, hrun', hmore, hmore', hsub, hend⟩ :=
    hnext reply mid mid' hmid
  exact ⟨final, cached', plain', kept ++ more, asked ++ more', hrun, hrun', hmakes.append hmore,
    hmakes'.append hmore', hkept.append hsub, hend⟩

omit [LawfulDouble D] in
/-- A failure is the failure of both. -/
theorem Steps.onSuccess {R S : Type*} {step step' : Option (Result R × Client σ D)}
    (h : Steps env parseRoot config service cached plain step step')
    {next next' : R → Client σ D → Option (Result S × Client σ D)}
    (hnext : ∀ reply cached' plain', Alongside parseRoot config service cached' plain' →
      Steps env parseRoot config service cached' plain' (next reply cached')
        (next' reply plain')) :
    Steps env parseRoot config service cached plain (step.bind (onSuccess next))
      (step'.bind (onSuccess next')) := by
  apply h.bind
  intro reply cached' plain' h'
  cases reply with
  | error error => exact ⟨_, cached', plain', [], [], rfl, rfl, rfl, rfl, .slnil, h'⟩
  | ok reply => exact hnext reply cached' plain' h'

theorem steps_getForecastForLocation (hsteady : Steady env service) (halike : Alike D service)
    (h : Alongside parseRoot config service cached plain) (input : Points.Input D)
    (units : Option UnitSystem) :
    Steps env parseRoot config service cached plain
      (getForecastForLocation env parseRoot config input units cached)
      (getForecastForLocation env parseRoot (uncached config) input units plain) := by
  rw [getForecastForLocation_eq, getForecastForLocation_eq]
  apply (steps_getPoint hsteady halike h input).onSuccess
  exact fun point cached' plain' h' => steps_fetch hsteady h' _ _

theorem steps_getCurrentWeather (hsteady : Steady env service) (halike : Alike D service)
    (h : Alongside parseRoot config service cached plain) (input : Points.Input D) :
    Steps env parseRoot config service cached plain
      (getCurrentWeather env parseRoot config input cached)
      (getCurrentWeather env parseRoot (uncached config) input plain) := by
  rw [getCurrentWeather_eq, getCurrentWeather_eq]
  apply (steps_getPoint hsteady halike h input).onSuccess
  intro point cached' plain' h'
  apply (steps_fetch hsteady h' _ _).onSuccess
  intro stations cached' plain' h'
  rw [observeNearest, observeNearest]
  cases stations.features with
  | nil => exact ⟨_, cached', plain', [], [], rfl, rfl, rfl, rfl, .slnil, h'⟩
  | cons nearest rest => exact steps_fetch hsteady h' _ _

theorem steps_perform (hsteady : Steady env service) (halike : Alike D service)
    (h : Alongside parseRoot config service cached plain) (call : Call D) :
    Steps env parseRoot config service cached plain (perform env parseRoot config call cached)
      (perform env parseRoot (uncached config) call plain) := by
  cases call with
  | getPoint input => exact (steps_getPoint hsteady halike h input).map _
  | getForecastForLocation input units =>
    exact (steps_getForecastForLocation hsteady halike h input units).map _
  | getCurrentWeather input => exact (steps_getCurrentWeather hsteady halike h input).map _
  | _ => exact (steps_fetch hsteady h _ _).map _

theorem steps_run (hsteady : Steady env service) (halike : Alike D service)
    (h : Alongside parseRoot config service cached plain) (calls : List (Call D)) :
    Steps env parseRoot config service cached plain (run env parseRoot config calls cached)
      (run env parseRoot (uncached config) calls plain) := by
  induction calls generalizing cached plain with
  | nil => exact ⟨[], cached, plain, [], [], rfl, rfl, rfl, rfl, .slnil, h⟩
  | cons call calls ih =>
    have hbind (config : Points.Config) (client : Client σ D) :
        run env parseRoot config (call :: calls) client =
          (perform env parseRoot config call client).bind fun made =>
            (run env parseRoot config calls made.2).map (Prod.map (made.1 :: ·) id) := by
      rw [run]
      cases perform env parseRoot config call client <;> rfl
    rw [hbind, hbind]
    exact (steps_perform hsteady halike h call).bind fun reply _ _ h' => (ih h').map (reply :: ·)

/-- On a service that does not change, any run of calls has the same replies with the cache
and without it, whatever the clocks, and the cache only leaves requests out. -/
theorem run_cached_eq_uncached (hsteady : Steady env service) (halike : Alike D service)
    (parseRoot : Text → Result (Json D)) (config : Points.Config) (world : σ)
    (calls : List (Call D)) :
    ∃ replies cached plain kept asked,
      run env parseRoot config calls (Points.Client.init config world) = some (replies, cached) ∧
      run env parseRoot (uncached config) calls (Points.Client.init (uncached config) world) =
        some (replies, plain) ∧
      doGets env config.retry ⟨world, []⟩ kept = some cached.request ∧
      doGets env config.retry ⟨world, []⟩ asked = some plain.request ∧ kept.Sublist asked := by
  have hstart : Alongside parseRoot config service
      (Points.Client.init config world : Client σ D) (Points.Client.init (uncached config) world) := by
    refine ⟨fun cache hcache => ?_, rfl⟩
    rw [Points.Client.init] at hcache
    split_ifs at hcache
    obtain rfl := Option.some.inj hcache
    exact ⟨LruCache.Inv.init, fun _ _ _ h => by cases h⟩
  obtain ⟨replies, cached, plain, kept, asked, hrun, hrun', hmakes, hmakes', hkept, -⟩ :=
    steps_run hsteady halike hstart calls
  exact ⟨replies, cached, plain, kept, asked, hrun, hrun', hmakes, hmakes', hkept⟩

end Steady

section Prairie

def pointTree : Json Int := renderFeature renderPointProperties prairiePoint

def forecastTree : Json Int := renderFeature renderForecastProperties windyForecast

/-- A service with one point and one forecast. -/
def prairieService (path : Text) : Result HttpResponse :=
  .ok
    { statusCode := 200
      body := if path.take 8 = ascii "/points/" then pointTree.document else forecastTree.document }

def prairieEnv : Env Unit where
  acquire world := (true, world)
  transport path world := (prairieService path, world)
  sleep _ world := world
  jitter _ world := (1, world)

/-- The reader of the two documents. -/
def prairieRoot (body : Text) : Result (Json Int) :=
  if body = pointTree.document then .ok pointTree
  else Json.readerOf forecastTree.document forecastTree body

def prairie (lookedUp stored : Int) : Points.Input Int :=
  { latitude := 39, longitude := -97, lookedUp, stored }

theorem alike_prairieService : Alike Int prairieService := by
  intro a b _ _ hkey
  obtain ⟨hlatitude, hlongitude⟩ := key_beq_iff.mp hkey
  have hsame {x y : Int} (h : sameComponent x y = true) : x = y := by
    simpa [sameComponent, Double.eq, Double.isnan] using h
  have hlatitude : a.latitude = b.latitude := hsame hlatitude
  have hlongitude : a.longitude = b.longitude := hsame hlongitude
  rw [Points.Input.path, Points.Input.path, hlatitude, hlongitude]

theorem steady_prairieEnv : Steady prairieEnv prairieService := ⟨fun _ => rfl, fun _ _ => rfl⟩

def prairieCalls : List (Call Int) :=
  [.getForecastForLocation (prairie 0 7) none, .getForecastForLocation (prairie 9 9) none]

theorem run_cached_eq_uncached_prairie :
    ∃ replies cached plain,
      run prairieEnv prairieRoot { enableCache := true } prairieCalls
          (Points.Client.init { enableCache := true } ()) = some (replies, cached) ∧
        run prairieEnv prairieRoot { enableCache := false } prairieCalls
          (Points.Client.init { enableCache := false } ()) = some (replies, plain) ∧
        (Request.calls cached.request.trace).length = 3 ∧
        (Request.calls plain.request.trace).length = 4 := by
  obtain ⟨replies, cached, plain, -, -, hrun, hrun', -, -, -⟩ :=
    run_cached_eq_uncached steady_prairieEnv alike_prairieService prairieRoot { enableCache := true } ()
      prairieCalls
  have hcached : ((run prairieEnv prairieRoot { enableCache := true } prairieCalls
      (Points.Client.init { enableCache := true } ())).map fun result =>
        (Request.calls result.2.request.trace).length) = some 3 := by decide +kernel
  have hplain : ((run prairieEnv prairieRoot { enableCache := false } prairieCalls
      (Points.Client.init { enableCache := false } ())).map fun result =>
        (Request.calls result.2.request.trace).length) = some 4 := by decide +kernel
  rw [hrun] at hcached
  have hrun' : run prairieEnv prairieRoot { enableCache := false } prairieCalls
    (Points.Client.init { enableCache := false } ()) = some (replies, plain) := hrun'
  rw [hrun'] at hplain
  exact ⟨replies, cached, plain, hrun, hrun', Option.some.inj hcached, Option.some.inj hplain⟩

/-- The point is looked up once more, within its time to live. -/
theorem runOn_coherent_prairie :
    ∃ session reply session' looked record,
      runOn prairieEnv prairieRoot { enableCache := true }
          { client := Points.Client.init { enableCache := true } () } prairieCalls =
        some session ∧
      performOn prairieEnv prairieRoot { enableCache := true } (.getPoint (prairie 12 12)) session =
        some (reply, session') ∧
      session.call prairieEnv (readers prairieRoot) { enableCache := true } (prairie 12 12) =
        some looked ∧
      looked.records = record :: session.records ∧ session'.records = looked.records ∧
      Points.CallCoherent (readers prairieRoot) { enableCache := true } session looked record ∧
      record.events.length = 0 ∧
      record.result.toOption.map (fun point => point.properties.gridX) = some 32 := by
  obtain ⟨session, hrun, hnext⟩ :=
    runOn_coherent prairieEnv prairieRoot { enableCache := true } () prairieCalls
  obtain ⟨reply, session', hperform, hkeeps⟩ := hnext (.getPoint (prairie 12 12))
  obtain ⟨looked, record, hcall, hrecords, -, hcoherent, -, hsame, -⟩ := hkeeps.looked _ rfl
  have hlast : ((runOn prairieEnv prairieRoot { enableCache := true }
      { client := Points.Client.init { enableCache := true } () } prairieCalls).bind fun session =>
        session.call prairieEnv (readers prairieRoot) { enableCache := true } (prairie 12 12)).bind
          (fun session => session.records.head?.map fun record =>
            (record.events.length,
              record.result.toOption.map fun point => point.properties.gridX)) =
      some (0, some 32) := by decide +kernel
  rw [hrun, Option.bind_some, hcall, Option.bind_some, hrecords, List.head?_cons, Option.map_some,
    Option.some.injEq, Prod.mk.injEq] at hlast
  exact ⟨session, reply, session', looked, record, hrun, hperform, hcall, hrecords, hsame,
    hcoherent, hlast⟩

end Prairie

end NWSClient

end NwsCpp
