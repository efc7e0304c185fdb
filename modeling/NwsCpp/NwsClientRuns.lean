import NwsCpp.NwsClient
import NwsCpp.PointRequests

/-! What the methods of the client ask for, over whole runs of calls. -/

namespace NwsCpp

open Bytes

namespace Request

variable {σ : Type*} {env : Env σ} {policy : RetryPolicy} {client client' : Client σ}

theorem OwnToken.append {events more : List Event} (h : OwnToken events) (hmore : OwnToken more) :
    OwnToken (events ++ more) := by
  intro i outcome hi
  by_cases hlt : i < events.length
  · rw [List.getElem?_append_left hlt] at hi
    obtain ⟨j, rfl, hj⟩ := h i outcome hi
    exact ⟨j, rfl, by rw [List.getElem?_append_left (by omega), hj]⟩
  · rw [List.getElem?_append_right (by omega)] at hi
    obtain ⟨j, hij, hj⟩ := hmore _ outcome hi
    refine ⟨events.length + j, by omega, ?_⟩
    rw [List.getElem?_append_right (by omega), Nat.add_sub_cancel_left, hj]

theorem ownToken_nil : OwnToken [] := fun _ _ h => by simp at h

theorem doGets_append (xs ys : List Text) :
    doGets env policy client (xs ++ ys) =
      (doGets env policy client xs).bind fun mid => doGets env policy mid ys :=
  List.foldlM_append

theorem doGets_singleton {path : Text} {result : Result HttpResponse}
    (h : doGet env policy path client = some (result, client')) :
    doGets env policy client [path] = some client' := by
  rw [doGets, List.foldlM_cons, h]
  rfl

/-- The trace of some requests: a token of its own before each transport call, and at
most as many calls as the attempts allow. -/
theorem doGets_trace (env : Env σ) (policy : RetryPolicy) (paths : List Text)
    (client : Client σ) :
    ∃ client' events, doGets env policy client paths = some client' ∧
      client'.trace = client.trace ++ events ∧ OwnToken events ∧ Covered events ∧
      (calls events).length ≤ paths.length * policy.maxAttempts.toNat := by
  induction paths generalizing client with
  | nil =>
    exact ⟨client, [], rfl, (List.append_nil _).symm, ownToken_nil, covered_nil, Nat.zero_le _⟩
  | cons path paths ih =>
    obtain ⟨result, mid, events, hrun, htrace, hcovered, hprotocol⟩ :=
      doGet_rounds env policy path client
    obtain ⟨client', more, hrest, htrace', hown, hcovered', hbound⟩ := ih mid
    have hfirst := hprotocol.bounded
    refine ⟨client', events ++ more, ?_, ?_, hprotocol.ownToken.append hown,
      hcovered.append hcovered', ?_⟩
    · rw [doGets, List.foldlM_cons, hrun]
      exact hrest
    · rw [htrace', htrace, List.append_assoc]
    · rw [calls_append, List.length_append, List.length_cons, Nat.succ_mul]
      omega

end Request

namespace NWSClient

open Request (doGets)

variable {σ D : Type*} [JsonDouble D] (env : Env σ) (parseRoot : Text → Result (Json D))
  (config : Points.Config)

/-- What an endpoint makes of the reply to its request. -/
def readReply {R : Type*} (parseRoot : Text → Result (Json D)) (decode : Text → Result R)
    (reply : Result HttpResponse) : Result R :=
  (bodyOrError (readers parseRoot : Readers (PointResponse D)) reply).bind decode

/-- The path of a call that makes one request whatever comes back. -/
def Call.endpoint : Call D → Option Text
  | .getForecast wfo x y units => some (PathCall.getForecast wfo x y units).target
  | .getForecastHourly wfo x y units => some (PathCall.getForecastHourly wfo x y units).target
  | .getGridpointStations wfo x y => some (PathCall.getGridpointStations wfo x y).target
  | .getStation stationId => some (PathCall.getStation stationId).target
  | .getObservations stationId params => some (PathCall.getObservations stationId params).target
  | .getLatestObservation stationId => some (PathCall.getLatestObservation stationId).target
  | .getAlerts params => some (alertsPath params)
  | .getActiveAlerts params => some (activeAlertsPath params)
  | .getActiveAlertCount => some (ascii "/alerts/active/count")
  | .getActiveAlertsByArea area => some (PathCall.getActiveAlertsByArea area).target
  | .getActiveAlertsByZone zoneId => some (PathCall.getActiveAlertsByZone zoneId).target
  | .getAlert alertId => some (PathCall.getAlert alertId).target
  | .getAlertTypes => some (ascii "/alerts/types")
  | .getGridpoint wfo x y => some (PathCall.getGridpoint wfo x y).target
  | .getZone type zoneId => some (PathCall.getZone type zoneId).target
  | .getZoneForecast type zoneId => some (PathCall.getZoneForecast type zoneId).target
  | .getGlossary => some (ascii "/glossary")
  | .getLatestProduct typeId locationId =>
    some (PathCall.getLatestProduct typeId locationId).target
  | .getProduct productId => some (PathCall.getProduct productId).target
  | .getPoint _ => none
  | .getForecastForLocation _ _ => none
  | .getCurrentWeather _ => none

def forecastPath (point : PointResponse D) (units : Option UnitSystem) : Text :=
  (PathCall.getForecast point.properties.gridId point.properties.gridX point.properties.gridY
    units).target

def stationsPath (point : PointResponse D) : Text :=
  (PathCall.getGridpointStations point.properties.gridId point.properties.gridX
    point.properties.gridY).target

/-- The requests of one call made on `client`, with what came back: the next request of a call
is made after the one before it succeeded, for what that one or the cache brought. -/
inductive Call.Asks (parseRoot : Text → Result (Json D)) (config : Points.Config)
    (client : Client σ D) : Call D → List Request.Exchange → Prop
  | endpoint {call : Call D} {path : Text} {reply : Result HttpResponse}
      (only : call.endpoint = some path) : Asks parseRoot config client call [(path, reply)]
  | point {input : Points.Input D} {xs : List Request.Exchange} {result : Result (PointResponse D)}
      (first : Points.Asks (readers parseRoot) config client input xs result) :
      Asks parseRoot config client (.getPoint input) xs
  | noForecast {input : Points.Input D} {units : Option UnitSystem} {xs : List Request.Exchange}
      {error : Error} (first : Points.Asks (readers parseRoot) config client input xs (.error error)) :
      Asks parseRoot config client (.getForecastForLocation input units) xs
  | forecast {input : Points.Input D} {units : Option UnitSystem} {xs : List Request.Exchange}
      {point : PointResponse D} {reply : Result HttpResponse}
      (first : Points.Asks (readers parseRoot) config client input xs (.ok point)) :
      Asks parseRoot config client (.getForecastForLocation input units)
        (xs ++ [(forecastPath point units, reply)])
  | noWeather {input : Points.Input D} {xs : List Request.Exchange} {error : Error}
      (first : Points.Asks (readers parseRoot) config client input xs (.error error)) :
      Asks parseRoot config client (.getCurrentWeather input) xs
  | noStations {input : Points.Input D} {xs : List Request.Exchange} {point : PointResponse D}
      {reply : Result HttpResponse}
      (first : Points.Asks (readers parseRoot) config client input xs (.ok point))
      (none_near : ∀ stations, readReply parseRoot
        (decodeWith (deserializeStationCollection parseRoot) {}) reply = .ok stations →
          stations.features = []) :
      Asks parseRoot config client (.getCurrentWeather input) (xs ++ [(stationsPath point, reply)])
  | weather {input : Points.Input D} {xs : List Request.Exchange} {point : PointResponse D}
      {reply latest : Result HttpResponse} {stations : StationCollectionResponse D}
      {nearest : StationResponse D} {rest : List (StationResponse D)}
      (first : Points.Asks (readers parseRoot) config client input xs (.ok point))
      (found : readReply parseRoot
        (decodeWith (deserializeStationCollection parseRoot) {}) reply = .ok stations)
      (near : stations.features = nearest :: rest) :
      Asks parseRoot config client (.getCurrentWeather input)
        (xs ++ [(stationsPath point, reply),
          ((PathCall.getLatestObservation nearest.properties.stationIdentifier).target, latest)])

/-- Calls made one after the other, each on the client that the ones before it left, with
their requests and replies. -/
inductive Requests (env : Env σ) (parseRoot : Text → Result (Json D)) (config : Points.Config) :
    Client σ D → List (Call D) → List (List Request.Exchange) → List (Reply D) → Client σ D → Prop
  | nil (client : Client σ D) : Requests env parseRoot config client [] [] [] client
  | cons {client mid client' : Client σ D} {call : Call D} {calls : List (Call D)}
      {xs : List Request.Exchange} {asked : List (List Request.Exchange)} {reply : Reply D}
      {replies : List (Reply D)}
      (performed : perform env parseRoot config call client = some (reply, mid))
      (asks : call.Asks parseRoot config client xs)
      (exchanged : Request.Exchanged env config.retry client.request xs mid.request)
      (rest : Requests env parseRoot config mid calls asked replies client') :
      Requests env parseRoot config client (call :: calls) (xs :: asked) (reply :: replies) client'

/-- A step of the client that makes the requests for `paths`. -/
def Makes (client : Client σ D) (paths : List Text) (client' : Client σ D) : Prop :=
  doGets env config.retry client.request paths = some client'.request

variable {env parseRoot config}

theorem Makes.append {client mid client' : Client σ D} {xs ys : List Text}
    (h : Makes env config client xs mid) (h' : Makes env config mid ys client') :
    Makes env config client (xs ++ ys) client' := by
  rw [Makes, Request.doGets_append, h]
  exact h'

variable (env parseRoot config)

theorem fetch_asks {R : Type*} (decode : Text → Result R) (path : Text) (client : Client σ D) :
    ∃ result client' reply,
      fetch env parseRoot config decode path client = some (result, client') ∧
      result = readReply parseRoot decode reply ∧
      Request.Exchanged env config.retry client.request [(path, reply)] client'.request ∧
      client'.cache = client.cache := by
  obtain ⟨reply, request, hrun, -⟩ := Request.doGet_last env config.retry path client.request
  refine ⟨readReply parseRoot decode reply, { client with request }, reply, ?_, rfl, .single hrun,
    rfl⟩
  rw [fetch, hrun, readReply]
  cases hbody : bodyOrError (readers parseRoot : Readers (PointResponse D)) reply <;>
    simp only [hbody] <;> rfl

theorem getForecastForLocation_asks (input : Points.Input D) (units : Option UnitSystem)
    (client : Client σ D) :
    ∃ result client' xs,
      getForecastForLocation env parseRoot config input units client = some (result, client') ∧
      (Call.getForecastForLocation input units).Asks parseRoot config client xs ∧
      Request.Exchanged env config.retry client.request xs client'.request := by
  obtain ⟨point, mid, xs, hpoint, hfirst, hmid⟩ :=
    Points.getPoint_asks env (readers parseRoot) config input client
  rw [getForecastForLocation, getPoint, hpoint]
  cases point with
  | error error => exact ⟨_, mid, xs, rfl, .noForecast hfirst, hmid⟩
  | ok point =>
    obtain ⟨result, client', reply, hrun, -, hx, -⟩ := fetch_asks env parseRoot config
      (decodeWith (deserializeForecastResponse parseRoot) { properties := {} })
      (forecastPath point units) mid
    exact ⟨result, client', _, hrun, .forecast hfirst, hmid.append hx⟩

theorem getCurrentWeather_asks (input : Points.Input D) (client : Client σ D) :
    ∃ result client' xs,
      getCurrentWeather env parseRoot config input client = some (result, client') ∧
      (Call.getCurrentWeather input).Asks parseRoot config client xs ∧
      Request.Exchanged env config.retry client.request xs client'.request := by
  obtain ⟨point, mid, xs, hpoint, hfirst, hmid⟩ :=
    Points.getPoint_asks env (readers parseRoot) config input client
  rw [getCurrentWeather, getPoint, hpoint]
  cases point with
  | error error => exact ⟨_, mid, xs, rfl, .noWeather hfirst, hmid⟩
  | ok point =>
    obtain ⟨stations, near, reply, hstations, hread, hx, -⟩ := fetch_asks env parseRoot config
      (decodeWith (deserializeStationCollection parseRoot) {}) (stationsPath point) mid
    rw [stationsPath] at hstations
    simp only [getGridpointStations, hstations]
    cases stations with
    | error error =>
      refine ⟨_, near, _, rfl, .noStations hfirst fun stations hok => ?_, hmid.append hx⟩
      rw [← hread] at hok
      cases hok
    | ok stations =>
      cases hfeatures : stations.features with
      | nil =>
        simp only [hfeatures]
        refine ⟨_, near, _, rfl, .noStations hfirst fun other hok => ?_, hmid.append hx⟩
        rw [← hread] at hok
        rwa [← Except.ok.inj hok]
      | cons nearest rest =>
        obtain ⟨result, client', latest, hrun, -, hy, -⟩ := fetch_asks env parseRoot config
          (decodeWith (deserializeObservationResponse parseRoot) { properties := {} })
          (PathCall.getLatestObservation nearest.properties.stationIdentifier).target near
        simp only [hfeatures]
        exact ⟨result, client', _, hrun, .weather hfirst hread.symm hfeatures,
          hmid.append (hx.append hy)⟩

theorem perform_asks (call : Call D) (client : Client σ D) :
    ∃ reply client' xs, perform env parseRoot config call client = some (reply, client') ∧
      call.Asks parseRoot config client xs ∧
      Request.Exchanged env config.retry client.request xs client'.request := by
  cases call with
  | getPoint input =>
    obtain ⟨result, client', xs, hrun, hfirst, hx⟩ :=
      Points.getPoint_asks env (readers parseRoot) config input client
    exact ⟨_, client', xs, by rw [perform, getPoint, hrun]; rfl, .point hfirst, hx⟩
  | getForecastForLocation input units =>
    obtain ⟨result, client', xs, hrun, hasks, hx⟩ :=
      getForecastForLocation_asks env parseRoot config input units client
    exact ⟨_, client', xs, by rw [perform, hrun]; rfl, hasks, hx⟩
  | getCurrentWeather input =>
    obtain ⟨result, client', xs, hrun, hasks, hx⟩ :=
      getCurrentWeather_asks env parseRoot config input client
    exact ⟨_, client', xs, by rw [perform, hrun]; rfl, hasks, hx⟩
  | _ =>
    obtain ⟨result, client', reply, hrun, -, hx, -⟩ := fetch_asks env parseRoot config _ _ client
    exact ⟨_, client', _, congrArg (Option.map _) hrun, .endpoint rfl, hx⟩

theorem run_asks (calls : List (Call D)) (client : Client σ D) :
    ∃ replies client' asked, run env parseRoot config calls client = some (replies, client') ∧
      Requests env parseRoot config client calls asked replies client' := by
  induction calls generalizing client with
  | nil => exact ⟨[], client, [], rfl, .nil client⟩
  | cons call calls ih =>
    obtain ⟨reply, mid, xs, hcall, hasks, hx⟩ := perform_asks env parseRoot config call client
    obtain ⟨replies, client', asked, hrun, hrest⟩ := ih mid
    refine ⟨reply :: replies, client', xs :: asked, ?_, .cons hcall hasks hx hrest⟩
    rw [run, hcall]
    simp only [hrun]
    rfl

variable {env parseRoot config} {client client' : Client σ D} {calls : List (Call D)}
  {asked : List (List Request.Exchange)} {replies : List (Reply D)}

theorem Requests.length (h : Requests env parseRoot config client calls asked replies client') :
    replies.length = calls.length := by
  induction h with
  | nil => rfl
  | cons _ _ _ _ ih => exact congrArg (· + 1) ih

theorem Requests.exchanged (h : Requests env parseRoot config client calls asked replies client') :
    Request.Exchanged env config.retry client.request asked.flatten client'.request := by
  induction h with
  | nil => exact .nil _
  | cons _ _ hx _ ih => exact hx.append ih

/-- Whatever is called in whatever order, every call is replied to, the requests are those
the calls ask for, and each transport call follows a token granted to it alone. -/
theorem run_requests (env : Env σ) (parseRoot : Text → Result (Json D)) (config : Points.Config)
    (world : σ) (calls : List (Call D)) :
    ∃ replies client asked,
      run env parseRoot config calls (Points.Client.init config world) = some (replies, client) ∧
      replies.length = calls.length ∧
      Requests env parseRoot config (Points.Client.init config world) calls asked replies client ∧
      Request.OwnToken client.request.trace ∧ Request.Covered client.request.trace ∧
      (Request.calls client.request.trace).length ≤
        asked.flatten.length * config.retry.maxAttempts.toNat := by
  obtain ⟨replies, client, asked, hrun, hrequests⟩ :=
    run_asks env parseRoot config calls (Points.Client.init config world)
  obtain ⟨request, events, hgets, htrace, hown, hcovered, hbound⟩ :=
    Request.doGets_trace env config.retry (asked.flatten.map Prod.fst) ⟨world, []⟩
  obtain rfl := Option.some.inj (hgets.symm.trans hrequests.exchanged.doGets)
  have htrace : client.request.trace = events := htrace
  rw [List.length_map] at hbound
  exact ⟨replies, client, asked, hrun, hrequests.length, hrequests, htrace ▸ hown,
    htrace ▸ hcovered, htrace ▸ hbound⟩

/-- The trace of a run is what the environment has recorded of it. -/
theorem run_traced {record : σ → List Request.Event} (hrecords : Request.Records env record)
    (parseRoot : Text → Result (Json D)) (config : Points.Config) (world : σ)
    (calls : List (Call D)) {replies : List (Reply D)} {client : Client σ D}
    (hrun : run env parseRoot config calls (Points.Client.init config world) =
      some (replies, client)) :
    record client.request.world = record world ++ client.request.trace := by
  obtain ⟨replies', client', asked, hrun', hrequests⟩ :=
    run_asks env parseRoot config calls (Points.Client.init config world)
  obtain ⟨-, rfl⟩ := Prod.mk.inj (Option.some.inj (hrun'.symm.trans hrun))
  exact hrequests.exchanged.traced hrecords (List.append_nil _).symm

end NWSClient

end NwsCpp
