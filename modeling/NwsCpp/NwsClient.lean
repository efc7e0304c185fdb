import NwsCpp.Alert
import NwsCpp.Endpoints
import NwsCpp.Features
import NwsCpp.Forecast
import NwsCpp.Gridpoint
import NwsCpp.Observation
import NwsCpp.Points
import NwsCpp.Records

/-! The methods of the client, over the request protocol and the cache of points. -/

namespace NwsCpp

open Bytes Json

variable {D : Type*}

/-- The members of an error body that an error takes over. -/
def problemDetails (parseRoot : Text → Result (Json D)) (body : Text) : Option ProblemDetails :=
  match parseRoot body with
  | .ok (.obj members) =>
    some
      { title := (obj members).getOptionalString (ascii "title")
        detail := (obj members).getOptionalString (ascii "detail")
        correlationId := (obj members).getOptionalString (ascii "correlationId") }
  | _ => none

/-- A response read into a fresh value. -/
def decodeWith {R : Type*} (read : Text → R → Result Unit × R) (response : R) (body : Text) :
    Result R :=
  match read body response with
  | (.error error, _) => .error error
  | (.ok _, response) => .ok response

namespace Error

def notFound (msg : Text) : Error := { code := .notFound, message := msg }

end Error

namespace NWSClient

section Methods

variable [JsonDouble D]

abbrev Client (σ D : Type*) [JsonDouble D] := Points.Client σ D (PointResponse D)

def readers (parseRoot : Text → Result (Json D)) : Readers (PointResponse D) where
  problem := problemDetails parseRoot
  point := decodeWith (deserializePointResponse parseRoot) { properties := {} }

variable {σ : Type*} (env : Env σ) (parseRoot : Text → Result (Json D)) (config : Points.Config)

/-- What every endpoint does: the request, the check of its status, the decoding. -/
def fetch {R : Type*} (decode : Text → Result R) (path : Text) (client : Client σ D) :
    Option (Result R × Client σ D) :=
  match Request.doGet env config.retry path client.request with
  | none => none
  | some (reply, request) =>
    match bodyOrError (readers parseRoot) reply with
    | .error error => some (.error error, { client with request })
    | .ok body => some (decode body, { client with request })

def getPoint (input : Points.Input D) :
    Client σ D → Option (Result (PointResponse D) × Client σ D) :=
  Points.getPoint env (readers parseRoot) config input

def getForecast (wfo : Text) (x y : Int32) (units : Option UnitSystem) :
    Client σ D → Option (Result (ForecastResponse D) × Client σ D) :=
  fetch env parseRoot config
    (decodeWith (deserializeForecastResponse parseRoot) { properties := {} })
    (PathCall.getForecast wfo x y units).target

def getForecastHourly (wfo : Text) (x y : Int32) (units : Option UnitSystem) :
    Client σ D → Option (Result (ForecastResponse D) × Client σ D) :=
  fetch env parseRoot config
    (decodeWith (deserializeForecastResponse parseRoot) { properties := {} })
    (PathCall.getForecastHourly wfo x y units).target

def getGridpointStations (wfo : Text) (x y : Int32) :
    Client σ D → Option (Result (StationCollectionResponse D) × Client σ D) :=
  fetch env parseRoot config (decodeWith (deserializeStationCollection parseRoot) {})
    (PathCall.getGridpointStations wfo x y).target

def getStation (stationId : Text) :
    Client σ D → Option (Result (StationResponse D) × Client σ D) :=
  fetch env parseRoot config
    (decodeWith (deserializeStationResponse parseRoot) { properties := {} })
    (PathCall.getStation stationId).target

def getObservations (stationId : Text) (params : GetObservationsParams) :
    Client σ D → Option (Result (ObservationCollectionResponse D) × Client σ D) :=
  fetch env parseRoot config (decodeWith (deserializeObservationCollection parseRoot) {})
    (PathCall.getObservations stationId params).target

def getLatestObservation (stationId : Text) :
    Client σ D → Option (Result (ObservationResponse D) × Client σ D) :=
  fetch env parseRoot config
    (decodeWith (deserializeObservationResponse parseRoot) { properties := {} })
    (PathCall.getLatestObservation stationId).target

def alertsPath (params : GetAlertsParams) : Text := ascii "/alerts" ++ buildAlertsQuery params

def getAlerts (params : GetAlertsParams) :
    Client σ D → Option (Result (AlertCollectionResponse D) × Client σ D) :=
  fetch env parseRoot config (decodeWith (deserializeAlertCollection parseRoot) {})
    (alertsPath params)

def activeAlertsPath (params : GetAlertsParams) : Text :=
  ascii "/alerts/active" ++ buildAlertsQuery params

def getActiveAlerts (params : GetAlertsParams) :
    Client σ D → Option (Result (AlertCollectionResponse D) × Client σ D) :=
  fetch env parseRoot config (decodeWith (deserializeAlertCollection parseRoot) {})
    (activeAlertsPath params)

def getActiveAlertCount : Client σ D → Option (Result AlertActiveCount × Client σ D) :=
  fetch env parseRoot config (decodeWith (deserializeAlertActiveCount parseRoot) {})
    (ascii "/alerts/active/count")

def getActiveAlertsByArea (area : Text) :
    Client σ D → Option (Result (AlertCollectionResponse D) × Client σ D) :=
  fetch env parseRoot config (decodeWith (deserializeAlertCollection parseRoot) {})
    (PathCall.getActiveAlertsByArea area).target

def getActiveAlertsByZone (zoneId : Text) :
    Client σ D → Option (Result (AlertCollectionResponse D) × Client σ D) :=
  fetch env parseRoot config (decodeWith (deserializeAlertCollection parseRoot) {})
    (PathCall.getActiveAlertsByZone zoneId).target

def getAlert (id : Text) : Client σ D → Option (Result (AlertFeature D) × Client σ D) :=
  fetch env parseRoot config
    (decodeWith (deserializeAlertFeature parseRoot) { properties := {} })
    (PathCall.getAlert id).target

def getAlertTypes : Client σ D → Option (Result (List Text) × Client σ D) :=
  fetch env parseRoot config (decodeWith (deserializeAlertTypes parseRoot) [])
    (ascii "/alerts/types")

def getGridpoint (wfo : Text) (x y : Int32) :
    Client σ D → Option (Result (GridpointResponse D) × Client σ D) :=
  fetch env parseRoot config
    (decodeWith (deserializeGridpointResponse parseRoot) { properties := {} })
    (PathCall.getGridpoint wfo x y).target

def getZone (type zoneId : Text) :
    Client σ D → Option (Result (ZoneFeature D) × Client σ D) :=
  fetch env parseRoot config (decodeWith (deserializeZoneFeature parseRoot) { properties := {} })
    (PathCall.getZone type zoneId).target

def getZoneForecast (type zoneId : Text) :
    Client σ D → Option (Result ZoneForecastProperties × Client σ D) :=
  fetch env parseRoot config (decodeWith (deserializeZoneForecast parseRoot) {})
    (PathCall.getZoneForecast type zoneId).target

def getGlossary : Client σ D → Option (Result GlossaryResponse × Client σ D) :=
  fetch env parseRoot config (decodeWith (deserializeGlossaryResponse parseRoot) {})
    (ascii "/glossary")

def getLatestProduct (typeId locationId : Text) :
    Client σ D → Option (Result ProductProperties × Client σ D) :=
  fetch env parseRoot config (decodeWith (deserializeProductProperties parseRoot) {})
    (PathCall.getLatestProduct typeId locationId).target

def getProduct (productId : Text) : Client σ D → Option (Result ProductProperties × Client σ D) :=
  fetch env parseRoot config (decodeWith (deserializeProductProperties parseRoot) {})
    (PathCall.getProduct productId).target

def getForecastForLocation (input : Points.Input D) (units : Option UnitSystem)
    (client : Client σ D) : Option (Result (ForecastResponse D) × Client σ D) :=
  match getPoint env parseRoot config input client with
  | none => none
  | some (.error error, client) => some (.error error, client)
  | some (.ok point, client) =>
    getForecast env parseRoot config point.properties.gridId point.properties.gridX
      point.properties.gridY units client

def noStations : Error := Error.notFound (ascii "No observation stations found near location")

def getCurrentWeather (input : Points.Input D) (client : Client σ D) :
    Option (Result (ObservationResponse D) × Client σ D) :=
  match getPoint env parseRoot config input client with
  | none => none
  | some (.error error, client) => some (.error error, client)
  | some (.ok point, client) =>
    match getGridpointStations env parseRoot config point.properties.gridId
        point.properties.gridX point.properties.gridY client with
    | none => none
    | some (.error error, client) => some (.error error, client)
    | some (.ok stations, client) =>
      match stations.features with
      | [] => some (.error noStations, client)
      | nearest :: _ =>
        getLatestObservation env parseRoot config nearest.properties.stationIdentifier client

end Methods

section Calls

/-- A call of a method. -/
inductive Call (D : Type*) where
  | getPoint (input : Points.Input D)
  | getForecast (wfo : Text) (x y : Int32) (units : Option UnitSystem)
  | getForecastHourly (wfo : Text) (x y : Int32) (units : Option UnitSystem)
  | getGridpointStations (wfo : Text) (x y : Int32)
  | getStation (stationId : Text)
  | getObservations (stationId : Text) (params : GetObservationsParams)
  | getLatestObservation (stationId : Text)
  | getAlerts (params : GetAlertsParams)
  | getActiveAlerts (params : GetAlertsParams)
  | getActiveAlertCount
  | getActiveAlertsByArea (area : Text)
  | getActiveAlertsByZone (zoneId : Text)
  | getAlert (id : Text)
  | getAlertTypes
  | getGridpoint (wfo : Text) (x y : Int32)
  | getZone (type zoneId : Text)
  | getZoneForecast (type zoneId : Text)
  | getGlossary
  | getLatestProduct (typeId locationId : Text)
  | getProduct (productId : Text)
  | getForecastForLocation (input : Points.Input D) (units : Option UnitSystem)
  | getCurrentWeather (input : Points.Input D)

inductive Reply (D : Type*) where
  | point (result : Result (PointResponse D))
  | forecast (result : Result (ForecastResponse D))
  | stations (result : Result (StationCollectionResponse D))
  | station (result : Result (StationResponse D))
  | observations (result : Result (ObservationCollectionResponse D))
  | observation (result : Result (ObservationResponse D))
  | alerts (result : Result (AlertCollectionResponse D))
  | alertCount (result : Result AlertActiveCount)
  | alert (result : Result (AlertFeature D))
  | alertTypes (result : Result (List Text))
  | gridpoint (result : Result (GridpointResponse D))
  | zone (result : Result (ZoneFeature D))
  | zoneForecast (result : Result ZoneForecastProperties)
  | glossary (result : Result GlossaryResponse)
  | product (result : Result ProductProperties)

variable [JsonDouble D] {σ : Type*} (env : Env σ) (parseRoot : Text → Result (Json D))
  (config : Points.Config)

def perform (call : Call D) (client : Client σ D) : Option (Reply D × Client σ D) :=
  match call with
  | .getPoint input => (getPoint env parseRoot config input client).map (Prod.map .point id)
  | .getForecast wfo x y units =>
    (getForecast env parseRoot config wfo x y units client).map (Prod.map .forecast id)
  | .getForecastHourly wfo x y units =>
    (getForecastHourly env parseRoot config wfo x y units client).map (Prod.map .forecast id)
  | .getGridpointStations wfo x y =>
    (getGridpointStations env parseRoot config wfo x y client).map (Prod.map .stations id)
  | .getStation stationId =>
    (getStation env parseRoot config stationId client).map (Prod.map .station id)
  | .getObservations stationId params =>
    (getObservations env parseRoot config stationId params client).map (Prod.map .observations id)
  | .getLatestObservation stationId =>
    (getLatestObservation env parseRoot config stationId client).map (Prod.map .observation id)
  | .getAlerts params => (getAlerts env parseRoot config params client).map (Prod.map .alerts id)
  | .getActiveAlerts params =>
    (getActiveAlerts env parseRoot config params client).map (Prod.map .alerts id)
  | .getActiveAlertCount =>
    (getActiveAlertCount env parseRoot config client).map (Prod.map .alertCount id)
  | .getActiveAlertsByArea area =>
    (getActiveAlertsByArea env parseRoot config area client).map (Prod.map .alerts id)
  | .getActiveAlertsByZone zoneId =>
    (getActiveAlertsByZone env parseRoot config zoneId client).map (Prod.map .alerts id)
  | .getAlert alertId => (getAlert env parseRoot config alertId client).map (Prod.map .alert id)
  | .getAlertTypes => (getAlertTypes env parseRoot config client).map (Prod.map .alertTypes id)
  | .getGridpoint wfo x y =>
    (getGridpoint env parseRoot config wfo x y client).map (Prod.map .gridpoint id)
  | .getZone type zoneId =>
    (getZone env parseRoot config type zoneId client).map (Prod.map .zone id)
  | .getZoneForecast type zoneId =>
    (getZoneForecast env parseRoot config type zoneId client).map (Prod.map .zoneForecast id)
  | .getGlossary => (getGlossary env parseRoot config client).map (Prod.map .glossary id)
  | .getLatestProduct typeId locationId =>
    (getLatestProduct env parseRoot config typeId locationId client).map (Prod.map .product id)
  | .getProduct productId =>
    (getProduct env parseRoot config productId client).map (Prod.map .product id)
  | .getForecastForLocation input units =>
    (getForecastForLocation env parseRoot config input units client).map (Prod.map .forecast id)
  | .getCurrentWeather input =>
    (getCurrentWeather env parseRoot config input client).map (Prod.map .observation id)

/-- Calls one after the other: their replies, in order, and the client after them. -/
def run : List (Call D) → Client σ D → Option (List (Reply D) × Client σ D)
  | [], client => some ([], client)
  | call :: calls, client =>
    match perform env parseRoot config call client with
    | none => none
    | some (reply, client) => (run calls client).map (Prod.map (reply :: ·) id)

end Calls

end NWSClient

end NwsCpp
