import NwsCpp.CacheCoherence
import NwsCpp.Coordinates
import NwsCpp.DoGet

/-! `get_point`: the cached lookup of a point over the request protocol. -/

namespace NwsCpp

open Bytes

/-- The header name compared in lower case. -/
def getCorrelationId (response : HttpResponse) : Text :=
  let lower := fun c : Byte => if isupper c then c + 32 else c
  match response.headers.find? (fun header => header.1.map lower == ascii "x-correlation-id") with
  | some header => header.2
  | none => []

/-- What the client reads bodies with: the JSON reader of problem details and the
decoder of a point. -/
structure Readers (P : Type*) where
  problem : Text → Option ProblemDetails
  point : Text → Result P

variable {P : Type*}

def bodyOrError (readers : Readers P) : Result HttpResponse → Result Text
  | .error error => .error error
  | .ok response =>
    if response.statusCode ≠ 200 then
      .error (Error.fromResponse readers.problem response.statusCode.toInt response.body
        (getCorrelationId response))
    else .ok response.body

namespace Points

structure Config where
  retry : RetryPolicy := {}
  cache : LruCache.Config := {}
  enableCache : Bool := false

variable {σ D : Type*} [Double D]

/-- The part of the client that `get_point` uses; the cache comes with its history. -/
structure Client (σ D P : Type*) [Double D] where
  request : Request.Client σ
  cache : Option (LruCache.Run (CoordinateKey D) P)

def Client.init (config : Config) (world : σ) : Client σ D P where
  request := ⟨world, []⟩
  cache := if config.enableCache then some {} else none

/-- One call: the coordinates and the clock at the lookup and at the store. -/
structure Input (D : Type*) where
  latitude : D
  longitude : D
  lookedUp : Int
  stored : Int

def Input.key (input : Input D) : CoordinateKey D := ⟨input.latitude, input.longitude⟩

def Input.invalid (input : Input D) : Bool :=
  !Double.isfinite input.latitude || !Double.isfinite input.longitude ||
    Double.lt input.latitude (Double.ofInt (-90)) || Double.lt (Double.ofInt 90) input.latitude ||
    Double.lt input.longitude (Double.ofInt (-180)) || Double.lt (Double.ofInt 180) input.longitude

def Input.path (input : Input D) : Text :=
  ascii "/points/" ++ Double.format input.latitude ++ ascii "," ++ Double.format input.longitude

def invalidCoordinates : Error :=
  Error.invalidRequest (ascii "Coordinates must be finite and within latitude/longitude bounds")

variable (env : Env σ) (readers : Readers P) (config : Config)

/-- The request of a point, and the store of what it brought. -/
def fetchPoint (input : Input D) (client : Client σ D P) : Option (Result P × Client σ D P) :=
  match Request.doGet env config.retry input.path client.request with
  | none => none
  | some (reply, request) =>
    match bodyOrError readers reply with
    | .error error => some (.error error, { client with request })
    | .ok body =>
      match readers.point body with
      | .error error => some (.error error, { client with request })
      | .ok response =>
        some (.ok response,
          { request
            cache := client.cache.map fun cache =>
              cache.call config.cache input.stored (.put input.key response none) })

def getPoint (input : Input D) (client : Client σ D P) : Option (Result P × Client σ D P) :=
  if input.invalid then some (.error invalidCoordinates, client)
  else
    match client.cache with
    | none => fetchPoint env readers config input client
    | some cache =>
      let looked := cache.call config.cache input.lookedUp (.get input.key)
      match (LruCache.get config.cache input.key input.lookedUp cache.state).1 with
      | some response => some (.ok response, { client with cache := some looked })
      | none => fetchPoint env readers config input { client with cache := some looked }

structure Record (D P : Type*) where
  input : Input D
  events : List Request.Event
  result : Result P

/-- A client with its calls of `get_point`, the latest first. -/
structure Session (σ D P : Type*) [Double D] where
  client : Client σ D P
  records : List (Record D P) := []

def Session.call (session : Session σ D P) (input : Input D) : Option (Session σ D P) :=
  (getPoint env readers config input session.client).map fun result =>
    { client := result.2
      records := ⟨input, result.2.request.trace.drop session.client.request.trace.length,
        result.1⟩ :: session.records }

def run (session : Session σ D P) (inputs : List (Input D)) : Option (Session σ D P) :=
  inputs.foldlM (fun session input => session.call env readers config input) session

def fetched (events : List Request.Event) : Option P :=
  match (Request.calls events).getLast? with
  | some (.ok response) =>
    if response.statusCode = 200 then (readers.point response.body).toOption else none
  | _ => none

/-- The latest point fetched for coordinates equal to `key`, and when it was stored. -/
def latest (key : CoordinateKey D) : List (Record D P) → Option (P × Int)
  | [] => none
  | record :: rest =>
    match fetched readers record.events with
    | some response =>
      if record.input.key == key then some (response, record.input.stored) else latest key rest
    | none => latest key rest

end Points

end NwsCpp
