import NwsCpp.Retry

/-! The callbacks that libcurl runs during a transfer, and the request around them. A
`size_t` is 64 bits wide. -/

namespace NwsCpp

open Bytes

/-- What libcurl hands to a callback, as the memory from the pointer on and two factors of
the length, and whether the allocation that the callback makes succeeds. -/
structure Delivery where
  data : Nat → Byte
  size : UInt64
  count : UInt64
  allocates : Bool := true

namespace Delivery

def byteCount (d : Delivery) : Nat := d.size.toNat * d.count.toNat

def take (d : Delivery) (n : Nat) : Text := (List.range n).map d.data

/-- All the bytes that are handed over. -/
def chunk (d : Delivery) : Text := d.take d.byteCount

/-- The test of both callbacks before they multiply. -/
def Overflows (d : Delivery) : Prop := d.size ≠ 0 ∧ d.count > UInt64.ofNat (2 ^ 64 - 1) / d.size

instance (d : Delivery) : Decidable d.Overflows := inferInstanceAs (Decidable (_ ∧ _))

variable {d : Delivery}

theorem length_chunk (d : Delivery) : d.chunk.length = d.byteCount := by
  rw [chunk, take, List.length_map, List.length_range]

theorem overflows_iff : d.Overflows ↔ 2 ^ 64 ≤ d.byteCount := by
  rw [Overflows, byteCount]
  by_cases hsize : d.size = 0
  · simp [hsize]
  · have hpos : 0 < d.size.toNat := by
      rw [Nat.pos_iff_ne_zero, Ne, ← UInt64.toNat_zero, UInt64.toNat_inj]
      exact hsize
    have hmax : (UInt64.ofNat (2 ^ 64 - 1)).toNat = 2 ^ 64 - 1 := rfl
    rw [gt_iff_lt, UInt64.lt_iff_toNat_lt, UInt64.toNat_div, hmax, Nat.div_lt_iff_lt_mul hpos,
      Nat.mul_comm]
    exact ⟨fun h => by omega, fun h => ⟨hsize, by omega⟩⟩

theorem toNat_mul (h : ¬d.Overflows) : (d.size * d.count).toNat = d.byteCount := by
  rw [overflows_iff] at h
  rw [UInt64.toNat_mul]
  exact Nat.mod_eq_of_lt (by rw [byteCount] at h; omega)

end Delivery

structure ResponseSink where
  response : HttpResponse := { statusCode := 0, body := [] }
  limit : UInt64
  overflowed : Bool := false

def writeCallback (d : Delivery) (sink : ResponseSink) : UInt64 × ResponseSink :=
  if d.Overflows then (0, sink)
  else
    let bytes := d.size * d.count
    if sink.limit > 0 ∧ bytes > sink.limit - UInt64.ofNat sink.response.body.length then
      (0, { sink with overflowed := true })
    else if d.allocates then
      let body := sink.response.body ++ d.take bytes.toNat
      (bytes, { sink with response := { sink.response with body } })
    else (0, sink)

/-- Space, tab, carriage return and line feed. -/
def isHeaderSpace (c : Byte) : Bool := c == 32 || c == 9 || c == 13 || c == 10

def findFirstNotOf (p : Byte → Bool) (s : Text) : Option Nat := s.findIdx? fun c => !p c

def findLastNotOf (p : Byte → Bool) (s : Text) : Option Nat :=
  (findFirstNotOf p s.reverse).map fun i => s.length - 1 - i

/-- The value of a header line from what follows the colon. -/
def headerValue (raw : Text) : Text :=
  match findFirstNotOf isHeaderSpace raw, findLastNotOf isHeaderSpace raw with
  | some start, some last => substr raw start (last - start + 1)
  | _, _ => []

def headerCallback (d : Delivery) (sink : ResponseSink) : UInt64 × ResponseSink :=
  if d.Overflows then (0, sink)
  else
    let bytes := d.size * d.count
    let line := d.take bytes.toNat
    let sink :=
      if (ascii "HTTP/").isPrefixOf line then
        { sink with response := { sink.response with headers := [] } }
      else sink
    match line.findIdx? (· == 58) with
    | some colon =>
      if d.allocates then
        let header := (line.take colon, headerValue (line.drop (colon + 1)))
        let headers := sink.response.headers ++ [header]
        (bytes, { sink with response := { sink.response with headers } })
      else (0, sink)
    | none => (bytes, sink)

structure ClientConfig where
  baseUrl : Text := ascii "https://api.weather.gov"
  userAgent : Text := []
  accept : Text := ascii "application/geo+json"
  /-- Seconds. -/
  timeout : Int := 30
  verifySsl : Bool := true
  maxResponseBytes : UInt64 := 64 * 1024 * 1024

def invalidHeader (value : Text) : Bool := value.any fun c => c == 13 || c == 10 || c == 0

inductive CurlOption where
  | url (value : Text)
  | protocolsStr (value : Text)
  | redirProtocolsStr (value : Text)
  | writeFunction
  | writeData
  | headerFunction
  | headerData
  | httpHeader (headers : List Text)
  | timeout (seconds : Int)
  | noSignal (value : Int)
  | userAgent (value : Text)
  | acceptEncoding (value : Text)
  | followLocation (value : Int)
  | maxRedirs (value : Int)
  | sslVerifyPeer (value : Int)
  | sslVerifyHost (value : Int)

inductive CurlEvent where
  | header (d : Delivery)
  | body (d : Delivery)

def CurlEvent.delivery : CurlEvent → Delivery
  | .header d => d
  | .body d => d

/-- One transfer: what is delivered, the code it ends with when every callback takes its
bytes, zero for success, and the status of the response. -/
structure Transfer where
  events : List CurlEvent
  code : Nat
  status : Option Int

/-- The calls into libcurl that a request makes. -/
structure Curl where
  handle : Bool
  slistAppend : Text → Bool
  setopt : CurlOption → Bool
  transfer : List CurlOption → Transfer
  strerror : Nat → Text

namespace Curl

def writeError : Nat := 23

def callback : CurlEvent → ResponseSink → UInt64 × ResponseSink
  | .header d => headerCallback d
  | .body d => writeCallback d

/-- The deliveries up to the first callback that returns another number than the bytes it
was given; whether there was none. -/
def deliver : List CurlEvent → ResponseSink → Bool × ResponseSink
  | [], sink => (true, sink)
  | event :: events, sink =>
    let taken := callback event sink
    if taken.1.toNat = event.delivery.byteCount then deliver events taken.2
    else (false, taken.2)

def perform (transfer : Transfer) (sink : ResponseSink) : Nat × ResponseSink :=
  let delivered := deliver transfer.events sink
  (if delivered.1 then transfer.code else writeError, delivered.2)

end Curl

namespace HttpClient

def options (config : ClientConfig) (url : Text) : List CurlOption :=
  let timeout := min config.timeout (2 ^ 63 - 1)
  let verify : Int := if config.verifySsl then 1 else 0
  [.url url, .protocolsStr (ascii "http,https"), .redirProtocolsStr (ascii "http,https"),
    .writeFunction, .writeData, .headerFunction, .headerData,
    .httpHeader [ascii "Accept: " ++ config.accept], .timeout timeout, .noSignal 1,
    .userAgent config.userAgent, .acceptEncoding [], .followLocation 1, .maxRedirs 10,
    .sslVerifyPeer verify, .sslVerifyHost (verify * 2)]

def invalidRequest (config : ClientConfig) (url : Text) : Bool :=
  url.contains 0 || invalidHeader config.userAgent || invalidHeader config.accept ||
    decide (config.timeout < 0)

def get (curl : Curl) (config : ClientConfig) (path : Text) : Result HttpResponse :=
  if !curl.handle then .error (Error.network (ascii "CURL not initialized"))
  else
    let url := config.baseUrl ++ path
    if invalidRequest config url then
      .error (Error.invalidRequest (ascii "Invalid URL, header, or timeout"))
    else if !curl.slistAppend (ascii "Accept: " ++ config.accept) then
      .error (Error.network (ascii "Could not allocate HTTP headers"))
    else if !(options config url).all curl.setopt then
      .error (Error.network (ascii "libcurl rejected a required option"))
    else
      let transfer := curl.transfer (options config url)
      let (result, sink) := Curl.perform transfer { limit := config.maxResponseBytes }
      if sink.overflowed then
        .error (Error.invalidRequest
          (ascii "Response exceeded ClientConfig::max_response_bytes"))
      else if result ≠ 0 then .error (Error.network (curl.strerror result))
      else
        match transfer.status with
        | none => .error (Error.network (ascii "libcurl did not return HTTP status"))
        | some status => .ok { sink.response with statusCode := Int16.ofInt status }

end HttpClient

end NwsCpp
