import NwsCpp.HttpClient
import NwsCpp.Folds

/-! The limit on the response body over every sequence of writes, and over a request. -/

namespace NwsCpp

open Bytes

namespace ResponseSink

def WithinLimit (sink : ResponseSink) : Prop :=
  sink.limit = 0 ∨ sink.response.body.length ≤ sink.limit.toNat

/-- The write would push the body past the limit. -/
def Exceeds (sink : ResponseSink) (d : Delivery) : Prop :=
  0 < sink.limit.toNat ∧ d.byteCount < 2 ^ 64 ∧
    sink.limit.toNat < sink.response.body.length + d.byteCount

def append (sink : ResponseSink) (text : Text) : ResponseSink :=
  { sink with response := { sink.response with body := sink.response.body ++ text } }

variable {sink : ResponseSink} {d : Delivery}

theorem toNat_limit_sub (h : sink.response.body.length ≤ sink.limit.toNat) :
    (sink.limit - UInt64.ofNat sink.response.body.length).toNat =
      sink.limit.toNat - sink.response.body.length := by
  have hlimit := sink.limit.toNat_lt
  rw [UInt64.toNat_sub, UInt64.toNat_ofNat']
  omega

theorem exceeds_iff (hwithin : sink.WithinLimit) (hfits : ¬d.Overflows) :
    (sink.limit > 0 ∧ d.size * d.count > sink.limit - UInt64.ofNat sink.response.body.length) ↔
      sink.Exceeds d := by
  have hbytes := Delivery.toNat_mul hfits
  rw [Delivery.overflows_iff] at hfits
  rw [Exceeds, gt_iff_lt, gt_iff_lt, UInt64.lt_iff_toNat_lt, UInt64.lt_iff_toNat_lt, hbytes,
    UInt64.toNat_zero]
  rcases hwithin with hzero | hle
  · simp [hzero]
  · rw [toNat_limit_sub hle]
    omega

end ResponseSink

open ResponseSink

variable {sink : ResponseSink} {d : Delivery}

theorem writeCallback_of_overflows (h : d.Overflows) : writeCallback d sink = (0, sink) := if_pos h

theorem writeCallback_of_exceeds (hwithin : sink.WithinLimit) (h : sink.Exceeds d) :
    writeCallback d sink = (0, { sink with overflowed := true }) := by
  have hfits : ¬d.Overflows := by
    rw [Delivery.overflows_iff]
    exact not_le.mpr h.2.1
  rw [writeCallback, if_neg hfits, if_pos ((exceeds_iff hwithin hfits).mpr h)]

theorem writeCallback_of_fits (hwithin : sink.WithinLimit) (hfits : ¬d.Overflows)
    (h : ¬sink.Exceeds d) :
    writeCallback d sink =
      if d.allocates then (d.size * d.count, sink.append d.chunk) else (0, sink) := by
  rw [writeCallback, if_neg hfits, if_neg (mt (exceeds_iff hwithin hfits).mp h),
    Delivery.toNat_mul hfits]
  rfl

theorem writeCallback_cases (hwithin : sink.WithinLimit) :
    (sink.Exceeds d ∧ writeCallback d sink = (0, { sink with overflowed := true })) ∨
    (¬sink.Exceeds d ∧ writeCallback d sink = (0, sink)) ∨
    (¬sink.Exceeds d ∧ ¬d.Overflows ∧
      writeCallback d sink = (d.size * d.count, sink.append d.chunk)) := by
  by_cases hover : d.Overflows
  · have hnot : ¬sink.Exceeds d := fun h => by
      rw [Delivery.overflows_iff] at hover
      exact absurd h.2.1 (not_lt.mpr hover)
    exact .inr (.inl ⟨hnot, writeCallback_of_overflows hover⟩)
  · by_cases hexceeds : sink.Exceeds d
    · exact .inl ⟨hexceeds, writeCallback_of_exceeds hwithin hexceeds⟩
    · rw [writeCallback_of_fits hwithin hover hexceeds]
      by_cases halloc : d.allocates = true
      · exact .inr (.inr ⟨hexceeds, hover, if_pos halloc⟩)
      · exact .inr (.inl ⟨hexceeds, if_neg halloc⟩)

def write (sink : ResponseSink) (d : Delivery) : ResponseSink := (writeCallback d sink).2

theorem withinLimit_append (hwithin : sink.WithinLimit) (hfits : ¬d.Overflows)
    (h : ¬sink.Exceeds d) : (sink.append d.chunk).WithinLimit := by
  rcases hwithin with hzero | hle
  · exact .inl hzero
  · by_cases hpos : 0 < sink.limit.toNat
    · right
      rw [Delivery.overflows_iff] at hfits
      have hroom := mt (fun hlt => (⟨hpos, by omega, hlt⟩ : sink.Exceeds d)) h
      simp only [append, List.length_append, Delivery.length_chunk]
      omega
    · have hzero : sink.limit = 0 := by
        rw [← UInt64.toNat_inj, UInt64.toNat_zero]
        omega
      exact .inl hzero

theorem limit_write (sink : ResponseSink) (d : Delivery) : (write sink d).limit = sink.limit := by
  simp only [write, writeCallback]
  split_ifs <;> rfl

theorem withinLimit_write (hwithin : sink.WithinLimit) : (write sink d).WithinLimit := by
  rcases writeCallback_cases (d := d) hwithin with ⟨-, h⟩ | ⟨-, h⟩ | ⟨hroom, hfits, h⟩
  · rw [write, h]
    exact hwithin
  · rw [write, h]
    exact hwithin
  · rw [write, h]
    exact withinLimit_append hwithin hfits hroom

/-- The deliveries whose write returned the number of their bytes. -/
def accepted : ResponseSink → List Delivery → List Delivery
  | _, [] => []
  | sink, d :: ds =>
    let result := writeCallback d sink
    if result.1.toNat = d.byteCount then d :: accepted result.2 ds else accepted result.2 ds

theorem withinLimit_writes (hwithin : sink.WithinLimit) (ds : List Delivery) :
    (ds.foldl write sink).WithinLimit :=
  List.foldlRecOn ds write hwithin fun _ h _ _ => withinLimit_write h

theorem limit_writes (sink : ResponseSink) (ds : List Delivery) :
    (ds.foldl write sink).limit = sink.limit :=
  List.foldlRecOn (motive := fun s => s.limit = sink.limit) ds write rfl
    fun s h d _ => (limit_write s d).trans h

theorem body_write (hwithin : sink.WithinLimit) :
    (write sink d).response.body = sink.response.body ++
      if (writeCallback d sink).1.toNat = d.byteCount then d.chunk else [] := by
  have hnil (h : (0 : UInt64).toNat = d.byteCount) : d.chunk = [] :=
    List.length_eq_zero_iff.mp (d.length_chunk.trans h.symm)
  have hnothing : (if (0 : UInt64).toNat = d.byteCount then d.chunk else []) = [] := by
    split_ifs with h
    · exact hnil h
    · rfl
  rcases writeCallback_cases (d := d) hwithin with ⟨-, h⟩ | ⟨-, h⟩ | ⟨-, hfits, h⟩
  · rw [write, h, hnothing, List.append_nil]
  · rw [write, h, hnothing, List.append_nil]
  · rw [write, h, if_pos (Delivery.toNat_mul hfits)]
    rfl

theorem body_writes (hwithin : sink.WithinLimit) (ds : List Delivery) :
    (ds.foldl write sink).response.body =
      sink.response.body ++ (accepted sink ds).flatMap Delivery.chunk := by
  induction ds generalizing sink with
  | nil => rw [accepted, List.flatMap_nil, List.append_nil]; rfl
  | cons d ds ih =>
    rw [List.foldl_cons, ih (withinLimit_write hwithin), body_write hwithin, accepted]
    by_cases h : (writeCallback d sink).1.toNat = d.byteCount
    · simp [h, write]
    · simp [h, write]

theorem overflowed_write (hwithin : sink.WithinLimit) :
    (write sink d).overflowed = true ↔ sink.overflowed = true ∨ sink.Exceeds d := by
  rcases writeCallback_cases (d := d) hwithin with ⟨hex, h⟩ | ⟨hex, h⟩ | ⟨hex, -, h⟩
  · simp [write, h, hex]
  · simp [write, h, hex]
  · simp [write, h, hex, append]

theorem body_write_of_exceeds (hwithin : sink.WithinLimit) (h : sink.Exceeds d) :
    (write sink d).response.body = sink.response.body := by
  rw [write, writeCallback_of_exceeds hwithin h]

/-- What the event adds to the body of the response in full. -/
def CurlEvent.bodyText : CurlEvent → Text
  | .header _ => []
  | .body d => d.chunk

def Transfer.bodyText (transfer : Transfer) : Text := transfer.events.flatMap CurlEvent.bodyText

/-- The callback has what it needs to take the bytes. -/
def CurlEvent.Sound (event : CurlEvent) : Prop :=
  ¬event.delivery.Overflows ∧ event.delivery.allocates = true

/-- There is room for a text after the body. -/
def ResponseSink.Room (sink : ResponseSink) (text : Text) : Prop :=
  sink.limit = 0 ∨ sink.response.body.length + text.length ≤ sink.limit.toNat

theorem not_exceeds_iff_room (hfits : ¬d.Overflows) : ¬sink.Exceeds d ↔ sink.Room d.chunk := by
  rw [Delivery.overflows_iff] at hfits
  rw [Exceeds, Room, Delivery.length_chunk, ← UInt64.toNat_inj, UInt64.toNat_zero]
  omega

theorem headerCallback_of_sound (sink : ResponseSink) (hfits : ¬d.Overflows) (halloc : d.allocates = true) :
    ∃ headers, headerCallback d sink =
      (d.size * d.count, { sink with response := { sink.response with headers } }) := by
  rw [headerCallback, if_neg hfits]
  simp only [halloc, if_true]
  split <;> split_ifs <;> exact ⟨_, rfl⟩

namespace Curl

variable {event : CurlEvent} {events : List CurlEvent}

theorem callback_of_room (hwithin : sink.WithinLimit) (hsound : event.Sound)
    (hroom : sink.Room event.bodyText) :
    (callback event sink).1.toNat = event.delivery.byteCount ∧
      (callback event sink).2.limit = sink.limit ∧
      (callback event sink).2.overflowed = sink.overflowed ∧
      (callback event sink).2.response.body = sink.response.body ++ event.bodyText := by
  cases event with
  | header d =>
    obtain ⟨hfits, halloc⟩ : ¬d.Overflows ∧ d.allocates = true := hsound
    obtain ⟨headers, hcall⟩ := headerCallback_of_sound sink hfits halloc
    rw [callback, hcall]
    exact ⟨Delivery.toNat_mul hfits, rfl, rfl, (List.append_nil _).symm⟩
  | body d =>
    obtain ⟨hfits, halloc⟩ : ¬d.Overflows ∧ d.allocates = true := hsound
    have hcall := writeCallback_of_fits hwithin hfits ((not_exceeds_iff_room hfits).mpr hroom)
    rw [if_pos halloc] at hcall
    rw [callback, hcall]
    exact ⟨Delivery.toNat_mul hfits, rfl, rfl, rfl⟩

theorem deliver_of_room (hsound : ∀ event ∈ events, event.Sound)
    (hroom : sink.Room (events.flatMap CurlEvent.bodyText)) :
    (deliver events sink).1 = true ∧
      (deliver events sink).2.overflowed = sink.overflowed ∧
      (deliver events sink).2.response.body =
        sink.response.body ++ events.flatMap CurlEvent.bodyText := by
  induction events generalizing sink with
  | nil => exact ⟨rfl, rfl, (List.append_nil _).symm⟩
  | cons event events ih =>
    rw [List.flatMap_cons, Room, List.length_append] at hroom
    have hwithin : sink.WithinLimit := hroom.imp_right (by omega)
    obtain ⟨htaken, hlimit, hflag, hbody⟩ := callback_of_room hwithin
      (hsound event (List.mem_cons_self ..)) (hroom.imp_right (by omega))
    have hnext : (callback event sink).2.Room (events.flatMap CurlEvent.bodyText) := by
      rw [Room, hlimit, hbody, List.length_append]
      exact hroom.imp_right (by omega)
    rw [deliver, if_pos htaken, List.flatMap_cons, ← List.append_assoc, ← hbody, ← hflag]
    exact ih (fun e he => hsound e (List.mem_cons_of_mem _ he)) hnext

theorem deliver_of_not_room (hwithin : sink.WithinLimit)
    (hsound : ∀ event ∈ events, event.Sound)
    (hroom : ¬sink.Room (events.flatMap CurlEvent.bodyText)) :
    (deliver events sink).2.overflowed = true := by
  induction events generalizing sink with
  | nil => exact (hroom hwithin).elim
  | cons event events ih =>
    have hevent := hsound event (List.mem_cons_self ..)
    by_cases hfirst : sink.Room event.bodyText
    · obtain ⟨htaken, hlimit, -, hbody⟩ := callback_of_room hwithin hevent hfirst
      rw [deliver, if_pos htaken]
      refine ih ?_ (fun e he => hsound e (List.mem_cons_of_mem _ he)) ?_
      · rw [WithinLimit, hlimit, hbody, List.length_append]
        exact hfirst
      · rw [List.flatMap_cons, Room, List.length_append, ← Nat.add_assoc] at hroom
        rw [Room, hlimit, hbody, List.length_append]
        exact hroom
    · cases event with
      | header d => exact (hfirst hwithin).elim
      | body d =>
        have hfits : ¬d.Overflows := hevent.1
        have hexceeds : sink.Exceeds d := of_not_not (mt (not_exceeds_iff_room hfits).mp hfirst)
        have hshort : (0 : UInt64).toNat ≠ d.byteCount := fun hzero => by
          refine hfirst (hwithin.imp_right fun hle => ?_)
          rw [CurlEvent.bodyText, Delivery.length_chunk, ← hzero]
          exact hle
        rw [deliver, callback, writeCallback_of_exceeds hwithin hexceeds, CurlEvent.delivery,
          if_neg hshort]

end Curl

namespace HttpClient

variable {curl : Curl} {config : ClientConfig} {path : Text}

/-- The transfer of a request. -/
def transfer (curl : Curl) (config : ClientConfig) (path : Text) : Transfer :=
  curl.transfer (options config (config.baseUrl ++ path))

/-- Nothing fails in a request but, maybe, the limit. -/
structure Undisturbed (curl : Curl) (config : ClientConfig) (path : Text) : Prop where
  handle : curl.handle = true
  valid : invalidRequest config (config.baseUrl ++ path) = false
  headers : curl.slistAppend (ascii "Accept: " ++ config.accept) = true
  configured : (options config (config.baseUrl ++ path)).all curl.setopt = true
  sound : ∀ event ∈ (transfer curl config path).events, event.Sound
  code : (transfer curl config path).code = 0
  status : (transfer curl config path).status ≠ none

/-- Such a request returns the whole body, or, when it passes the limit, an error. -/
theorem get_of_undisturbed (h : Undisturbed curl config path) :
    if config.maxResponseBytes = 0 ∨
        (transfer curl config path).bodyText.length ≤ config.maxResponseBytes.toNat then
      ∃ response, get curl config path = .ok response ∧
        response.body = (transfer curl config path).bodyText
    else ∃ error, get curl config path = .error error := by
  obtain ⟨status, hstatus⟩ := Option.ne_none_iff_exists'.mp h.status
  have hcode := h.code
  rw [transfer] at hstatus hcode
  let sink : ResponseSink := { limit := config.maxResponseBytes }
  have hroom : sink.Room (transfer curl config path).bodyText ↔ config.maxResponseBytes = 0 ∨
      (transfer curl config path).bodyText.length ≤ config.maxResponseBytes.toNat := by
    rw [Room, show sink.response.body.length = 0 from rfl, Nat.zero_add]
  by_cases hfits : sink.Room (transfer curl config path).bodyText
  · obtain ⟨htaken, hflag, hbody⟩ := Curl.deliver_of_room h.sound hfits
    rw [if_pos (hroom.mp hfits)]
    refine ⟨{ (Curl.deliver (transfer curl config path).events sink).2.response with
      statusCode := Int16.ofInt status }, ?_, hbody⟩
    rw [transfer] at htaken hflag
    simp [get, h.handle, h.valid, h.headers, h.configured, Curl.perform, sink, htaken, hflag,
      hstatus, hcode, transfer]
  · have hflag := Curl.deliver_of_not_room (.inr (Nat.zero_le _)) h.sound hfits
    rw [if_neg (mt hroom.mpr hfits)]
    refine ⟨Error.invalidRequest
      (ascii "Response exceeded ClientConfig::max_response_bytes"), ?_⟩
    rw [transfer] at hflag
    simp [get, h.handle, h.valid, h.headers, h.configured, Curl.perform, sink, hflag]

theorem get_body_iff (h : Undisturbed curl config path) :
    (∃ response, get curl config path = .ok response ∧
        response.body = (transfer curl config path).bodyText) ↔
      config.maxResponseBytes = 0 ∨
        (transfer curl config path).bodyText.length ≤ config.maxResponseBytes.toNat := by
  have hget := get_of_undisturbed h
  constructor
  · rintro ⟨response, hok, -⟩
    by_contra hfits
    rw [if_neg hfits] at hget
    obtain ⟨error, herror⟩ := hget
    rw [hok] at herror
    cases herror
  · intro hfits
    rwa [if_pos hfits] at hget

end HttpClient

/-- The writes of a transfer from an empty sink on. -/
def writes (limit : UInt64) (ds : List Delivery) : ResponseSink := ds.foldl write { limit }

/-- The limit on the body is exact, and a request returns the whole body or none of it. -/
theorem body_limit (limit : UInt64) (ds : List Delivery) :
    (writes limit ds).response.body = (accepted { limit } ds).flatMap Delivery.chunk ∧
      (0 < limit → (writes limit ds).response.body.length ≤ limit.toNat ∧
        (limit - UInt64.ofNat (writes limit ds).response.body.length).toNat =
          limit.toNat - (writes limit ds).response.body.length) ∧
      ((writes limit ds).overflowed = true ↔ ∃ pre d post, ds = pre ++ d :: post ∧
        0 < limit.toNat ∧ d.byteCount < 2 ^ 64 ∧
          limit.toNat < (writes limit pre).response.body.length + d.byteCount) ∧
      (∀ pre d post, ds = pre ++ d :: post → 0 < limit.toNat → d.byteCount < 2 ^ 64 →
        limit.toNat < (writes limit pre).response.body.length + d.byteCount →
          (writes limit (pre ++ [d])).response.body = (writes limit pre).response.body) ∧
      (limit = 0 → (writes limit ds).overflowed = false) ∧
      ∀ curl config path, HttpClient.Undisturbed curl config path →
        ((∃ response, HttpClient.get curl config path = .ok response ∧
            response.body = (HttpClient.transfer curl config path).bodyText) ↔
          config.maxResponseBytes = 0 ∨
            (HttpClient.transfer curl config path).bodyText.length ≤
              config.maxResponseBytes.toNat) := by
  have hempty : ({ limit } : ResponseSink).WithinLimit := .inr (Nat.zero_le _)
  have hlimit (ds : List Delivery) : (writes limit ds).limit = limit := limit_writes _ ds
  have hwithin (ds : List Delivery) : (writes limit ds).WithinLimit := withinLimit_writes hempty ds
  have hflag : (writes limit ds).overflowed = true ↔ ∃ pre d post, ds = pre ++ d :: post ∧
      (writes limit pre).Exceeds d := by
    refine (Folds.foldl_flag_iff (fun sink : ResponseSink => sink.overflowed = true)
      (fun _ _ => withinLimit_write) (fun _ _ => overflowed_write) hempty ds).trans ?_
    simp [writes]
  have hexceeds (pre : List Delivery) (d : Delivery) : (writes limit pre).Exceeds d ↔
      0 < limit.toNat ∧ d.byteCount < 2 ^ 64 ∧
        limit.toNat < (writes limit pre).response.body.length + d.byteCount := by
    rw [Exceeds, hlimit]
  refine ⟨body_writes hempty ds, ?_, ?_, ?_, ?_, fun _ _ _ => HttpClient.get_body_iff⟩
  · intro hpos
    have hle : (writes limit ds).response.body.length ≤ (writes limit ds).limit.toNat := by
      refine (hwithin ds).resolve_left fun hzero => ?_
      rw [hlimit] at hzero
      exact absurd hpos (by rw [hzero]; decide)
    have hsub := toNat_limit_sub hle
    rw [hlimit] at hle hsub
    exact ⟨hle, hsub⟩
  · simp only [hflag, hexceeds]
  · intro pre d post _ hpos hfits hover
    rw [writes, List.foldl_append]
    exact body_write_of_exceeds (hwithin pre) ((hexceeds pre d).mpr ⟨hpos, hfits, hover⟩)
  · intro hzero
    rw [Bool.eq_false_iff, Ne, hflag]
    rintro ⟨pre, d, -, -, hd⟩
    have hpos := ((hexceeds pre d).mp hd).1
    rw [hzero] at hpos
    exact absurd hpos (by decide)

def abcDelivery : Delivery where
  data i := (ascii "abc").getD i 0
  size := 1
  count := 3

def abcCurl : Curl where
  handle := true
  slistAppend _ := true
  setopt _ := true
  transfer _ := { events := [.body abcDelivery], code := 0, status := some 200 }
  strerror _ := []

theorem undisturbed_abc (limit : UInt64) :
    HttpClient.Undisturbed abcCurl { maxResponseBytes := limit } [] where
  handle := rfl
  valid := rfl
  headers := rfl
  configured := by simp [abcCurl]
  sound event h := by
    obtain rfl : event = .body abcDelivery := by simpa [HttpClient.transfer, abcCurl] using h
    exact ⟨by decide, rfl⟩
  code := rfl
  status := by simp [HttpClient.transfer, abcCurl]

theorem body_limit_three :
    (∃ response, HttpClient.get abcCurl { maxResponseBytes := 3 } [] = .ok response ∧
        response.body = ascii "abc") ∧
      ¬∃ response, HttpClient.get abcCurl { maxResponseBytes := 2 } [] = .ok response ∧
        response.body = ascii "abc" := by
  have hthree := (body_limit 3 [abcDelivery]).2.2.2.2.2 _ _ _ (undisturbed_abc 3)
  have htwo := (body_limit 2 [abcDelivery]).2.2.2.2.2 _ _ _ (undisturbed_abc 2)
  exact ⟨hthree.mpr (by decide), mt htwo.mp (by decide)⟩

end NwsCpp
