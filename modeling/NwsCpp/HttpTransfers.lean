import NwsCpp.BodyLimit
import NwsCpp.HeaderBlocks

/-! When a request is answered, and with what, whatever libcurl delivers in between. -/

namespace NwsCpp

open Bytes

section Callbacks

/-- The length fits a `size_t`, and room was found for what has to be stored. -/
def CurlEvent.Stored : CurlEvent → Prop
  | .header d => ¬d.Overflows ∧ ((58 : Byte) ∈ d.chunk → d.allocates = true)
  | .body d => ¬d.Overflows ∧ (d.byteCount ≠ 0 → d.allocates = true)

/-- The headers once the event is taken. -/
def CurlEvent.headersAfter (headers : List (Text × Text)) : CurlEvent → List (Text × Text)
  | .header d => headerLine headers d.chunk
  | .body _ => headers

namespace ResponseSink

/-- The sink with more of the body, and other headers. -/
def received (sink : ResponseSink) (text : Text) (headers : List (Text × Text)) : ResponseSink :=
  { sink with response := { sink.response with body := sink.response.body ++ text, headers } }

variable {sink : ResponseSink} {text more : Text} {headers : List (Text × Text)}

theorem room_withinLimit (h : sink.Room text) : (sink.received text headers).WithinLimit := by
  rw [WithinLimit, received, List.length_append]
  exact h

theorem room_append (headers : List (Text × Text)) :
    sink.Room (text ++ more) ↔ sink.Room text ∧ (sink.received text headers).Room more := by
  simp only [Room, received, List.length_append]
  by_cases hzero : sink.limit = 0
  · simp [hzero]
  · simp only [hzero, false_or]
    omega

end ResponseSink

open ResponseSink

variable {sink : ResponseSink} {event : CurlEvent} {events : List CurlEvent}

theorem byteCount_ne_zero {d : Delivery} (hover : d.Overflows) : d.byteCount ≠ 0 := by
  rw [Delivery.overflows_iff] at hover
  omega

theorem headerCallback_taken_iff (d : Delivery) (sink : ResponseSink) :
    (headerCallback d sink).1.toNat = d.byteCount ↔ (CurlEvent.header d).Stored := by
  rw [CurlEvent.Stored]
  by_cases hover : d.Overflows
  · rw [headerCallback, if_pos hover]
    simp [hover, (byteCount_ne_zero hover).symm]
  · have hbytes := Delivery.toNat_mul hover
    have hread : d.take (d.size * d.count).toNat = d.chunk := by rw [hbytes, Delivery.chunk]
    rw [headerCallback, if_neg hover]
    simp only [hread, hover, not_false_eq_true, true_and]
    cases hcolon : d.chunk.findIdx? (· == 58) with
    | none =>
      have hnot : (58 : Byte) ∉ d.chunk := fun hmem => by
        simpa using List.findIdx?_eq_none_iff.mp hcolon 58 hmem
      simp [hbytes, hnot]
    | some colon =>
      obtain ⟨hlt, hat, -⟩ := List.findIdx?_eq_some_iff_getElem.mp hcolon
      have hmem : (58 : Byte) ∈ d.chunk := beq_iff_eq.mp hat ▸ List.getElem_mem hlt
      have hpos : d.byteCount ≠ 0 := by
        rw [← d.length_chunk]
        exact (List.length_pos_of_mem hmem).ne'
      cases d.allocates <;> simp [hbytes, hmem, hpos.symm]

theorem writeCallback_taken_iff {d : Delivery} (hwithin : sink.WithinLimit) :
    (writeCallback d sink).1.toNat = d.byteCount ↔
      (CurlEvent.body d).Stored ∧ sink.Room d.chunk := by
  rw [CurlEvent.Stored]
  by_cases hover : d.Overflows
  · rw [writeCallback_of_overflows hover]
    simp [hover, (byteCount_ne_zero hover).symm]
  · have hroom : ¬sink.Exceeds d ↔ sink.Room d.chunk := not_exceeds_iff_room hover
    by_cases hexceeds : sink.Exceeds d
    · have hnot : ¬sink.Room d.chunk := mt hroom.mpr (not_not.mpr hexceeds)
      have hpos : d.byteCount ≠ 0 := fun hzero => hnot <| by
        rw [Room, d.length_chunk, hzero]
        exact hwithin
      rw [writeCallback_of_exceeds hwithin hexceeds]
      simp [hnot, hpos.symm]
    · rw [writeCallback_of_fits hwithin hover hexceeds]
      cases d.allocates with
      | true => simp [Delivery.toNat_mul hover, hover, hroom.mp hexceeds]
      | false => simp [hover, hroom.mp hexceeds, eq_comm]

namespace Curl

theorem callback_taken_iff (hwithin : sink.WithinLimit) :
    (callback event sink).1.toNat = event.delivery.byteCount ↔
      event.Stored ∧ sink.Room event.bodyText := by
  cases event with
  | header d =>
    have hroom : sink.Room (CurlEvent.header d).bodyText := hwithin
    rw [callback, CurlEvent.delivery, headerCallback_taken_iff]
    exact (and_iff_left hroom).symm
  | body d => exact writeCallback_taken_iff hwithin

theorem callback_of_taken (hwithin : sink.WithinLimit)
    (h : (callback event sink).1.toNat = event.delivery.byteCount) :
    (callback event sink).2 =
      sink.received event.bodyText (event.headersAfter sink.response.headers) := by
  cases event with
  | header d =>
    have hheaders := headers_headerCallback h
    have hrest : (headerCallback d sink).2 = { sink with
        response := { sink.response with headers := (headerCallback d sink).2.response.headers } } := by
      simp only [headerCallback]
      split_ifs <;> first | rfl | (split <;> rfl)
    rw [callback, hrest, hheaders]
    simp [received, CurlEvent.bodyText, CurlEvent.headersAfter]
  | body d =>
    obtain ⟨⟨hfits, hstored⟩, hroom⟩ := (writeCallback_taken_iff hwithin).mp h
    rw [callback, writeCallback_of_fits hwithin hfits ((not_exceeds_iff_room hfits).mpr hroom)]
    by_cases halloc : d.allocates = true
    · rw [if_pos halloc]
      rfl
    · have hchunk : d.chunk = [] := by
        rw [← List.length_eq_zero_iff, d.length_chunk]
        exact not_not.mp (mt hstored halloc)
      rw [if_neg halloc]
      simp [received, CurlEvent.bodyText, CurlEvent.headersAfter, hchunk]

/-- All is taken exactly when all could be stored and the body stays within its limit. -/
theorem deliver_eq_true_iff (hwithin : sink.WithinLimit) :
    (deliver events sink).1 = true ↔
      (∀ event ∈ events, event.Stored) ∧ sink.Room (events.flatMap CurlEvent.bodyText) := by
  induction events generalizing sink with
  | nil => exact ⟨fun _ => ⟨by simp, hwithin⟩, fun _ => rfl⟩
  | cons event events ih =>
    rw [deliver, List.forall_mem_cons, List.flatMap_cons]
    by_cases htaken : (callback event sink).1.toNat = event.delivery.byteCount
    · obtain ⟨hstored, hroom⟩ := (callback_taken_iff hwithin).mp htaken
      have hnext := callback_of_taken hwithin htaken
      rw [if_pos htaken, hnext, ih (room_withinLimit hroom), and_assoc,
        room_append (event.headersAfter sink.response.headers)]
      simp [hstored, hroom]
    · rw [if_neg htaken]
      rw [callback_taken_iff hwithin] at htaken
      have hnot : ¬((event.Stored ∧ ∀ event ∈ events, event.Stored) ∧
          sink.Room (event.bodyText ++ events.flatMap CurlEvent.bodyText)) := fun h =>
        htaken ⟨h.1.1, ((room_append sink.response.headers).mp h.2).1⟩
      simpa using hnot

theorem deliver_of_true (hwithin : sink.WithinLimit) (h : (deliver events sink).1 = true) :
    (deliver events sink).2 = sink.received (events.flatMap CurlEvent.bodyText)
      (events.foldl CurlEvent.headersAfter sink.response.headers) := by
  induction events generalizing sink with
  | nil => simp [deliver, received]
  | cons event events ih =>
    rw [deliver] at h ⊢
    by_cases htaken : (callback event sink).1.toNat = event.delivery.byteCount
    · have hroom := ((callback_taken_iff hwithin).mp htaken).2
      have hnext := callback_of_taken hwithin htaken
      rw [if_pos htaken, hnext] at h ⊢
      rw [ih (room_withinLimit hroom) h]
      simp [received]
    · rw [if_neg htaken] at h
      cases h

/-- All is taken up to a part of the body that the limit leaves no room for. -/
def PassesLimit (events : List CurlEvent) (sink : ResponseSink) : Prop :=
  ∃ before d after, events = before ++ .body d :: after ∧ (∀ event ∈ before, event.Stored) ∧
    ¬d.Overflows ∧ sink.Room (before.flatMap CurlEvent.bodyText) ∧
    ¬sink.Room (before.flatMap CurlEvent.bodyText ++ d.chunk)

theorem callback_overflowed_iff (hwithin : sink.WithinLimit) (hflag : sink.overflowed = false) :
    (callback event sink).2.overflowed = true ↔
      ∃ d, event = .body d ∧ ¬d.Overflows ∧ ¬sink.Room d.chunk := by
  cases event with
  | header d =>
    have hsame : (headerCallback d sink).2.overflowed = sink.overflowed := by
      simp only [headerCallback]
      split_ifs <;> first | rfl | (split <;> rfl)
    rw [callback, hsame, hflag]
    simp
  | body d =>
    have hwrite : (write sink d).overflowed = true ↔ sink.overflowed = true ∨ sink.Exceeds d :=
      overflowed_write hwithin
    rw [hflag, write] at hwrite
    rw [callback, hwrite]
    simp only [Bool.false_eq_true, false_or, CurlEvent.body.injEq, exists_eq_left']
    constructor
    · intro hexceeds
      have hfits : ¬d.Overflows := fun hover => by
        rw [Delivery.overflows_iff] at hover
        exact absurd hexceeds.2.1 (not_lt.mpr hover)
      exact ⟨hfits, mt (not_exceeds_iff_room hfits).mpr (not_not.mpr hexceeds)⟩
    · rintro ⟨hfits, hroom⟩
      exact not_not.mp (mt (not_exceeds_iff_room hfits).mp hroom)

theorem deliver_overflowed_iff (hwithin : sink.WithinLimit) (hflag : sink.overflowed = false) :
    (deliver events sink).2.overflowed = true ↔ PassesLimit events sink := by
  induction events generalizing sink with
  | nil => simp [deliver, hflag, PassesLimit]
  | cons event events ih =>
    rw [deliver]
    by_cases htaken : (callback event sink).1.toNat = event.delivery.byteCount
    · obtain ⟨hstored, hroom⟩ := (callback_taken_iff hwithin).mp htaken
      have hnext := callback_of_taken hwithin htaken
      have happend (text : Text) : sink.Room (event.bodyText ++ text) ↔ sink.Room event.bodyText ∧
          (sink.received event.bodyText (event.headersAfter sink.response.headers)).Room text :=
        room_append _
      rw [if_pos htaken, hnext, ih (room_withinLimit hroom) hflag]
      constructor
      · rintro ⟨before, d, after, rfl, hbefore, hfits, hfirst, hpast⟩
        refine ⟨event :: before, d, after, rfl, List.forall_mem_cons.mpr ⟨hstored, hbefore⟩, hfits,
          ?_, ?_⟩
        · rw [List.flatMap_cons, happend]
          exact ⟨hroom, hfirst⟩
        · rw [List.flatMap_cons, List.append_assoc, happend]
          exact fun h => hpast h.2
      · rintro ⟨- | ⟨first, before⟩, d, after, hsplit, hbefore, hfits, hfirst, hpast⟩
        · obtain ⟨rfl, rfl⟩ := List.cons.inj hsplit
          exact absurd hroom hpast
        · obtain ⟨rfl, rfl⟩ := List.cons.inj hsplit
          rw [List.flatMap_cons, happend] at hfirst
          rw [List.flatMap_cons, List.append_assoc, happend] at hpast
          exact ⟨before, d, after, rfl, (List.forall_mem_cons.mp hbefore).2, hfits, hfirst.2,
            fun h => hpast ⟨hroom, h⟩⟩
    · rw [if_neg htaken, callback_overflowed_iff hwithin hflag]
      constructor
      · rintro ⟨d, rfl, hfits, hroom⟩
        exact ⟨[], d, events, rfl, by simp, hfits, hwithin, hroom⟩
      · rintro ⟨- | ⟨first, before⟩, d, after, hsplit, hbefore, hfits, hfirst, hpast⟩
        · obtain ⟨rfl, rfl⟩ := List.cons.inj hsplit
          exact ⟨d, rfl, hfits, hpast⟩
        · obtain ⟨rfl, rfl⟩ := List.cons.inj hsplit
          refine absurd ((callback_taken_iff hwithin).mpr ⟨hbefore _ List.mem_cons_self, ?_⟩) htaken
          rw [List.flatMap_cons, room_append sink.response.headers] at hfirst
          exact hfirst.1

end Curl

end Callbacks

namespace HttpClient

variable (curl : Curl) (config : ClientConfig) (path : Text)

/-- The request is set up as it should be. -/
structure Opened : Prop where
  handle : curl.handle = true
  valid : invalidRequest config (config.baseUrl ++ path) = false
  headers : curl.slistAppend (ascii "Accept: " ++ config.accept) = true
  configured : (options config (config.baseUrl ++ path)).all curl.setopt = true

/-- The transfer goes well to its end, and the whole body is within the limit. -/
structure Completes : Prop where
  opened : Opened curl config path
  stored : ∀ event ∈ (transfer curl config path).events, event.Stored
  room : config.maxResponseBytes = 0 ∨
    (transfer curl config path).bodyText.length ≤ config.maxResponseBytes.toNat
  code : (transfer curl config path).code = 0

/-- What was transferred, in full. -/
structure Received (response : HttpResponse) : Prop where
  status : ∃ status, (transfer curl config path).status = some status ∧
    response.statusCode = Int16.ofInt status
  body : response.body = (transfer curl config path).bodyText
  headers : response.headers = (transfer curl config path).events.foldl CurlEvent.headersAfter []

/-- The events of the transfer from an empty sink on. -/
def delivered : Bool × ResponseSink :=
  Curl.deliver (transfer curl config path).events { limit := config.maxResponseBytes }

variable {curl config path}

theorem get_of_not_opened (h : ¬Opened curl config path) :
    ∃ error, get curl config path = .error error ∧
      (error.code = .networkError ∨ error.code = .invalidRequest) ∧
      (error.code = .invalidRequest ↔
        curl.handle = true ∧ invalidRequest config (config.baseUrl ++ path) = true) := by
  by_cases hhandle : curl.handle = true
  · cases hvalid : invalidRequest config (config.baseUrl ++ path) with
    | true => simp [get, hhandle, hvalid, Error.invalidRequest]
    | false =>
      by_cases hheaders : curl.slistAppend (ascii "Accept: " ++ config.accept) = true
      · have hconfigured : (options config (config.baseUrl ++ path)).all curl.setopt = false := by
          rw [Bool.eq_false_iff]
          exact fun hall => h ⟨hhandle, hvalid, hheaders, hall⟩
        simp [get, hhandle, hvalid, hheaders, hconfigured, Error.network]
      · simp [get, hhandle, hvalid, hheaders, Error.network]
  · simp [get, hhandle, Error.network]

theorem get_of_overflowed (h : Opened curl config path)
    (hflag : (delivered curl config path).2.overflowed = true) :
    get curl config path = .error (Error.invalidRequest
      (ascii "Response exceeded ClientConfig::max_response_bytes")) := by
  rw [delivered, transfer] at hflag
  simp [get, h.handle, h.valid, h.headers, h.configured, Curl.perform, hflag]

theorem get_of_failed (h : Opened curl config path)
    (hflag : (delivered curl config path).2.overflowed = false)
    (hfailed : (delivered curl config path).1 = true → (transfer curl config path).code = 0 →
      (transfer curl config path).status = none) :
    ∃ error, get curl config path = .error error ∧ error.code = .networkError := by
  simp only [delivered, transfer] at hflag hfailed
  simp only [get, h.handle, h.valid, h.headers, h.configured, Curl.perform, hflag, Bool.not_true,
    Bool.false_eq_true, if_false]
  split_ifs with htaken hcode hshort
  · exact ⟨_, rfl, rfl⟩
  · rw [hfailed htaken (not_not.mp hcode)]
    exact ⟨_, rfl, rfl⟩
  · exact ⟨_, rfl, rfl⟩
  · exact absurd (show Curl.writeError ≠ 0 by decide) hshort

theorem get_of_taken (h : Opened curl config path)
    (htaken : (delivered curl config path).1 = true) (hcode : (transfer curl config path).code = 0)
    {status : Int} (hstatus : (transfer curl config path).status = some status) :
    get curl config path = .ok
      { statusCode := Int16.ofInt status
        body := (transfer curl config path).bodyText
        headers := (transfer curl config path).events.foldl CurlEvent.headersAfter [] } := by
  have hsink := Curl.deliver_of_true (Or.inr (Nat.zero_le _)) htaken
  rw [delivered] at htaken
  rw [transfer] at htaken hsink hcode hstatus
  simp [get, h.handle, h.valid, h.headers, h.configured, Curl.perform, htaken, hsink, hcode,
    hstatus, ResponseSink.received, transfer, Transfer.bodyText]

theorem Received.unique {response other : HttpResponse} (h : Received curl config path response)
    (hother : Received curl config path other) : response = other := by
  obtain ⟨code, body, headers⟩ := response
  obtain ⟨code', body', headers'⟩ := other
  obtain ⟨⟨status, hstatus, hcode⟩, hbody, hheaders⟩ := h
  obtain ⟨⟨status', hstatus', hcode'⟩, hbody', hheaders'⟩ := hother
  obtain rfl := Option.some.inj (hstatus.symm.trans hstatus')
  rw [HttpResponse.mk.injEq]
  exact ⟨hcode.trans hcode'.symm, hbody.trans hbody'.symm, hheaders.trans hheaders'.symm⟩

/-- The part of the transfer that goes past the limit, if there is one. -/
def PassesLimit (curl : Curl) (config : ClientConfig) (path : Text) : Prop :=
  Curl.PassesLimit (transfer curl config path).events { limit := config.maxResponseBytes }

theorem delivered_iff : (delivered curl config path).1 = true ↔
    (∀ event ∈ (transfer curl config path).events, event.Stored) ∧
      (config.maxResponseBytes = 0 ∨
        (transfer curl config path).bodyText.length ≤ config.maxResponseBytes.toNat) := by
  have hempty : ({ limit := config.maxResponseBytes } : ResponseSink).response.body.length = 0 := rfl
  rw [delivered, Curl.deliver_eq_true_iff (Or.inr (Nat.zero_le _)), ResponseSink.Room, hempty,
    Nat.zero_add]
  rfl

theorem overflowed_iff :
    (delivered curl config path).2.overflowed = true ↔ PassesLimit curl config path :=
  Curl.deliver_overflowed_iff (Or.inr (Nat.zero_le _)) rfl

theorem not_passesLimit (h : (delivered curl config path).1 = true) :
    ¬PassesLimit curl config path := by
  rw [← overflowed_iff, delivered, Curl.deliver_of_true (Or.inr (Nat.zero_le _)) h]
  exact Bool.false_ne_true

/-- How a request that is set up ends. -/
theorem get_cases (h : Opened curl config path) :
    (PassesLimit curl config path ∧ ¬Completes curl config path ∧
      ∃ error, get curl config path = .error error ∧ error.code = .invalidRequest) ∨
    (¬PassesLimit curl config path ∧
      (¬∃ response, Completes curl config path ∧ Received curl config path response) ∧
      ∃ error, get curl config path = .error error ∧ error.code = .networkError) ∨
    (¬PassesLimit curl config path ∧ Completes curl config path ∧
      ∃ response, get curl config path = .ok response ∧ Received curl config path response) := by
  have hcomplete : Completes curl config path ↔ (delivered curl config path).1 = true ∧
      (transfer curl config path).code = 0 := by
    rw [delivered_iff]
    exact ⟨fun hc => ⟨⟨hc.stored, hc.room⟩, hc.code⟩, fun hc => ⟨h, hc.1.1, hc.1.2, hc.2⟩⟩
  cases hflag : (delivered curl config path).2.overflowed with
  | true =>
    have hpasses := overflowed_iff.mp hflag
    exact Or.inl ⟨hpasses, fun hc => not_passesLimit (hcomplete.mp hc).1 hpasses, _,
      get_of_overflowed h hflag, rfl⟩
  | false =>
    have hnot : ¬PassesLimit curl config path := by simp [← overflowed_iff, hflag]
    by_cases hended : Completes curl config path ∧ (transfer curl config path).status ≠ none
    · obtain ⟨hc, hsome⟩ := hended
      obtain ⟨status, hstatus⟩ := Option.ne_none_iff_exists'.mp hsome
      obtain ⟨htaken, hcode⟩ := hcomplete.mp hc
      exact Or.inr (Or.inr ⟨hnot, hc, _, get_of_taken h htaken hcode hstatus,
        ⟨⟨status, hstatus, rfl⟩, rfl, rfl⟩⟩)
    · refine Or.inr (Or.inl ⟨hnot, ?_, get_of_failed h hflag fun htaken hcode => ?_⟩)
      · rintro ⟨response, hc, ⟨status, hstatus, -⟩, -, -⟩
        exact hended ⟨hc, by simp [hstatus]⟩
      · exact not_not.mp fun hsome => hended ⟨hcomplete.mpr ⟨htaken, hcode⟩, hsome⟩

theorem get_eq_ok_iff {response : HttpResponse} : get curl config path = .ok response ↔
    Completes curl config path ∧ Received curl config path response := by
  by_cases hopened : Opened curl config path
  · obtain ⟨-, hnot, error, hget, -⟩ | ⟨-, hnot, error, hget, -⟩ | ⟨-, hc, other, hget, hreceived⟩ :=
      get_cases hopened
    · simp [hget, hnot]
    · rw [hget]
      simpa using fun hc hreceived => hnot ⟨response, hc, hreceived⟩
    · rw [hget, Except.ok.injEq]
      exact ⟨fun heq => heq ▸ ⟨hc, hreceived⟩, fun h => hreceived.unique h.2⟩
  · obtain ⟨error, hget, -⟩ := get_of_not_opened hopened
    rw [hget]
    simpa using fun h : Completes curl config path => absurd h.opened hopened

theorem code_of_get_error {error : Error} (h : get curl config path = .error error) :
    error.code = .networkError ∨ error.code = .invalidRequest := by
  by_cases hopened : Opened curl config path
  · obtain ⟨-, -, other, hget, hcode⟩ | ⟨-, -, other, hget, hcode⟩ | ⟨-, -, response, hget, -⟩ :=
      get_cases hopened
    · exact Or.inr (Except.error.inj (h.symm.trans hget) ▸ hcode)
    · exact Or.inl (Except.error.inj (h.symm.trans hget) ▸ hcode)
    · exact absurd (h.symm.trans hget) (by simp)
  · obtain ⟨other, hget, hcode, -⟩ := get_of_not_opened hopened
    exact Except.error.inj (h.symm.trans hget) ▸ hcode

theorem get_invalidRequest_iff :
    (∃ error, get curl config path = .error error ∧ error.code = .invalidRequest) ↔
      curl.handle = true ∧ invalidRequest config (config.baseUrl ++ path) = true ∨
        Opened curl config path ∧ PassesLimit curl config path := by
  by_cases hopened : Opened curl config path
  · have hvalid := hopened.valid
    obtain ⟨hpasses, -, error, hget, hcode⟩ | ⟨hwithin, -, error, hget, hcode⟩ |
      ⟨hwithin, -, response, hget, -⟩ := get_cases hopened
    · simp [hget, hcode, hopened, hpasses]
    · simp [hget, hcode, hvalid, hwithin]
    · simp [hget, hvalid, hwithin]
  · obtain ⟨error, hget, -, hinvalid⟩ := get_of_not_opened hopened
    simpa [hget, hopened] using hinvalid

/-- A request is answered exactly when its transfer goes well to the end within the limit, and
then with all that was transferred; it is invalid exactly when it cannot be sent as it is
or a part of the body passes the limit; everything else is a network error. -/
theorem get_exact (curl : Curl) (config : ClientConfig) (path : Text) :
    (∀ response, get curl config path = .ok response ↔
      Completes curl config path ∧ Received curl config path response) ∧
    (∀ error, get curl config path = .error error →
      error.code = .networkError ∨ error.code = .invalidRequest) ∧
    ((∃ error, get curl config path = .error error ∧ error.code = .invalidRequest) ↔
      curl.handle = true ∧ invalidRequest config (config.baseUrl ++ path) = true ∨
        Opened curl config path ∧ PassesLimit curl config path) :=
  ⟨fun _ => get_eq_ok_iff, fun _ => code_of_get_error, get_invalidRequest_iff⟩

end HttpClient

end NwsCpp
