import NwsCpp.NwsClientRuns
import NwsCpp.HttpClient

/-! The request targets of the methods: which calls share one, and the bytes they have. -/

namespace NwsCpp

open Bytes Decimal Query UrlPath

section Arguments

theorem intText_inj {a b : Int32} : intText a.toInt = intText b.toInt ↔ a = b := by
  have read (v : Int32) : fromChars (intText v.toInt) = .ok v.toInt [] :=
    fromChars_intText v.minValue_le_toInt (Int.le_of_lt_add_one v.toInt_lt)
  refine ⟨fun h => ?_, fun h => h ▸ rfl⟩
  have hread := (read a).symm.trans ((congrArg fromChars h).trans (read b))
  exact Int32.toInt_inj.mp (CharsResult.ok.inj hread).1

theorem scalarPair_inj {key : Text} {a b : Option Text} :
    scalarPair key a = scalarPair key b ↔ a = b := by
  cases a <;> cases b <;> simp [scalarPair]

theorem limitPair_inj {a b : Option Int32} : limitPair a = limitPair b ↔ a = b := by
  rw [limitPair, limitPair, scalarPair_inj]
  cases a <;> cases b <;> simp [intText_inj]

theorem filter_scalarPair (key name : Text) (field : Option Text) :
    (scalarPair name field).filter (·.1 == key) = if name = key then scalarPair name field else [] := by
  cases field <;> by_cases h : name = key <;> simp [scalarPair, h]

theorem GetObservationsParams.present_inj {a b : GetObservationsParams} :
    a.present = b.present ↔ a = b := by
  refine ⟨fun h => ?_, fun h => h ▸ rfl⟩
  have hkey (key : Text) := congrArg (List.filter (·.1 == key)) h
  simp only [present, List.filter_append, limitPair, filter_scalarPair] at hkey
  obtain ⟨start, end_, limit, cursor⟩ := a
  obtain ⟨start', end', limit', cursor'⟩ := b
  rw [GetObservationsParams.mk.injEq]
  have hlimit : limitPair limit = limitPair limit' := by
    simpa [limitPair, ascii] using hkey (ascii "limit")
  exact ⟨scalarPair_inj.mp (by simpa [ascii] using hkey (ascii "start")),
    scalarPair_inj.mp (by simpa [ascii] using hkey (ascii "end")), limitPair_inj.mp hlimit,
    scalarPair_inj.mp (by simpa [ascii] using hkey (ascii "cursor"))⟩

theorem buildObservationsQuery_inj {a b : GetObservationsParams} :
    buildObservationsQuery a = buildObservationsQuery b ↔ a = b := by
  refine ⟨fun h => ?_, fun h => h ▸ rfl⟩
  rw [← GetObservationsParams.present_inj, ← (readsBack_observations a).decoded, h,
    (readsBack_observations b).decoded]

theorem unitsQuery_inj {a b : Option UnitSystem} : unitsQuery a = unitsQuery b ↔ a = b := by
  rcases a with - | (- | -) <;> rcases b with - | (- | -) <;> simp [unitsQuery, ascii]

namespace Piece

theorem written_literal (name : Text) : (literal name).written = name := rfl

theorem written_argument_inj {a b : Text} : (argument a).written = (argument b).written ↔ a = b :=
  encodeQueryValue_injective.eq_iff

theorem written_coordinates_inj {x y x' y' : Int32} :
    (coordinates x y).written = (coordinates x' y').written ↔ x = x' ∧ y = y' := by
  refine ⟨fun h => ?_, fun ⟨hx, hy⟩ => hx ▸ hy ▸ rfl⟩
  have hcomma (v : Int32) : (44 : Byte) ∉ intText v.toInt := fun hmem =>
    absurd (intText_kept _ 44 hmem) (by decide)
  have hsplit (x y : Int32) : (coordinates x y).written.takeWhile (· != 44) = intText x.toInt ∧
      (coordinates x y).written.dropWhile (· != 44) = 44 :: intText y.toInt := by
    have hwritten : (coordinates x y).written = intText x.toInt ++ 44 :: intText y.toInt := by
      simp [written, ascii]
    rw [hwritten]
    exact takeWhile_ne_append (hcomma x) (by simp [eq_comm])
  have hx := (hsplit x y).1.symm.trans (h ▸ (hsplit x' y').1)
  have hy := (hsplit x y).2.symm.trans (h ▸ (hsplit x' y').2)
  exact ⟨intText_inj.mp hx, intText_inj.mp (List.cons.inj hy).2⟩

end Piece

end Arguments

namespace PathCall

def query : PathCall → Text
  | getForecast _ _ _ units => unitsQuery units
  | getForecastHourly _ _ _ units => unitsQuery units
  | getObservations _ params => buildObservationsQuery params
  | _ => []

theorem target_eq_render (call : PathCall) :
    call.target = render (call.endpoint.map Piece.written) ++ call.query := by
  cases call <;> simp [target, query, endpoint, Piece.written, gridPath, render_cons, ascii]

theorem endpoint_ne_nil (call : PathCall) : call.endpoint.map Piece.written ≠ [] := by
  cases call <;> simp [endpoint]

/-- A target is read in one way only: as its segments and its query. -/
theorem split_target {call : PathCall} {segs : List Text} {query : Text} (hne : segs ≠ [])
    (hslash : ∀ s ∈ segs, (47 : Byte) ∉ s) (hpath : pathOf (render segs ++ query) = render segs)
    (h : call.target = render segs ++ query) :
    call.endpoint.map Piece.written = segs ∧ call.query = query := by
  have hrender : render (call.endpoint.map Piece.written) = render segs := by
    rw [← pathOf_target, h, hpath]
  refine ⟨?_, ?_⟩
  · rw [← segments_render call.endpoint_ne_nil call.slash_notMem_written, hrender,
      segments_render hne hslash]
  · rw [target_eq_render, hrender] at h
    exact List.append_cancel_left h

theorem target_injective : Function.Injective target := by
  intro a b h
  have hpath : pathOf (render (b.endpoint.map Piece.written) ++ b.query) =
      render (b.endpoint.map Piece.written) := by rw [← target_eq_render, pathOf_target]
  obtain ⟨hwritten, hquery⟩ := split_target b.endpoint_ne_nil b.slash_notMem_written hpath
    (h.trans b.target_eq_render)
  -- two methods differ in the number of their segments or in one of the names
  clear h hpath
  cases a <;> cases b <;>
    simp_all [endpoint, query, Piece.written_literal, Piece.written_argument_inj,
      Piece.written_coordinates_inj, unitsQuery_inj, buildObservationsQuery_inj, ascii]

theorem written_getAlert {id name : Text} (hkept : ∀ c ∈ name, keptByte c = true)
    (h : (getAlert id).endpoint.map Piece.written = [ascii "alerts", name]) : id = name := by
  have hid : encodeQueryValue id = name := by
    simpa [endpoint, Piece.written_literal, Piece.written] using h
  exact encodeQueryValue_injective (hid.trans (encodeQueryValue_of_kept hkept).symm)

/-- Only the alert of this name has the target. -/
theorem target_eq_alerts_iff {call : PathCall} (name query : Text)
    (hkept : ∀ c ∈ name, keptByte c = true) (hquery : ∀ c, query.head? = some c → c = 63) :
    call.target = ascii "/alerts/" ++ name ++ query ↔ call = getAlert name ∧ query = [] := by
  have hrender : ascii "/alerts/" ++ name = render [ascii "alerts", name] := by
    simp [render_cons, ascii]
  rw [hrender]
  constructor
  · intro h
    have hplain (c : Byte) (hc : keptByte c = false) : c ∉ name := fun hmem => by
      simp [hkept c hmem] at hc
    have hslash : ∀ s ∈ [ascii "alerts", name], (47 : Byte) ∉ s := by
      simpa [ascii] using hplain 47 (by decide)
    have hmark : (63 : Byte) ∉ render [ascii "alerts", name] := by
      simpa [render_cons, ascii] using hplain 63 (by decide)
    obtain ⟨hwritten, hcall⟩ :=
      split_target (by simp) hslash (takeWhile_ne_append hmark hquery).1 h
    cases call with
    | getAlert id => exact ⟨written_getAlert hkept hwritten ▸ rfl, hcall.symm⟩
    | _ => simp [endpoint, Piece.written_literal, ascii] at hwritten
  · rintro ⟨rfl, rfl⟩
    rw [target_eq_render, endpoint]
    simp [Piece.written, encodeQueryValue_of_kept hkept, query]

theorem target_ne_render {call : PathCall} (segs : List Text) (query : Text) (hne : segs ≠ [])
    (hplain : ∀ s ∈ segs, (47 : Byte) ∉ s ∧ (63 : Byte) ∉ s)
    (hquery : ∀ c, query.head? = some c → c = 63)
    (hother : call.endpoint.map Piece.written ≠ segs) : call.target ≠ render segs ++ query := by
  intro h
  have hmark : (63 : Byte) ∉ render segs := by
    intro hmem
    obtain ⟨s, hs, hin⟩ := List.mem_flatMap.mp hmem
    rcases List.mem_cons.mp hin with hc | hc
    · exact absurd hc (by decide)
    · exact (hplain s hs).2 hc
  exact hother (split_target hne (fun s hs => (hplain s hs).1)
    (takeWhile_ne_append hmark hquery).1 h).1

theorem head_buildAlertsQuery (params : GetAlertsParams) :
    ∀ c, (buildAlertsQuery params).head? = some c → c = 63 := by
  obtain ⟨st, hst, h⟩ := rendered_alerts params
  rw [← hst, h.query]
  split_ifs <;> simp [eq_comm]

/-- Calls with strings in their paths ask for different targets when they differ at all, and
never for the target of another method, but for the alerts named `active` and `types`. -/
theorem targets_distinct :
    Function.Injective target ∧ ∀ call : PathCall,
      (∀ params, call.target = NWSClient.activeAlertsPath params ↔
        call = getAlert (ascii "active") ∧ params.present = []) ∧
      (call.target = ascii "/alerts/types" ↔ call = getAlert (ascii "types")) ∧
      (∀ params, call.target ≠ NWSClient.alertsPath params) ∧
      call.target ≠ ascii "/alerts/active/count" ∧ call.target ≠ ascii "/glossary" ∧
      ∀ coordinates, call.target ≠ ascii "/points/" ++ coordinates := by
  refine ⟨target_injective, fun call => ⟨fun params => ?_, ?_, fun params => ?_, ?_, ?_, ?_⟩⟩
  · rw [← (readsBack_alerts params).empty]
    exact target_eq_alerts_iff _ _ (by decide) (head_buildAlertsQuery params)
  · have h : call.target = ascii "/alerts/" ++ ascii "types" ++ [] ↔
        call = getAlert (ascii "types") ∧ [] = [] :=
      target_eq_alerts_iff _ [] (by decide) (by simp)
    simpa [ascii] using h
  · exact target_ne_render [ascii "alerts"] _ (by simp) (by decide)
      (head_buildAlertsQuery params) (by cases call <;> simp [endpoint])
  · exact target_ne_render [ascii "alerts", ascii "active", ascii "count"] [] (by simp) (by decide)
      (by simp) (by cases call <;> simp [endpoint, Piece.written_literal, ascii])
  · exact target_ne_render [ascii "glossary"] [] (by simp) (by decide) (by simp)
      (by cases call <;> simp [endpoint])
  · cases call <;> simp [target, gridPath, ascii]

end PathCall

/-- The bytes that a target may have: what percent-encoding leaves and the delimiters that
the client writes itself. -/
def targetByte (c : Byte) : Bool := Percent.unreserved c || (ascii "%/,?=&+").contains c

def TargetText (s : Text) : Prop := ∀ c ∈ s, targetByte c = true

namespace TargetText

variable {s t : Text}

theorem append (hs : TargetText s) (ht : TargetText t) : TargetText (s ++ t) :=
  List.forall_mem_append.mpr ⟨hs, ht⟩

theorem cons {c : Byte} (hc : targetByte c = true) (hs : TargetText s) : TargetText (c :: s) :=
  List.forall_mem_cons.mpr ⟨hc, hs⟩

theorem of_kept (h : ∀ c ∈ s, keptByte c = true) : TargetText s := fun c hc => by
  rw [targetByte, ← keptByte_eq_unreserved, h c hc, Bool.true_or]

theorem encode (s : Text) : TargetText (encodeQueryValue s) := by
  intro c hc
  rcases mem_encodeQueryValue hc with h | rfl
  · exact of_kept (fun d hd => List.mem_singleton.mp hd ▸ h) c (List.mem_singleton_self c)
  · decide

theorem intercalate {d : Byte} {parts : List Text} (hd : targetByte d = true)
    (h : ∀ part ∈ parts, TargetText part) : TargetText ([d].intercalate parts) := by
  cases parts with
  | nil => exact fun c hc => by simp at hc
  | cons first rest =>
    rw [intercalate_cons]
    obtain ⟨hfirst, hrest⟩ := List.forall_mem_cons.mp h
    refine hfirst.append fun c hc => ?_
    obtain ⟨part, hpart, hin⟩ := List.mem_flatMap.mp hc
    exact cons hd (hrest part hpart) c hin

theorem renderBody {pairs : List Pair} (hkeys : ∀ pair ∈ pairs, TargetText pair.1) :
    TargetText (renderBody encodeQueryValue pairs) := by
  apply intercalate (by decide)
  intro part hpart
  obtain ⟨pair, hpair, rfl⟩ := List.mem_map.mp hpart
  refine (hkeys pair hpair).append (cons (by decide) ?_)
  cases pair.2 with
  | scalar text => exact encode text
  | list items =>
    apply intercalate (by decide)
    intro item hitem
    obtain ⟨value, -, rfl⟩ := List.mem_map.mp hitem
    exact encode value

theorem rendered {st : QueryState} {pairs : List Pair} (h : Rendered st pairs)
    {order : List Text} (hkeys : (pairs.map Prod.fst).Sublist order)
    (horder : ∀ key ∈ order, TargetText key) : TargetText st.query := by
  rw [h.query]
  split_ifs
  · exact fun c hc => by simp at hc
  · refine cons (by decide) (renderBody fun pair hpair => ?_)
    exact horder pair.1 (hkeys.subset (List.mem_map_of_mem hpair))

theorem alertsQuery (params : GetAlertsParams) : TargetText (buildAlertsQuery params) := by
  obtain ⟨st, hst, h⟩ := rendered_alerts params
  exact hst ▸ rendered h params.keys (by unfold TargetText; decide)

theorem observationsQuery (params : GetObservationsParams) :
    TargetText (buildObservationsQuery params) := by
  obtain ⟨st, hst, h⟩ := rendered_observations params
  exact hst ▸ rendered h params.keys (by unfold TargetText; decide)

theorem target (call : PathCall) : TargetText call.target := by
  rw [call.target_eq_render]
  apply append
  · intro c hc
    obtain ⟨part, hpart, hin⟩ := List.mem_flatMap.mp hc
    obtain ⟨piece, hpiece, rfl⟩ := List.mem_map.mp hpart
    refine cons (by decide) (fun c hc => ?_) c hin
    rcases Piece.mem_written (call.endpoint_plain piece hpiece) hc with h | rfl | rfl
    · exact of_kept (fun d hd => List.mem_singleton.mp hd ▸ h) c (List.mem_singleton_self c)
    · decide
    · decide
  · have units (units : Option UnitSystem) : TargetText (unitsQuery units) := by
      unfold TargetText
      rcases units with - | (- | -) <;> decide
    cases call with
    | getForecast wfo x y preferred => exact units preferred
    | getForecastHourly wfo x y preferred => exact units preferred
    | getObservations stationId params => exact observationsQuery params
    | _ => exact fun c hc => by simp [PathCall.query] at hc

end TargetText

namespace HttpClient

/-- A target adds nothing to a URL that the client would refuse. -/
theorem invalidRequest_append (config : ClientConfig) {path : Text} (h : TargetText path) :
    invalidRequest config (config.baseUrl ++ path) = invalidRequest config config.baseUrl := by
  have hzero : path.contains 0 = false := by
    rw [Bool.eq_false_iff, Ne, List.contains_iff_mem]
    exact fun hmem => absurd (h 0 hmem) (by decide)
  have happend : (config.baseUrl ++ path).contains 0 = config.baseUrl.contains 0 := by
    rw [List.contains_append, hzero, Bool.or_false]
  rw [invalidRequest, invalidRequest, happend]

end HttpClient

namespace NWSClient

variable {σ D : Type*} [JsonDouble D]

/-- It starts with the slash that ends the host, and has only the bytes of targets. -/
structure ProperTarget (path : Text) : Prop where
  slash : path.head? = some 47
  bytes : TargetText path

theorem properTarget_target (call : PathCall) : ProperTarget call.target :=
  ⟨by cases call <;> simp [PathCall.target, gridPath, ascii], .target call⟩

theorem properTarget_append {name query : Text} (hname : name.head? = some 47)
    (hkept : ∀ c ∈ name, targetByte c = true) (hquery : TargetText query) :
    ProperTarget (name ++ query) :=
  ⟨by rw [List.head?_append, hname]; rfl, TargetText.append hkept hquery⟩

theorem properTarget_input (hformat : ∀ d : D, TargetText (Double.format d))
    (input : Points.Input D) : ProperTarget input.path := by
  rw [Points.Input.path, List.append_assoc, List.append_assoc]
  refine properTarget_append (by decide) (by decide) ?_
  exact (hformat _).append ((TargetText.cons (by decide) fun c hc => by cases hc).append (hformat _))

theorem properTarget_asked (hformat : ∀ d : D, TargetText (Double.format d))
    {readers : Readers (PointResponse D)} {config : Points.Config} {client : Client σ D}
    {input : Points.Input D} {xs : List Request.Exchange} {result : Result (PointResponse D)}
    (h : Points.Asks readers config client input xs result) :
    ∀ x ∈ xs, ProperTarget x.1 := by
  cases h with
  | invalid => simp
  | cached => simp
  | asked => simpa using properTarget_input hformat input

omit [JsonDouble D] in
theorem Call.properTarget_endpoint {call : Call D} {path : Text} (h : call.endpoint = some path) :
    ProperTarget path := by
  cases call with
  | getAlerts params =>
    obtain rfl := Option.some.inj h
    exact properTarget_append (by decide) (by decide) (.alertsQuery params)
  | getActiveAlerts params =>
    obtain rfl := Option.some.inj h
    exact properTarget_append (by decide) (by decide) (.alertsQuery params)
  | getActiveAlertCount | getAlertTypes | getGlossary =>
    obtain rfl := Option.some.inj h
    exact ⟨by decide, by unfold TargetText; decide⟩
  | getPoint | getForecastForLocation | getCurrentWeather => cases h
  | _ =>
    obtain rfl := Option.some.inj h
    exact properTarget_target _

theorem Call.Asks.proper (hformat : ∀ d : D, TargetText (Double.format d))
    {parseRoot : Text → Result (Json D)} {config : Points.Config} {client : Client σ D}
    {call : Call D} {xs : List Request.Exchange} (h : call.Asks parseRoot config client xs) :
    ∀ x ∈ xs, ProperTarget x.1 := by
  cases h with
  | endpoint only => simpa using Call.properTarget_endpoint only
  | point first => exact properTarget_asked hformat first
  | noForecast first => exact properTarget_asked hformat first
  | noWeather first => exact properTarget_asked hformat first
  | forecast first =>
    refine List.forall_mem_append.mpr ⟨properTarget_asked hformat first, ?_⟩
    simpa [forecastPath] using properTarget_target _
  | noStations first =>
    refine List.forall_mem_append.mpr ⟨properTarget_asked hformat first, ?_⟩
    simpa [stationsPath] using properTarget_target _
  | weather first =>
    refine List.forall_mem_append.mpr ⟨properTarget_asked hformat first, ?_⟩
    simpa [stationsPath] using ⟨properTarget_target _, properTarget_target _⟩

theorem Requests.proper (hformat : ∀ d : D, TargetText (Double.format d)) {env : Env σ}
    {parseRoot : Text → Result (Json D)} {config : Points.Config} {client client' : Client σ D}
    {calls : List (Call D)} {asked : List (List Request.Exchange)} {replies : List (Reply D)}
    (h : Requests env parseRoot config client calls asked replies client') :
    ∀ x ∈ asked.flatten, ProperTarget x.1 := by
  induction h with
  | nil => simp
  | cons _ asks _ _ ih =>
    rw [List.flatten_cons]
    exact List.forall_mem_append.mpr ⟨asks.proper hformat, ih⟩

/-- Whatever the calls are given, every path asked for in a run starts at the root of the
host, has no byte that could end the URL or the request line, and is not what makes the
transport refuse a request. -/
theorem run_targets (hformat : ∀ d : D, TargetText (Double.format d)) (http : ClientConfig)
    (env : Env σ) (parseRoot : Text → Result (Json D)) (config : Points.Config) (world : σ)
    (calls : List (Call D)) :
    ∃ replies client asked,
      run env parseRoot config calls (Points.Client.init config world) = some (replies, client) ∧
      Requests env parseRoot config (Points.Client.init config world) calls asked replies client ∧
      Request.doGets env config.retry ⟨world, []⟩ (asked.flatten.map Prod.fst) =
        some client.request ∧
      ∀ path ∈ asked.flatten.map Prod.fst, ProperTarget path ∧
        HttpClient.invalidRequest http (http.baseUrl ++ path) =
          HttpClient.invalidRequest http http.baseUrl := by
  obtain ⟨replies, client, asked, hrun, hrequests⟩ :=
    run_asks env parseRoot config calls (Points.Client.init config world)
  refine ⟨replies, client, asked, hrun, hrequests, hrequests.exchanged.doGets, fun path hpath => ?_⟩
  obtain ⟨x, hx, rfl⟩ := List.mem_map.mp hpath
  have htarget := hrequests.proper hformat x hx
  exact ⟨htarget, HttpClient.invalidRequest_append http htarget.bytes⟩

/-- A station that tries to end the request line, and to climb. -/
def injecting : Call Int := .getStation (ascii "x HTTP/1.1\r\nHost: y/../..")

theorem run_targets_injecting : ∃ path, injecting.endpoint = some path ∧ ProperTarget path ∧
    HttpClient.invalidRequest {} (ascii "https://api.weather.gov" ++ path) = false := by
  have hformat : ∀ d : Int, TargetText (Double.format d) := fun d => .of_kept (intText_kept d)
  obtain ⟨replies, client, asked, -, hrequests, -, htargets⟩ := run_targets hformat {} Points.echoEnv
    (fun _ => .error (Error.parse [])) {} () [injecting]
  cases hrequests with
  | cons _ hasks _ _ =>
  cases hasks with
  | endpoint only =>
  obtain ⟨hproper, hvalid⟩ := htargets _
    (List.mem_map_of_mem (List.mem_flatten.mpr ⟨_, List.mem_cons_self, List.mem_singleton_self _⟩))
  exact ⟨_, only, hproper, hvalid.trans (by decide)⟩

end NWSClient

end NwsCpp
