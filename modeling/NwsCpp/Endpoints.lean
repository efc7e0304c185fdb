import NwsCpp.DotSegments
import NwsCpp.QueryStrings

/-! The request targets of the client methods that put caller strings in the
path, and the path a server sees after dot-segment removal. -/

namespace NwsCpp

open Bytes Decimal UrlPath

inductive UnitSystem where
  | us
  | si
  deriving DecidableEq

inductive PathCall where
  | getForecast (wfo : Text) (x y : Int32) (units : Option UnitSystem)
  | getForecastHourly (wfo : Text) (x y : Int32) (units : Option UnitSystem)
  | getGridpointStations (wfo : Text) (x y : Int32)
  | getStation (stationId : Text)
  | getObservations (stationId : Text) (params : GetObservationsParams)
  | getLatestObservation (stationId : Text)
  | getActiveAlertsByArea (area : Text)
  | getActiveAlertsByZone (zoneId : Text)
  | getAlert (id : Text)
  | getGridpoint (wfo : Text) (x y : Int32)
  | getZone (type zoneId : Text)
  | getZoneForecast (type zoneId : Text)
  | getLatestProduct (typeId locationId : Text)
  | getProduct (productId : Text)

def gridPath (wfo : Text) (x y : Int32) : Text :=
  ascii "/gridpoints/" ++ encodeQueryValue wfo ++ ascii "/" ++ intText x.toInt ++ ascii "," ++
    intText y.toInt

def unitsQuery : Option UnitSystem → Text
  | none => []
  | some .si => ascii "?units=si"
  | some .us => ascii "?units=us"

/-- The argument that each method hands to `do_get`. -/
def PathCall.target : PathCall → Text
  | getForecast wfo x y units => gridPath wfo x y ++ ascii "/forecast" ++ unitsQuery units
  | getForecastHourly wfo x y units =>
    gridPath wfo x y ++ ascii "/forecast/hourly" ++ unitsQuery units
  | getGridpointStations wfo x y => gridPath wfo x y ++ ascii "/stations"
  | getStation stationId => ascii "/stations/" ++ encodeQueryValue stationId
  | getObservations stationId params =>
    ascii "/stations/" ++ encodeQueryValue stationId ++ ascii "/observations" ++
      buildObservationsQuery params
  | getLatestObservation stationId =>
    ascii "/stations/" ++ encodeQueryValue stationId ++ ascii "/observations/latest"
  | getActiveAlertsByArea area => ascii "/alerts/active/area/" ++ encodeQueryValue area
  | getActiveAlertsByZone zoneId => ascii "/alerts/active/zone/" ++ encodeQueryValue zoneId
  | getAlert id => ascii "/alerts/" ++ encodeQueryValue id
  | getGridpoint wfo x y => gridPath wfo x y
  | getZone type zoneId =>
    ascii "/zones/" ++ encodeQueryValue type ++ ascii "/" ++ encodeQueryValue zoneId
  | getZoneForecast type zoneId =>
    ascii "/zones/" ++ encodeQueryValue type ++ ascii "/" ++ encodeQueryValue zoneId ++
      ascii "/forecast"
  | getLatestProduct typeId locationId =>
    ascii "/products/types/" ++ encodeQueryValue typeId ++ ascii "/locations/" ++
      encodeQueryValue locationId ++ ascii "/latest"
  | getProduct productId => ascii "/products/" ++ encodeQueryValue productId

def PathCall.strings : PathCall → List Text
  | getForecast wfo _ _ _ => [wfo]
  | getForecastHourly wfo _ _ _ => [wfo]
  | getGridpointStations wfo _ _ => [wfo]
  | getStation stationId => [stationId]
  | getObservations stationId _ => [stationId]
  | getLatestObservation stationId => [stationId]
  | getActiveAlertsByArea area => [area]
  | getActiveAlertsByZone zoneId => [zoneId]
  | getAlert id => [id]
  | getGridpoint wfo _ _ => [wfo]
  | getZone type zoneId => [type, zoneId]
  | getZoneForecast type zoneId => [type, zoneId]
  | getLatestProduct typeId locationId => [typeId, locationId]
  | getProduct productId => [productId]

inductive Piece where
  | literal (name : Text)
  | argument (value : Text)
  | coordinates (x y : Int32)

/-- The endpoints of the service, segment by segment. -/
def PathCall.endpoint : PathCall → List Piece
  | getForecast wfo x y _ =>
    [.literal (ascii "gridpoints"), .argument wfo, .coordinates x y, .literal (ascii "forecast")]
  | getForecastHourly wfo x y _ =>
    [.literal (ascii "gridpoints"), .argument wfo, .coordinates x y, .literal (ascii "forecast"),
      .literal (ascii "hourly")]
  | getGridpointStations wfo x y =>
    [.literal (ascii "gridpoints"), .argument wfo, .coordinates x y, .literal (ascii "stations")]
  | getStation stationId => [.literal (ascii "stations"), .argument stationId]
  | getObservations stationId _ =>
    [.literal (ascii "stations"), .argument stationId, .literal (ascii "observations")]
  | getLatestObservation stationId =>
    [.literal (ascii "stations"), .argument stationId, .literal (ascii "observations"),
      .literal (ascii "latest")]
  | getActiveAlertsByArea area =>
    [.literal (ascii "alerts"), .literal (ascii "active"), .literal (ascii "area"), .argument area]
  | getActiveAlertsByZone zoneId =>
    [.literal (ascii "alerts"), .literal (ascii "active"), .literal (ascii "zone"),
      .argument zoneId]
  | getAlert id => [.literal (ascii "alerts"), .argument id]
  | getGridpoint wfo x y => [.literal (ascii "gridpoints"), .argument wfo, .coordinates x y]
  | getZone type zoneId => [.literal (ascii "zones"), .argument type, .argument zoneId]
  | getZoneForecast type zoneId =>
    [.literal (ascii "zones"), .argument type, .argument zoneId, .literal (ascii "forecast")]
  | getLatestProduct typeId locationId =>
    [.literal (ascii "products"), .literal (ascii "types"), .argument typeId,
      .literal (ascii "locations"), .argument locationId, .literal (ascii "latest")]
  | getProduct productId => [.literal (ascii "products"), .argument productId]

namespace Piece

def written : Piece → Text
  | literal name => name
  | argument value => encodeQueryValue value
  | coordinates x y => intText x.toInt ++ ascii "," ++ intText y.toInt

/-- A literal stands as it is, an argument percent-decodes to the value given. -/
def Matches : Piece → Text → Prop
  | literal name, segment => segment = name
  | argument value, segment => Percent.decode segment = value
  | coordinates x y, segment =>
    Percent.decode segment = intText x.toInt ++ ascii "," ++ intText y.toInt

end Piece

/-- The path of a target: everything before the query. -/
def pathOf (target : Text) : Text := target.takeWhile (· != 63)

def PathCall.normalizedPath (call : PathCall) : Text := removeDotSegments (pathOf call.target)

/-- The normalised path has the endpoint's segments, in their places and no others. -/
def PathCall.PreservesEndpoint (call : PathCall) : Prop :=
  List.Forall₂ Piece.Matches call.endpoint (segments call.normalizedPath)

namespace Piece

def plain : Piece → Bool
  | literal name => name.all keptByte && name != [46] && name != [46, 46]
  | _ => true

theorem mem_written {piece : Piece} (hp : piece.plain = true) {c : Byte}
    (hc : c ∈ piece.written) : keptByte c = true ∨ c = 37 ∨ c = 44 := by
  cases piece with
  | literal name =>
    simp only [plain, Bool.and_eq_true, List.all_eq_true] at hp
    exact Or.inl (hp.1.1 c hc)
  | argument value => exact (mem_encodeQueryValue hc).imp_right Or.inl
  | coordinates x y =>
    rw [written, List.mem_append, List.mem_append] at hc
    rcases hc with (hc | hc) | hc
    · exact Or.inl (intText_kept _ c hc)
    · exact Or.inr (Or.inr (by simpa [ascii] using hc))
    · exact Or.inl (intText_kept _ c hc)

theorem notMem_written {piece : Piece} (hp : piece.plain = true) {c : Byte}
    (hc : keptByte c = false) (h37 : c ≠ 37) (h44 : c ≠ 44) : c ∉ piece.written := fun h => by
  rcases mem_written hp h with h | h | h
  · simp [hc] at h
  · exact h37 h
  · exact h44 h

theorem matches_written {piece : Piece} (hp : piece.plain = true) :
    piece.Matches piece.written := by
  cases piece with
  | literal name => rfl
  | argument value => exact decode_encodeQueryValue value
  | coordinates x y =>
    apply Percent.decode_of_notMem
    have hkept : ∀ v : Int, (37 : Byte) ∉ intText v := fun v h =>
      absurd (intText_kept v 37 h) (by decide)
    simp [written, ascii, hkept]

theorem isDots_written {piece : Piece} (hp : piece.plain = true) (h : IsDots piece.written) :
    ∃ value, piece = argument value ∧ IsDots value := by
  cases piece with
  | literal name =>
    simp only [plain, Bool.and_eq_true, bne_iff_ne] at hp
    exact absurd h (not_or.mpr ⟨hp.1.2, hp.2⟩)
  | argument value =>
    refine ⟨value, rfl, ?_⟩
    rw [← decode_encodeQueryValue value]
    rcases h with h | h <;> rw [written] at h <;> rw [h]
    · exact Or.inl rfl
    · exact Or.inr rfl
  | coordinates x y =>
    have hcomma : (44 : Byte) ∈ (coordinates x y).written := by simp [written, ascii]
    rcases h with h | h <;> simp [h] at hcomma

theorem isDots_of_decode {piece : Piece} (hp : piece.plain = true)
    (h : IsDots (Percent.decode piece.written)) : IsDots piece.written := by
  cases piece with
  | argument value =>
    rw [written, decode_encodeQueryValue] at h
    rcases h with rfl | rfl
    · exact Or.inl (by decide)
    · exact Or.inr (by decide)
  | literal name =>
    simp only [plain, Bool.and_eq_true, List.all_eq_true] at hp
    rwa [written, Percent.decode_of_notMem fun h => absurd (hp.1.1 37 h) (by decide)] at h
  | coordinates x y =>
    have hm : Percent.decode (coordinates x y).written = (coordinates x y).written :=
      matches_written hp
    rwa [hm] at h

end Piece

namespace PathCall

variable {call : PathCall}

theorem endpoint_plain (call : PathCall) : ∀ piece ∈ call.endpoint, piece.plain = true := by
  rw [← List.all_eq_true]
  cases call <;> rfl

theorem argument_mem_endpoint {value : Text} :
    .argument value ∈ call.endpoint ↔ value ∈ call.strings := by
  cases call <;> simp [endpoint, strings]

theorem head_unitsQuery (units : Option UnitSystem) :
    ∀ c, (unitsQuery units).head? = some c → c = 63 := by
  rcases units with - | (- | -) <;> simp [unitsQuery, ascii, eq_comm]

theorem head_buildObservationsQuery (params : GetObservationsParams) :
    ∀ c, (buildObservationsQuery params).head? = some c → c = 63 := by
  obtain ⟨st, hst, h⟩ := rendered_observations params
  rw [← hst, h.query]
  split_ifs <;> simp [eq_comm]

theorem target_eq (call : PathCall) : ∃ query, (∀ c, query.head? = some c → c = 63) ∧
    call.target = render (call.endpoint.map Piece.written) ++ query := by
  cases call with
  | getForecast wfo x y units =>
    refine ⟨_, head_unitsQuery units, ?_⟩
    simp [target, endpoint, Piece.written, gridPath, render_cons, ascii]
  | getForecastHourly wfo x y units =>
    refine ⟨_, head_unitsQuery units, ?_⟩
    simp [target, endpoint, Piece.written, gridPath, render_cons, ascii]
  | getObservations stationId params =>
    refine ⟨_, head_buildObservationsQuery params, ?_⟩
    simp [target, endpoint, Piece.written, render_cons, ascii]
  | _ =>
    refine ⟨[], by simp, ?_⟩
    simp [target, endpoint, Piece.written, gridPath, render_cons, ascii]

theorem slash_notMem_written (call : PathCall) :
    ∀ s ∈ call.endpoint.map Piece.written, (47 : Byte) ∉ s := by
  intro s hs
  obtain ⟨piece, hpiece, rfl⟩ := List.mem_map.mp hs
  exact Piece.notMem_written (call.endpoint_plain piece hpiece) (by decide) (by decide) (by decide)

theorem pathOf_target (call : PathCall) :
    pathOf call.target = render (call.endpoint.map Piece.written) := by
  obtain ⟨query, hquery, htarget⟩ := call.target_eq
  have hmark : (63 : Byte) ∉ render (call.endpoint.map Piece.written) := by
    intro h
    simp only [render, List.mem_flatMap, List.mem_map, List.mem_cons] at h
    obtain ⟨_, ⟨piece, hpiece, rfl⟩, h | h⟩ := h
    · exact absurd h (by decide)
    · exact Piece.notMem_written (call.endpoint_plain piece hpiece) (by decide) (by decide)
        (by decide) h
  rw [htarget, pathOf]
  exact (takeWhile_ne_append hmark hquery).1

theorem normalizedPath_eq (call : PathCall) :
    call.normalizedPath = render (normalize (call.endpoint.map Piece.written)) := by
  rw [normalizedPath, pathOf_target, removeDotSegments_render call.slash_notMem_written]

theorem preserves_of_no_dots (h : ∀ value ∈ call.strings, ¬ IsDots value) :
    call.PreservesEndpoint := by
  have hdots : ∀ s ∈ call.endpoint.map Piece.written, ¬ IsDots s := by
    intro s hs hd
    obtain ⟨piece, hpiece, rfl⟩ := List.mem_map.mp hs
    obtain ⟨value, rfl, hvalue⟩ := Piece.isDots_written (call.endpoint_plain _ hpiece) hd
    exact h value (argument_mem_endpoint.mp hpiece) hvalue
  have hne : call.endpoint.map Piece.written ≠ [] := by cases call <;> simp [endpoint]
  rw [PreservesEndpoint, normalizedPath_eq, normalize_eq_self hdots,
    segments_render hne call.slash_notMem_written, List.forall₂_map_right_iff, List.forall₂_same]
  exact fun piece hpiece => Piece.matches_written (call.endpoint_plain piece hpiece)

theorem exists_matching {pieces : List Piece} {segs : List Text}
    (h : List.Forall₂ Piece.Matches pieces segs) {piece : Piece} (hp : piece ∈ pieces) :
    ∃ s ∈ segs, piece.Matches s := by
  induction h with
  | nil => simp at hp
  | cons hr _ ih =>
    rcases List.mem_cons.mp hp with rfl | hp
    · exact ⟨_, List.mem_cons_self, hr⟩
    · obtain ⟨s, hs, hmatch⟩ := ih hp
      exact ⟨s, List.mem_cons_of_mem _ hs, hmatch⟩

theorem not_isDots_decode {s : Text} (hs : s ∈ segments call.normalizedPath) :
    ¬ IsDots (Percent.decode s) := by
  have hslash : ∀ t ∈ normalize (call.endpoint.map Piece.written), (47 : Byte) ∉ t := by
    intro t ht
    rcases mem_normalize ht with rfl | ⟨ht, -⟩
    · simp
    · exact call.slash_notMem_written t ht
  rw [normalizedPath_eq] at hs
  have hcases : s = [] ∨ (s ∈ call.endpoint.map Piece.written ∧ ¬ IsDots s) :=
    (mem_segments_render hslash hs).elim Or.inl mem_normalize
  rcases hcases with rfl | ⟨hmem, hnot⟩
  · simp [Percent.decode, IsDots]
  · obtain ⟨piece, hpiece, rfl⟩ := List.mem_map.mp hmem
    exact fun hd => hnot (Piece.isDots_of_decode (call.endpoint_plain piece hpiece) hd)

/-- The endpoint is preserved exactly when no string argument is a dot segment. -/
theorem preservesEndpoint_iff (call : PathCall) :
    call.PreservesEndpoint ↔ ∀ value ∈ call.strings, value ≠ ascii "." ∧ value ≠ ascii ".." := by
  have hdots : ∀ value : Text, ¬ IsDots value ↔ value ≠ ascii "." ∧ value ≠ ascii ".." :=
    fun value => not_or
  simp only [← hdots]
  refine ⟨fun h value hvalue => ?_, preserves_of_no_dots⟩
  obtain ⟨s, hs, hmatch⟩ := exists_matching h (argument_mem_endpoint.mpr hvalue)
  exact hmatch ▸ not_isDots_decode hs

theorem dots_leave_endpoint :
    (getStation (ascii "..")).normalizedPath = ascii "/" ∧
      ¬ (getStation (ascii "..")).PreservesEndpoint := by
  have hpath : (getStation (ascii "..")).normalizedPath = ascii "/" := by decide
  refine ⟨hpath, fun h => ?_⟩
  rw [PreservesEndpoint, hpath] at h
  exact absurd h.length_eq (by decide)

end PathCall

end NwsCpp
