import NwsCpp.GeoJson
import NwsCpp.RadarStation

/-! Stations, zones and aviation products as GeoJSON features. -/

namespace NwsCpp

open Bytes Json

structure StationProperties (D : Type*) where
  id : Text := []
  stationIdentifier : Text := []
  name : Text := []
  timeZone : Text := []
  forecastUrl : Text := []
  countyUrl : Text := []
  fireWeatherZoneUrl : Text := []
  elevation : QuantitativeValue D := {}

structure ZoneProperties where
  id : Text := []
  type : Text := []
  name : Text := []
  state : Text := []
  forecastOffices : List Text := []
  observationStations : List Text := []

structure SigmetProperties where
  id : Text := []
  atsu : Text := []
  sequence : Text := []
  phenomenon : Text := []
  validTimeFrom : Text := []
  validTimeTo : Text := []

structure CWAProperties where
  id : Text := []
  cwsu : Text := []
  sequence : Text := []
  text : Text := []
  validTimeFrom : Text := []
  validTimeTo : Text := []

variable {D : Type*}

abbrev StationResponse (D : Type*) := GeoJsonFeature D (StationProperties D)

abbrev StationCollectionResponse (D : Type*) := GeoJsonFeatureCollection D (StationProperties D)

abbrev ZoneFeature (D : Type*) := GeoJsonFeature D ZoneProperties

abbrev ZoneCollectionResponse (D : Type*) := GeoJsonFeatureCollection D ZoneProperties

abbrev SigmetFeature (D : Type*) := GeoJsonFeature D SigmetProperties

abbrev SigmetCollectionResponse (D : Type*) := GeoJsonFeatureCollection D SigmetProperties

abbrev CWAFeature (D : Type*) := GeoJsonFeature D CWAProperties

abbrev CWACollectionResponse (D : Type*) := GeoJsonFeatureCollection D CWAProperties

section Populate

variable (props : Json D)

def populateStationProperties (p : StationProperties D) : StationProperties D where
  id := props.getString (ascii "@id")
  stationIdentifier := props.getString (ascii "stationIdentifier")
  name := props.getString (ascii "name")
  timeZone := props.getString (ascii "timeZone")
  forecastUrl := props.getString (ascii "forecast")
  countyUrl := props.getString (ascii "county")
  fireWeatherZoneUrl := props.getString (ascii "fireWeatherZone")
  elevation := props.parseQvField (ascii "elevation") p.elevation

def populateZoneProperties (_ : ZoneProperties) : ZoneProperties where
  id := props.getString (ascii "@id")
  type := props.getString (ascii "@type")
  name := props.getString (ascii "name")
  state := props.getString (ascii "state")
  forecastOffices := props.getStringArray (ascii "forecastOffices")
  observationStations := props.getStringArray (ascii "observationStations")

def populateSigmetProperties (_ : SigmetProperties) : SigmetProperties where
  id := props.getString (ascii "id")
  atsu := props.getString (ascii "atsu")
  sequence := props.getString (ascii "sequence")
  phenomenon := props.getString (ascii "phenomenon")
  validTimeFrom := props.getString (ascii "validTimeFrom")
  validTimeTo := props.getString (ascii "validTimeTo")

def populateCWAProperties (_ : CWAProperties) : CWAProperties where
  id := props.getString (ascii "id")
  cwsu := props.getString (ascii "cwsu")
  sequence := props.getString (ascii "sequence")
  text := props.getString (ascii "text")
  validTimeFrom := props.getString (ascii "validTimeFrom")
  validTimeTo := props.getString (ascii "validTimeTo")

end Populate

def populateStationResponse (root : Json D) (r : StationResponse D) : StationResponse D :=
  populateFeature populateStationProperties root r

def populateZoneFeature (root : Json D) (r : ZoneFeature D) : ZoneFeature D :=
  populateFeature populateZoneProperties root r

def populateSigmetFeature (root : Json D) (r : SigmetFeature D) : SigmetFeature D :=
  populateFeature populateSigmetProperties root r

def populateCWAFeature (root : Json D) (r : CWAFeature D) : CWAFeature D :=
  populateFeature populateCWAProperties root r

section Deserialize

variable (parseRoot : Text → Result (Json D))

def deserializeStationResponse : Text → StationResponse D → Result Unit × StationResponse D :=
  deserialize parseRoot populateStationResponse { properties := {} }

def deserializeStationCollection :
    Text → StationCollectionResponse D → Result Unit × StationCollectionResponse D :=
  deserialize parseRoot (populateCollection populateStationResponse {}) {}

def deserializeZoneFeature : Text → ZoneFeature D → Result Unit × ZoneFeature D :=
  deserialize parseRoot populateZoneFeature { properties := {} }

def deserializeZoneCollection :
    Text → ZoneCollectionResponse D → Result Unit × ZoneCollectionResponse D :=
  deserialize parseRoot (populateCollection populateZoneFeature {}) {}

def deserializeSigmetFeature : Text → SigmetFeature D → Result Unit × SigmetFeature D :=
  deserialize parseRoot populateSigmetFeature { properties := {} }

def deserializeSigmetCollection :
    Text → SigmetCollectionResponse D → Result Unit × SigmetCollectionResponse D :=
  deserialize parseRoot (populateCollection populateSigmetFeature {}) {}

def deserializeCWAFeature : Text → CWAFeature D → Result Unit × CWAFeature D :=
  deserialize parseRoot populateCWAFeature { properties := {} }

def deserializeCWACollection :
    Text → CWACollectionResponse D → Result Unit × CWACollectionResponse D :=
  deserialize parseRoot (populateCollection populateCWAFeature {}) {}

end Deserialize

section Stations

def stationKeys : List Text :=
  quantitativeKeys ++ [ascii "@id", ascii "stationIdentifier", ascii "name", ascii "timeZone",
    ascii "forecast", ascii "county", ascii "fireWeatherZone", ascii "elevation"]

def StationProperties.Valid (p : StationProperties D) : Prop := QuantitativeValid p.elevation

def renderStationProperties (p : StationProperties D) : Json D :=
  .obj [(ascii "@id", .str p.id), (ascii "stationIdentifier", .str p.stationIdentifier),
    (ascii "name", .str p.name), (ascii "timeZone", .str p.timeZone),
    (ascii "forecast", .str p.forecastUrl), (ascii "county", .str p.countyUrl),
    (ascii "fireWeatherZone", .str p.fireWeatherZoneUrl),
    (ascii "elevation", renderQuantitativeValue p.elevation)]

theorem reads_stationProperties : Reads stationKeys StationProperties.Valid
    (fun props : Json D => populateStationProperties props {}) renderStationProperties where
  valid props := valid_parseQvField props _
  agree a b h := by
    have hkeys : quantitativeKeys ⊆ stationKeys := List.subset_append_left _ _
    simp (disch := decide) only [populateStationProperties, h.getString, h.parseQvField hkeys]
  render p hvalid := by
    cases p
    simp only [populateStationProperties, StationProperties.mk.injEq]
    exact ⟨getString_of_lookup rfl, getString_of_lookup rfl, getString_of_lookup rfl,
      getString_of_lookup rfl, getString_of_lookup rfl, getString_of_lookup rfl,
      getString_of_lookup rfl, parseQvField_of_lookup hvalid rfl⟩

theorem reads_station : Reads (featureKeys ++ stationKeys) (FeatureValid StationProperties.Valid)
    (fun root : Json D => populateStationResponse root { properties := {} })
    (renderFeature renderStationProperties) :=
  reads_feature reads_stationProperties (reads_stationProperties.valid .null) fun _ => ⟨_, rfl⟩

end Stations

section Zones

def zoneKeys : List Text :=
  [ascii "@id", ascii "@type", ascii "name", ascii "state", ascii "forecastOffices",
    ascii "observationStations"]

def renderZoneProperties (p : ZoneProperties) : Json D :=
  .obj [(ascii "@id", .str p.id), (ascii "@type", .str p.type), (ascii "name", .str p.name),
    (ascii "state", .str p.state), (ascii "forecastOffices", ofTexts p.forecastOffices),
    (ascii "observationStations", ofTexts p.observationStations)]

theorem reads_zoneProperties : Reads zoneKeys (fun _ => True)
    (fun props : Json D => populateZoneProperties props {}) renderZoneProperties where
  valid _ := trivial
  agree a b h := by
    simp (disch := decide) only [populateZoneProperties, h.getString, h.getStringArray]
  render p _ := by
    cases p
    simp only [populateZoneProperties, ZoneProperties.mk.injEq]
    exact ⟨getString_of_lookup rfl, getString_of_lookup rfl, getString_of_lookup rfl,
      getString_of_lookup rfl, getStringArray_of_lookup rfl, getStringArray_of_lookup rfl⟩

theorem reads_zone : Reads (featureKeys ++ zoneKeys) (FeatureValid fun _ => True)
    (fun root : Json D => populateZoneFeature root { properties := {} })
    (renderFeature renderZoneProperties) :=
  reads_feature reads_zoneProperties trivial fun _ => ⟨_, rfl⟩

end Zones

section Aviation

def sigmetKeys : List Text :=
  [ascii "id", ascii "atsu", ascii "sequence", ascii "phenomenon", ascii "validTimeFrom",
    ascii "validTimeTo"]

def renderSigmetProperties (p : SigmetProperties) : Json D :=
  .obj [(ascii "id", .str p.id), (ascii "atsu", .str p.atsu), (ascii "sequence", .str p.sequence),
    (ascii "phenomenon", .str p.phenomenon), (ascii "validTimeFrom", .str p.validTimeFrom),
    (ascii "validTimeTo", .str p.validTimeTo)]

theorem reads_sigmetProperties : Reads sigmetKeys (fun _ => True)
    (fun props : Json D => populateSigmetProperties props {}) renderSigmetProperties where
  valid _ := trivial
  agree a b h := by simp (disch := decide) only [populateSigmetProperties, h.getString]
  render p _ := by
    cases p
    simp only [populateSigmetProperties, SigmetProperties.mk.injEq]
    exact ⟨getString_of_lookup rfl, getString_of_lookup rfl, getString_of_lookup rfl,
      getString_of_lookup rfl, getString_of_lookup rfl, getString_of_lookup rfl⟩

theorem reads_sigmet : Reads (featureKeys ++ sigmetKeys) (FeatureValid fun _ => True)
    (fun root : Json D => populateSigmetFeature root { properties := {} })
    (renderFeature renderSigmetProperties) :=
  reads_feature reads_sigmetProperties trivial fun _ => ⟨_, rfl⟩

def cwaKeys : List Text :=
  [ascii "id", ascii "cwsu", ascii "sequence", ascii "text", ascii "validTimeFrom",
    ascii "validTimeTo"]

def renderCWAProperties (p : CWAProperties) : Json D :=
  .obj [(ascii "id", .str p.id), (ascii "cwsu", .str p.cwsu), (ascii "sequence", .str p.sequence),
    (ascii "text", .str p.text), (ascii "validTimeFrom", .str p.validTimeFrom),
    (ascii "validTimeTo", .str p.validTimeTo)]

theorem reads_cwaProperties : Reads cwaKeys (fun _ => True)
    (fun props : Json D => populateCWAProperties props {}) renderCWAProperties where
  valid _ := trivial
  agree a b h := by simp (disch := decide) only [populateCWAProperties, h.getString]
  render p _ := by
    cases p
    simp only [populateCWAProperties, CWAProperties.mk.injEq]
    exact ⟨getString_of_lookup rfl, getString_of_lookup rfl, getString_of_lookup rfl,
      getString_of_lookup rfl, getString_of_lookup rfl, getString_of_lookup rfl⟩

theorem reads_cwa : Reads (featureKeys ++ cwaKeys) (FeatureValid fun _ => True)
    (fun root : Json D => populateCWAFeature root { properties := {} })
    (renderFeature renderCWAProperties) :=
  reads_feature reads_cwaProperties trivial fun _ => ⟨_, rfl⟩

end Aviation

section Radar

variable [Zero D]

def radarKeys : List Text :=
  quantitativeKeys ++ featureKeys ++ [ascii "name", ascii "stationType", ascii "latitude",
    ascii "longitude", ascii "elevation"]

def RadarStationProperties.Valid (p : RadarStationProperties D) : Prop :=
  QuantitativeValid p.elevation

def renderRadarStationProperties (p : RadarStationProperties D) : Json D :=
  .obj [(ascii "id", .str p.id), (ascii "name", .str p.name),
    (ascii "stationType", .str p.stationType), (ascii "latitude", .num p.latitude),
    (ascii "longitude", .num p.longitude),
    (ascii "elevation", renderQuantitativeValue p.elevation)]

theorem populateRadarStationProperties_eq (props : Json D) (p : RadarStationProperties D) :
    populateRadarStationProperties props p =
      { id := props.getString (ascii "id")
        name := props.getString (ascii "name")
        stationType := props.getString (ascii "stationType")
        latitude := (props.getOptionalDouble (ascii "latitude")).getD p.latitude
        longitude := (props.getOptionalDouble (ascii "longitude")).getD p.longitude
        elevation := props.parseQvField (ascii "elevation") p.elevation } := by
  rw [populateRadarStationProperties, parseQvField, readObject]
  cases props.findObject (ascii "elevation") <;> rfl

/-- The coordinates of the geometry, where the properties have no latitude of their own. -/
def fillCoordinates (geometry : Geometry D) (props : Json D) (p : RadarStationProperties D) :
    RadarStationProperties D :=
  match geometry with
  | .point gp =>
    if (props.getOptionalDouble (ascii "latitude")).isNone then
      { p with latitude := gp.latitude, longitude := gp.longitude }
    else p
  | _ => p

theorem populateRadarStationFeature_eq (root : Json D) :
    populateRadarStationFeature root { properties := {} } =
      { id := root.getString (ascii "id")
        type := typeOr (ascii "Feature") root
        geometry := geometryOf root
        properties := readObject (fun props => fillCoordinates (geometryOf root) props
          (populateRadarStationProperties props {})) {} root (ascii "properties") } := by
  rw [populateRadarStationFeature, readObject]
  cases hprops : root.findObject (ascii "properties") with
  | none => rfl
  | some props =>
    simp only [Option.map_some, Option.getD_some, fillCoordinates, geometryOf]
    cases ((root.findObject (ascii "geometry")).map parseGeometry).getD .null with
    | point gp =>
      simp only
      cases (props.getOptionalDouble (ascii "latitude")).isNone <;> rfl
    | _ => rfl

theorem valid_radarProperties (root props : Json D) : RadarStationProperties.Valid
    (fillCoordinates (geometryOf root) props (populateRadarStationProperties props {})) := by
  have hvalid : RadarStationProperties.Valid (populateRadarStationProperties props {}) := by
    rw [populateRadarStationProperties_eq]
    exact valid_parseQvField props _
  rw [fillCoordinates.eq_def]
  split
  · split_ifs <;> exact hvalid
  · exact hvalid

theorem agree_radarProperties {a b root : Json D} (h : Agree radarKeys a b) :
    fillCoordinates (geometryOf root) a (populateRadarStationProperties a {}) =
      fillCoordinates (geometryOf root) b (populateRadarStationProperties b {}) := by
  have hkeys : quantitativeKeys ⊆ radarKeys := by decide
  simp (disch := decide) only [populateRadarStationProperties_eq, fillCoordinates, h.getString,
    h.getOptionalDouble, h.parseQvField hkeys]

theorem radarProperties_render (root : Json D) {p : RadarStationProperties D} (hvalid : p.Valid) :
    fillCoordinates (geometryOf root) (renderRadarStationProperties p)
      (populateRadarStationProperties (renderRadarStationProperties p) {}) = p := by
  have hread : populateRadarStationProperties (renderRadarStationProperties p) {} = p := by
    rw [populateRadarStationProperties_eq]
    cases p
    simp only [RadarStationProperties.mk.injEq]
    exact ⟨getString_of_lookup rfl, getString_of_lookup rfl, getString_of_lookup rfl,
      rfl, rfl, parseQvField_of_lookup hvalid rfl⟩
  have hlatitude : ((renderRadarStationProperties p).getOptionalDouble
      (ascii "latitude")).isNone = false := rfl
  rw [fillCoordinates.eq_def, hread, hlatitude]
  split <;> rfl

theorem reads_radarStation : Reads radarKeys (FeatureValid RadarStationProperties.Valid)
    (fun root : Json D => populateRadarStationFeature root { properties := {} })
    (renderFeature renderRadarStationProperties) where
  valid root := by
    rw [populateRadarStationFeature_eq]
    refine ⟨valid_typeOr (by decide) root, ?_⟩
    simp only [readObject]
    cases root.findObject (ascii "properties") with
    | none => exact rfl
    | some props => exact valid_radarProperties root props
  agree a b h := by
    have hgeometry : geometryOf a = geometryOf b :=
      reads_geometry.agree_readObject (by decide) h _ (by decide)
    have hread (x y : Json D) : Agree radarKeys x y →
        fillCoordinates (geometryOf b) x (populateRadarStationProperties x {}) =
          fillCoordinates (geometryOf b) y (populateRadarStationProperties y {}) :=
      agree_radarProperties
    simp only [populateRadarStationFeature_eq, hgeometry, readObject, GeoJsonFeature.mk.injEq]
    refine ⟨h.getString (by decide), agree_typeOr h _ (by decide), trivial, ?_⟩
    rw [h.map_findObject hread (by decide)]
  render r hr := by
    obtain ⟨id, type, geometry, properties⟩ := r
    simp only [populateRadarStationFeature_eq, GeoJsonFeature.mk.injEq]
    exact ⟨getString_of_lookup rfl, render_typeOr _ hr.type rfl, readGeometry_of_lookup rfl,
      radarProperties_render _ hr.properties⟩

end Radar

section Decode

variable (parseRoot : Text → Result (Json D))

/-- Stations, zones and aviation products, one by one and in collections, are got back from
the trees that stand for them. -/
theorem features_decode :
    FeatureDecodes parseRoot (featureKeys ++ stationKeys) StationProperties.Valid
        renderStationProperties (deserializeStationResponse parseRoot)
        (deserializeStationCollection parseRoot) ∧
      FeatureDecodes parseRoot (featureKeys ++ zoneKeys) (fun _ => True) renderZoneProperties
        (deserializeZoneFeature parseRoot) (deserializeZoneCollection parseRoot) ∧
      FeatureDecodes parseRoot (featureKeys ++ sigmetKeys) (fun _ => True) renderSigmetProperties
        (deserializeSigmetFeature parseRoot) (deserializeSigmetCollection parseRoot) ∧
      FeatureDecodes parseRoot (featureKeys ++ cwaKeys) (fun _ => True) renderCWAProperties
        (deserializeCWAFeature parseRoot) (deserializeCWACollection parseRoot) :=
  ⟨featureDecodes_of_reads parseRoot reads_station, featureDecodes_of_reads parseRoot reads_zone,
    featureDecodes_of_reads parseRoot reads_sigmet, featureDecodes_of_reads parseRoot reads_cwa⟩

/-- Radar stations are got back from the trees that stand for them, whatever the geometry
says beside the coordinates of the properties. -/
theorem radarStations_decode [Zero D] :
    FeatureDecodes parseRoot radarKeys RadarStationProperties.Valid renderRadarStationProperties
      (deserializeRadarStationFeature parseRoot)
      (deserializeRadarStationCollection parseRoot) := by
  have hcollection : deserializeRadarStationCollection parseRoot =
      deserialize parseRoot (populateCollection populateRadarStationFeature {}) {} := by
    funext body out
    rw [deserializeRadarStationCollection, deserialize]
    cases parseRoot body with
    | error error => rfl
    | ok root =>
      simp only [populateCollection, readArray]
      cases root.findArray (ascii "features") <;> rfl
  rw [hcollection]
  exact featureDecodes_of_reads parseRoot reads_radarStation

end Decode

end NwsCpp
