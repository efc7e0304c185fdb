import NwsCpp.Json

/-! Radar stations read from GeoJSON features, and where their coordinates come from. -/

namespace NwsCpp

open Bytes

section Model

structure RadarStationProperties (D : Type*) [Zero D] where
  id : Text := []
  name : Text := []
  stationType : Text := []
  latitude : D := 0
  longitude : D := 0
  elevation : QuantitativeValue D := {}

variable {D : Type*} [Zero D]

abbrev RadarStationFeature (D : Type*) [Zero D] := GeoJsonFeature D (RadarStationProperties D)

abbrev RadarStationCollectionResponse (D : Type*) [Zero D] :=
  GeoJsonFeatureCollection D (RadarStationProperties D)

def populateRadarStationProperties (props : Json D) (p : RadarStationProperties D) :
    RadarStationProperties D :=
  let p := { p with
    id := props.getString (ascii "id")
    name := props.getString (ascii "name")
    stationType := props.getString (ascii "stationType")
    latitude := (props.getOptionalDouble (ascii "latitude")).getD p.latitude
    longitude := (props.getOptionalDouble (ascii "longitude")).getD p.longitude }
  match props.findObject (ascii "elevation") with
  | some elev => { p with elevation := elev.parseQuantitativeValue p.elevation }
  | none => p

def populateRadarStationFeature (root : Json D) (r : RadarStationFeature D) :
    RadarStationFeature D :=
  let type := root.getString (ascii "type")
  let r := { r with
    id := root.getString (ascii "id")
    type := if type.isEmpty then ascii "Feature" else type
    geometry := ((root.findObject (ascii "geometry")).map Json.parseGeometry).getD r.geometry }
  match root.findObject (ascii "properties") with
  | none => r
  | some props =>
    let r := { r with properties := populateRadarStationProperties props r.properties }
    match r.geometry with
    | .point gp =>
      if (props.getOptionalDouble (ascii "latitude")).isNone then
        { r with
          properties := { r.properties with latitude := gp.latitude, longitude := gp.longitude } }
      else r
    | _ => r

section Deserialize

variable (parseRoot : Text → Result (Json D))

/-- The result and the value behind the output reference. -/
def deserializeRadarStationFeature (body : Text) (out : RadarStationFeature D) :
    Result Unit × RadarStationFeature D :=
  match parseRoot body with
  | .error error => (.error error, out)
  | .ok root => (.ok (), populateRadarStationFeature root { properties := {} })

def deserializeRadarStationCollection (body : Text) (out : RadarStationCollectionResponse D) :
    Result Unit × RadarStationCollectionResponse D :=
  match parseRoot body with
  | .error error => (.error error, out)
  | .ok root =>
    let type := root.getString (ascii "type")
    let type := if type.isEmpty then ascii "FeatureCollection" else type
    match root.findArray (ascii "features") with
    | none => (.ok (), { type })
    | some features =>
      (.ok (), { type, features := features.map fun feat =>
        populateRadarStationFeature feat { properties := {} } })

end Deserialize

end Model

section Tree

variable {D : Type*}

/-- The geometry of a feature is a valid Point. -/
def IsPoint (root : Json D) (p : GeoPoint D) : Prop :=
  ∃ geometry rest, root.lookup (ascii "geometry") = some geometry ∧
    geometry.lookup (ascii "type") = some (.str (ascii "Point")) ∧
    geometry.lookup (ascii "coordinates") = some (.arr (.num p.longitude :: .num p.latitude :: rest))

/-- The properties block of a feature is the object `props`. -/
def HasProperties (root props : Json D) : Prop :=
  root.lookup (ascii "properties") = some props ∧ ∃ members, props = .obj members

def Inlined (props : Json D) (key : Text) (x : D) : Prop := props.lookup key = some (.num x)

theorem inlined_iff {props : Json D} {key : Text} {x : D} :
    Inlined props key x ↔ props.getOptionalDouble key = some x :=
  Json.getOptionalDouble_eq_some_iff.symm

/-- The geometry that the feature is given. -/
def geometryOf (root : Json D) : Geometry D :=
  ((root.findObject (ascii "geometry")).map Json.parseGeometry).getD .null

theorem isPoint_iff {root : Json D} {p : GeoPoint D} :
    IsPoint root p ↔ geometryOf root = .point p := by
  rw [geometryOf]
  constructor
  · rintro ⟨geometry, rest, hgeometry, htype, hcoordinates⟩
    have hobj : ∃ members, geometry = .obj members := by
      cases geometry with
      | obj members => exact ⟨members, rfl⟩
      | _ => cases htype
    rw [Json.findObject_eq_some_iff.mpr ⟨hgeometry, hobj⟩]
    exact Json.parseGeometry_eq_point_iff.mpr ⟨htype, rest, hcoordinates⟩
  · intro h
    cases hfound : root.findObject (ascii "geometry") with
    | none =>
      rw [hfound] at h
      cases h
    | some geometry =>
      rw [hfound] at h
      obtain ⟨htype, rest, hcoordinates⟩ := Json.parseGeometry_eq_point_iff.mp h
      exact ⟨geometry, rest, (Json.findObject_eq_some_iff.mp hfound).1, htype, hcoordinates⟩

end Tree

variable {D : Type*} [Zero D]

/-- The value inline if there is one, else the value of the geometry if there is one, else zero. -/
def Filled (inlined geometric : D → Prop) (x : D) : Prop :=
  inlined x ∨ (∀ y, ¬inlined y) ∧ (geometric x ∨ (∀ y, ¬geometric y) ∧ x = 0)

/-- Each coordinate is filled on its own. -/
structure CoordinatesFilled (root props : Json D) (r : RadarStationProperties D) : Prop where
  latitude : Filled (Inlined props (ascii "latitude")) (fun x => ∃ p, IsPoint root p ∧ p.latitude = x)
    r.latitude
  longitude : Filled (Inlined props (ascii "longitude"))
    (fun x => ∃ p, IsPoint root p ∧ p.longitude = x) r.longitude

/-- A Point finds both inline coordinates or none, or its own longitude is what the inline
longitude, or its absence, gives anyway. -/
def Unmixed (root props : Json D) : Prop := ∀ p, IsPoint root p →
  ((∃ x, Inlined props (ascii "latitude") x) ↔ ∃ x, Inlined props (ascii "longitude") x) ∨
    (∀ x, ¬Inlined props (ascii "latitude") x) ∧ Inlined props (ascii "longitude") p.longitude ∨
    (∀ x, ¬Inlined props (ascii "longitude") x) ∧ p.longitude = 0

theorem filled_iff {inlined geometric : D → Prop} {o g : Option D} {x : D}
    (ho : ∀ y, inlined y ↔ o = some y) (hg : ∀ y, geometric y ↔ g = some y) :
    Filled inlined geometric x ↔ x = (o.or g).getD 0 := by
  simp only [Filled, ho, hg]
  cases o with
  | some y => simp [eq_comm]
  | none =>
    cases g with
    | some y => simp [eq_comm]
    | none => simp

theorem coordinates_populate {root props : Json D} (h : HasProperties root props) :
    (∀ p, geometryOf root = .point p →
      (populateRadarStationFeature root { properties := {} }).properties.latitude =
          (props.getOptionalDouble (ascii "latitude")).getD p.latitude ∧
        (populateRadarStationFeature root { properties := {} }).properties.longitude =
          if (props.getOptionalDouble (ascii "latitude")).isNone then p.longitude
          else (props.getOptionalDouble (ascii "longitude")).getD 0) ∧
    ((∀ p, geometryOf root ≠ .point p) →
      (populateRadarStationFeature root { properties := {} }).properties.latitude =
          (props.getOptionalDouble (ascii "latitude")).getD 0 ∧
        (populateRadarStationFeature root { properties := {} }).properties.longitude =
          (props.getOptionalDouble (ascii "longitude")).getD 0) := by
  have hprops := Json.findObject_eq_some_iff.mpr h
  have hinline : (populateRadarStationProperties props {}).latitude =
        (props.getOptionalDouble (ascii "latitude")).getD 0 ∧
      (populateRadarStationProperties props {}).longitude =
        (props.getOptionalDouble (ascii "longitude")).getD 0 := by
    rw [populateRadarStationProperties]
    cases props.findObject (ascii "elevation") <;> exact ⟨rfl, rfl⟩
  constructor
  · intro p hp
    rw [geometryOf] at hp
    simp only [populateRadarStationFeature, hprops, hp]
    cases hlat : props.getOptionalDouble (ascii "latitude") with
    | none => simp
    | some lat =>
      rw [hlat] at hinline
      simpa using hinline
  · intro hnot
    simp only [populateRadarStationFeature, hprops]
    split
    · rename_i p hp
      exact (hnot p hp).elim
    · exact hinline

theorem coordinatesFilled_eq {root props : Json D} {r : RadarStationProperties D}
    {g : Option (GeoPoint D)} (hg : ∀ p, IsPoint root p ↔ g = some p) :
    CoordinatesFilled root props r ↔
      r.latitude = ((props.getOptionalDouble (ascii "latitude")).or
        (g.map GeoPoint.latitude)).getD 0 ∧
      r.longitude = ((props.getOptionalDouble (ascii "longitude")).or
        (g.map GeoPoint.longitude)).getD 0 := by
  have hsplit {f : GeoPoint D → D} (y : D) : (∃ p, IsPoint root p ∧ f p = y) ↔ g.map f = some y := by
    simp [hg]
  rw [← filled_iff (fun _ => inlined_iff) hsplit, ← filled_iff (fun _ => inlined_iff) hsplit]
  exact ⟨fun h => ⟨h.latitude, h.longitude⟩, fun h => ⟨h.1, h.2⟩⟩

theorem coordinatesFilled_iff {root props : Json D} (h : HasProperties root props) :
    CoordinatesFilled root props
        (populateRadarStationFeature root { properties := {} }).properties ↔
      Unmixed root props := by
  obtain ⟨hpoint, hnone⟩ := coordinates_populate h
  by_cases hgeometry : ∃ p, geometryOf root = .point p
  · obtain ⟨p, hp⟩ := hgeometry
    obtain ⟨hlat, hlon⟩ := hpoint p hp
    have hunique (q : GeoPoint D) : IsPoint root q ↔ some p = some q := by
      rw [isPoint_iff, hp, Geometry.point.injEq, Option.some.injEq]
    rw [coordinatesFilled_eq hunique, hlat, hlon]
    simp only [Unmixed, hunique, inlined_iff]
    cases props.getOptionalDouble (ascii "latitude") <;>
      cases props.getOptionalDouble (ascii "longitude") <;> simp [eq_comm]
  · have hno (q : GeoPoint D) : IsPoint root q ↔ none = some q := by
      rw [isPoint_iff]
      simpa using fun hq => hgeometry ⟨q, hq⟩
    obtain ⟨hlat, hlon⟩ := hnone fun p hp => hgeometry ⟨p, hp⟩
    rw [coordinatesFilled_eq hno, hlat, hlon]
    simp [Unmixed, hno]

/-- In a feature, and in every feature of a collection, each coordinate is filled on its own
exactly when the feature is unmixed. -/
theorem radarStation_coordinates_iff (parseRoot : Text → Result (Json D)) :
    (∀ body out root props, parseRoot body = .ok root → HasProperties root props →
      (CoordinatesFilled root props (deserializeRadarStationFeature parseRoot body out).2.properties ↔
        Unmixed root props)) ∧
    ∀ body out root features, parseRoot body = .ok root →
      root.lookup (ascii "features") = some (.arr features) →
        List.Forall₂ (fun feature station => ∀ props, HasProperties feature props →
            (CoordinatesFilled feature props station.properties ↔ Unmixed feature props))
          features (deserializeRadarStationCollection parseRoot body out).2.features := by
  constructor
  · intro body out root props hroot h
    rw [deserializeRadarStationFeature, hroot]
    exact coordinatesFilled_iff h
  · intro body out root features hroot hfeatures
    rw [deserializeRadarStationCollection, hroot]
    simp only [Json.findArray_eq_some_iff.mpr hfeatures]
    rw [List.forall₂_map_right_iff, List.forall₂_same]
    exact fun feature _ props h => coordinatesFilled_iff h

def mixedProperties : Json ℚ := .obj [(ascii "longitude", .num (-100))]

/-- A feature with an inline longitude only. -/
def mixedStation : Json ℚ :=
  .obj [(ascii "geometry", .obj [(ascii "type", .str (ascii "Point")),
      (ascii "coordinates", .arr [.num (-97.5), .num 39.5])]),
    (ascii "properties", mixedProperties)]

theorem hasProperties_mixed : HasProperties mixedStation mixedProperties := by
  have hkey : (ascii "properties" == ascii "geometry") = false := by decide
  exact ⟨by simp [mixedStation, Json.lookup, List.lookup, hkey], _, rfl⟩

def mixedDocument : Text :=
  ascii "\x7b\"geometry\":\x7b\"type\":\"Point\",\"coordinates\":[-97.5,39.5]\x7d," ++
    ascii "\"properties\":\x7b\"longitude\":-100\x7d\x7d"

/-- The inline longitude is overwritten with the one of the geometry. -/
theorem coordinates_mixed :
    HasProperties mixedStation mixedProperties ∧
      Inlined mixedProperties (ascii "longitude") (-100) ∧
      (deserializeRadarStationFeature (Json.readerOf mixedDocument mixedStation) mixedDocument
        { properties := {} }).2.properties.longitude = -97.5 ∧
      ¬CoordinatesFilled mixedStation mixedProperties
        (deserializeRadarStationFeature (Json.readerOf mixedDocument mixedStation) mixedDocument
          { properties := {} }).2.properties := by
  have hinline : Inlined mixedProperties (ascii "longitude") (-100) := by
    simp [Inlined, mixedProperties, Json.lookup]
  have hlongitude : (deserializeRadarStationFeature (Json.readerOf mixedDocument mixedStation)
      mixedDocument { properties := {} }).2.properties.longitude = -97.5 := by
    rw [deserializeRadarStationFeature, Json.readerOf_document]
    decide +kernel
  refine ⟨hasProperties_mixed, hinline, hlongitude, fun h => ?_⟩
  rcases h.longitude with hvalue | ⟨hnone, -⟩
  · rw [hlongitude] at hvalue
    have heq := Json.num.inj (Option.some.inj (hinline.symm.trans hvalue))
    norm_num at heq
  · exact hnone _ hinline

def topekaStation : Json ℚ :=
  .obj [(ascii "geometry", .obj [(ascii "type", .str (ascii "Point")),
      (ascii "coordinates", .arr [.num (-97.5), .num 39.5])]),
    (ascii "properties", .obj [])]

def topekaDocument : Text :=
  ascii "\x7b\"geometry\":\x7b\"type\":\"Point\",\"coordinates\":[-97.5,39.5]\x7d," ++
    ascii "\"properties\":\x7b\x7d\x7d"

theorem coordinates_topeka :
    CoordinatesFilled topekaStation (.obj []) (deserializeRadarStationFeature
      (Json.readerOf topekaDocument topekaStation) topekaDocument
        { properties := {} }).2.properties := by
  have hkey : (ascii "properties" == ascii "geometry") = false := by decide
  refine ((radarStation_coordinates_iff (Json.readerOf topekaDocument topekaStation)).1
    topekaDocument _ topekaStation _ (Json.readerOf_document _ _)
    ⟨by simp [topekaStation, Json.lookup, List.lookup, hkey], _, rfl⟩).mpr fun p _ => .inl ?_
  simp [Inlined, Json.lookup]

end NwsCpp
