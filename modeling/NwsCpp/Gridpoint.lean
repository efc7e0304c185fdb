import NwsCpp.GeoJson

/-! Points of the grid: where a coordinate lies, and the layers of data at a grid point. -/

namespace NwsCpp

open Bytes Json

variable {D : Type*}

section Layers

structure GridpointTimeValue (D : Type*) where
  validTime : Text := []
  value : Option D := none

structure GridpointLayer (D : Type*) where
  uom : Text := []
  unit : MeasureUnit := .unknown
  values : List (GridpointTimeValue D) := []

structure GridpointProperties (D : Type*) where
  updateTime : Text := []
  validTimes : Text := []
  elevation : QuantitativeValue D := {}
  gridId : Text := []
  gridX : Int32 := 0
  gridY : Int32 := 0
  temperature : Option (GridpointLayer D) := none
  dewpoint : Option (GridpointLayer D) := none
  maxTemperature : Option (GridpointLayer D) := none
  minTemperature : Option (GridpointLayer D) := none
  relativeHumidity : Option (GridpointLayer D) := none
  apparentTemperature : Option (GridpointLayer D) := none
  heatIndex : Option (GridpointLayer D) := none
  windChill : Option (GridpointLayer D) := none
  skyCover : Option (GridpointLayer D) := none
  windDirection : Option (GridpointLayer D) := none
  windSpeed : Option (GridpointLayer D) := none
  windGust : Option (GridpointLayer D) := none
  probabilityOfPrecipitation : Option (GridpointLayer D) := none
  quantitativePrecipitation : Option (GridpointLayer D) := none
  iceAccumulation : Option (GridpointLayer D) := none
  snowfallAmount : Option (GridpointLayer D) := none
  ceilingHeight : Option (GridpointLayer D) := none
  visibility : Option (GridpointLayer D) := none
  pressure : Option (GridpointLayer D) := none

abbrev GridpointResponse (D : Type*) := GeoJsonFeature D (GridpointProperties D)

def readTimeValue (node : Json D) : GridpointTimeValue D where
  validTime := node.getString (ascii "validTime")
  value := node.getOptionalDouble (ascii "value")

def populateLayer (node : Json D) (layer : GridpointLayer D) : GridpointLayer D :=
  let uom := node.getString (ascii "uom")
  { uom
    unit := MeasureUnit.parseUnitCode uom
    values := readArray readTimeValue layer.values node (ascii "values") }

def maybeLayer (props : Json D) (key : Text) (target : Option (GridpointLayer D)) :
    Option (GridpointLayer D) :=
  readObject (fun node => some (populateLayer node {})) target props key

def populateGridpointProperties [JsonDouble D] (props : Json D) (p : GridpointProperties D) :
    GridpointProperties D where
  updateTime := props.getString (ascii "updateTime")
  validTimes := props.getString (ascii "validTimes")
  gridId := props.getString (ascii "gridId")
  gridX := props.getInt (ascii "gridX") 0
  gridY := props.getInt (ascii "gridY") 0
  elevation := props.parseQvField (ascii "elevation") p.elevation
  temperature := maybeLayer props (ascii "temperature") p.temperature
  dewpoint := maybeLayer props (ascii "dewpoint") p.dewpoint
  maxTemperature := maybeLayer props (ascii "maxTemperature") p.maxTemperature
  minTemperature := maybeLayer props (ascii "minTemperature") p.minTemperature
  relativeHumidity := maybeLayer props (ascii "relativeHumidity") p.relativeHumidity
  apparentTemperature := maybeLayer props (ascii "apparentTemperature") p.apparentTemperature
  heatIndex := maybeLayer props (ascii "heatIndex") p.heatIndex
  windChill := maybeLayer props (ascii "windChill") p.windChill
  skyCover := maybeLayer props (ascii "skyCover") p.skyCover
  windDirection := maybeLayer props (ascii "windDirection") p.windDirection
  windSpeed := maybeLayer props (ascii "windSpeed") p.windSpeed
  windGust := maybeLayer props (ascii "windGust") p.windGust
  probabilityOfPrecipitation :=
    maybeLayer props (ascii "probabilityOfPrecipitation") p.probabilityOfPrecipitation
  quantitativePrecipitation :=
    maybeLayer props (ascii "quantitativePrecipitation") p.quantitativePrecipitation
  iceAccumulation := maybeLayer props (ascii "iceAccumulation") p.iceAccumulation
  snowfallAmount := maybeLayer props (ascii "snowfallAmount") p.snowfallAmount
  ceilingHeight := maybeLayer props (ascii "ceilingHeight") p.ceilingHeight
  visibility := maybeLayer props (ascii "visibility") p.visibility
  pressure := maybeLayer props (ascii "pressure") p.pressure

def populateGridpointResponse [JsonDouble D] (root : Json D) (out : GridpointResponse D) :
    GridpointResponse D :=
  populateFeature populateGridpointProperties root out

def deserializeGridpointResponse [JsonDouble D] (parseRoot : Text → Result (Json D)) :
    Text → GridpointResponse D → Result Unit × GridpointResponse D :=
  deserialize parseRoot populateGridpointResponse { properties := {} }

end Layers

section Points

structure RelativeLocationProperties (D : Type*) where
  city : Text := []
  state : Text := []
  distance : QuantitativeValue D := {}
  bearing : QuantitativeValue D := {}

structure RelativeLocation (D : Type*) where
  geometry : Geometry D := .null
  properties : RelativeLocationProperties D := {}

structure PointProperties (D : Type*) where
  id : Text := []
  gridId : Text := []
  gridX : Int32 := 0
  gridY : Int32 := 0
  forecastUrl : Text := []
  forecastHourlyUrl : Text := []
  forecastGridDataUrl : Text := []
  observationStationsUrl : Text := []
  forecastZoneUrl : Text := []
  countyUrl : Text := []
  fireWeatherZoneUrl : Text := []
  timeZone : Text := []
  radarStation : Text := []
  relativeLocation : RelativeLocation D := {}

abbrev PointResponse (D : Type*) := GeoJsonFeature D (PointProperties D)

def readRelativeProperties (props : Json D) (p : RelativeLocationProperties D) :
    RelativeLocationProperties D where
  city := props.getString (ascii "city")
  state := props.getString (ascii "state")
  distance := props.parseQvField (ascii "distance") p.distance
  bearing := props.parseQvField (ascii "bearing") p.bearing

def readRelativeLocation (rl : Json D) (r : RelativeLocation D) : RelativeLocation D where
  geometry := readObject parseGeometry r.geometry rl (ascii "geometry")
  properties := readObject (fun props => readRelativeProperties props r.properties) r.properties
    rl (ascii "properties")

def populatePointProperties [JsonDouble D] (props : Json D) (p : PointProperties D) :
    PointProperties D where
  id := props.getString (ascii "@id")
  gridId := props.getString (ascii "gridId")
  gridX := props.getInt (ascii "gridX") 0
  gridY := props.getInt (ascii "gridY") 0
  forecastUrl := props.getString (ascii "forecast")
  forecastHourlyUrl := props.getString (ascii "forecastHourly")
  forecastGridDataUrl := props.getString (ascii "forecastGridData")
  observationStationsUrl := props.getString (ascii "observationStations")
  forecastZoneUrl := props.getString (ascii "forecastZone")
  countyUrl := props.getString (ascii "county")
  fireWeatherZoneUrl := props.getString (ascii "fireWeatherZone")
  timeZone := props.getString (ascii "timeZone")
  radarStation := props.getString (ascii "radarStation")
  relativeLocation := readObject (fun rl => readRelativeLocation rl p.relativeLocation)
    p.relativeLocation props (ascii "relativeLocation")

def populatePointResponse [JsonDouble D] (root : Json D) (out : PointResponse D) :
    PointResponse D :=
  populateFeature populatePointProperties root out

def deserializePointResponse [JsonDouble D] (parseRoot : Text → Result (Json D)) :
    Text → PointResponse D → Result Unit × PointResponse D :=
  deserialize parseRoot populatePointResponse { properties := {} }

end Points

section LayerTrees

def timeValueKeys : List Text := [ascii "validTime", ascii "value"]

def renderTimeValue (tv : GridpointTimeValue D) : Json D :=
  .obj [(ascii "validTime", .str tv.validTime), (ascii "value", ofOptionalNumber tv.value)]

theorem reads_timeValue : Reads timeValueKeys (fun _ => True)
    (readTimeValue : Json D → GridpointTimeValue D) renderTimeValue where
  valid _ := trivial
  agree a b h := by
    rw [readTimeValue, readTimeValue, h.getString (by decide), h.getOptionalDouble (by decide)]
  render tv _ := by
    rw [readTimeValue, renderTimeValue, getString_of_lookup rfl, getOptionalDouble_of_lookup rfl]

def layerKeys : List Text := timeValueKeys ++ [ascii "uom", ascii "values"]

def LayerValid (layer : GridpointLayer D) : Prop :=
  layer.unit = MeasureUnit.parseUnitCode layer.uom

def renderLayer (layer : GridpointLayer D) : Json D :=
  .obj [(ascii "uom", .str layer.uom), (ascii "values", .arr (layer.values.map renderTimeValue))]

theorem reads_layer : Reads layerKeys LayerValid (fun node : Json D => populateLayer node {})
    renderLayer where
  valid _ := rfl
  agree a b h := by
    have hvalues := reads_timeValue.agree_readArray (List.subset_append_left _ _) h []
      (by decide : ascii "values" ∈ layerKeys)
    simp (disch := decide) only [populateLayer, h.getString, hvalues]
  render layer hvalid := by
    obtain ⟨uom, unit, values⟩ := layer
    obtain rfl : unit = MeasureUnit.parseUnitCode uom := hvalid
    simp only [populateLayer, GridpointLayer.mk.injEq]
    exact ⟨getString_of_lookup rfl, rfl,
      reads_timeValue.render_readArray _ (fun _ _ => trivial) rfl⟩

/-- A layer, or the null that stands for none. -/
def renderMaybeLayer : Option (GridpointLayer D) → Json D
  | some layer => renderLayer layer
  | none => .null

def MaybeValid (layer : Option (GridpointLayer D)) : Prop := ∀ l ∈ layer, LayerValid l

theorem valid_maybeLayer (props : Json D) (key : Text) :
    MaybeValid (maybeLayer props key none) := by
  rw [maybeLayer, readObject]
  cases props.findObject key with
  | none => exact fun _ h => absurd h (Option.some_ne_none _).symm
  | some node => exact fun _ h => Option.some.inj h ▸ reads_layer.valid node

theorem agree_maybeLayer {keys : List Text} {a b : Json D} {key : Text} (h : Agree keys a b)
    (hkeys : layerKeys ⊆ keys) (hkey : key ∈ keys) :
    maybeLayer a key none = maybeLayer b key none := by
  have hread : ∀ x y : Json D, Agree keys x y → some (populateLayer x {}) = some (populateLayer y {}) :=
    fun x y hxy => congrArg some (reads_layer.agree x y (hxy.mono hkeys))
  rw [maybeLayer, maybeLayer, readObject, readObject, h.map_findObject hread hkey]

theorem maybeLayer_of_lookup {node : Json D} {key : Text} {layer : Option (GridpointLayer D)}
    (hvalid : MaybeValid layer) (h : node.lookup key = some (renderMaybeLayer layer)) :
    maybeLayer node key none = layer := by
  cases layer with
  | none => rw [maybeLayer, readObject, findObject, h]; rfl
  | some layer =>
    rw [maybeLayer, readObject, findObject_of_lookup h, Option.map_some, Option.getD_some]
    exact congrArg some (reads_layer.render layer (hvalid layer rfl))

/-- The layers of a grid point. -/
def GridpointProperties.layers (p : GridpointProperties D) : List (Option (GridpointLayer D)) :=
  [p.temperature, p.dewpoint, p.maxTemperature, p.minTemperature, p.relativeHumidity,
    p.apparentTemperature, p.heatIndex, p.windChill, p.skyCover, p.windDirection, p.windSpeed,
    p.windGust, p.probabilityOfPrecipitation, p.quantitativePrecipitation, p.iceAccumulation,
    p.snowfallAmount, p.ceilingHeight, p.visibility, p.pressure]

structure GridpointProperties.Valid (p : GridpointProperties D) : Prop where
  elevation : QuantitativeValid p.elevation
  layers : ∀ layer ∈ p.layers, MaybeValid layer

def gridpointKeys : List Text :=
  quantitativeKeys ++ layerKeys ++ [ascii "updateTime", ascii "validTimes", ascii "gridId",
    ascii "gridX", ascii "gridY", ascii "elevation", ascii "temperature", ascii "dewpoint",
    ascii "maxTemperature", ascii "minTemperature", ascii "relativeHumidity",
    ascii "apparentTemperature", ascii "heatIndex", ascii "windChill", ascii "skyCover",
    ascii "windDirection", ascii "windSpeed", ascii "windGust",
    ascii "probabilityOfPrecipitation", ascii "quantitativePrecipitation",
    ascii "iceAccumulation", ascii "snowfallAmount", ascii "ceilingHeight",
    ascii "visibility", ascii "pressure"]

variable [JsonDouble D]

def renderGridpointProperties (p : GridpointProperties D) : Json D :=
  .obj [(ascii "updateTime", .str p.updateTime), (ascii "validTimes", .str p.validTimes),
    (ascii "gridId", .str p.gridId), (ascii "gridX", ofInt32 p.gridX),
    (ascii "gridY", ofInt32 p.gridY), (ascii "elevation", renderQuantitativeValue p.elevation),
    (ascii "temperature", renderMaybeLayer p.temperature),
    (ascii "dewpoint", renderMaybeLayer p.dewpoint),
    (ascii "maxTemperature", renderMaybeLayer p.maxTemperature),
    (ascii "minTemperature", renderMaybeLayer p.minTemperature),
    (ascii "relativeHumidity", renderMaybeLayer p.relativeHumidity),
    (ascii "apparentTemperature", renderMaybeLayer p.apparentTemperature),
    (ascii "heatIndex", renderMaybeLayer p.heatIndex),
    (ascii "windChill", renderMaybeLayer p.windChill),
    (ascii "skyCover", renderMaybeLayer p.skyCover),
    (ascii "windDirection", renderMaybeLayer p.windDirection),
    (ascii "windSpeed", renderMaybeLayer p.windSpeed),
    (ascii "windGust", renderMaybeLayer p.windGust),
    (ascii "probabilityOfPrecipitation", renderMaybeLayer p.probabilityOfPrecipitation),
    (ascii "quantitativePrecipitation", renderMaybeLayer p.quantitativePrecipitation),
    (ascii "iceAccumulation", renderMaybeLayer p.iceAccumulation),
    (ascii "snowfallAmount", renderMaybeLayer p.snowfallAmount),
    (ascii "ceilingHeight", renderMaybeLayer p.ceilingHeight),
    (ascii "visibility", renderMaybeLayer p.visibility),
    (ascii "pressure", renderMaybeLayer p.pressure)]

theorem reads_gridpointProperties [LawfulJsonDouble D] :
    Reads gridpointKeys GridpointProperties.Valid
      (fun props : Json D => populateGridpointProperties props {}) renderGridpointProperties where
  valid props := ⟨valid_parseQvField props _, by
    simp [GridpointProperties.layers, populateGridpointProperties, valid_maybeLayer]⟩
  agree a b h := by
    have hquantity : quantitativeKeys ⊆ gridpointKeys := by decide
    have hlayer (key : Text) : key ∈ gridpointKeys → maybeLayer a key none = maybeLayer b key none :=
      agree_maybeLayer h (by decide)
    simp (disch := decide) only [populateGridpointProperties, h.getInt, h.getString,
      h.parseQvField hquantity, hlayer]
  render p hvalid := by
    obtain ⟨helevation, hlayers⟩ := hvalid
    cases p
    simp only [GridpointProperties.layers, List.forall_mem_cons] at hlayers
    obtain ⟨htemperature, hdewpoint, hmax, hmin, hhumidity, happarent, hheat, hchill, hsky,
      hdirection, hspeed, hgust, hprobability, hquantity, hice, hsnow, hceiling, hvisibility,
      hpressure, -⟩ := hlayers
    simp only [populateGridpointProperties, GridpointProperties.mk.injEq]
    exact ⟨getString_of_lookup rfl, getString_of_lookup rfl,
      parseQvField_of_lookup helevation rfl, getString_of_lookup rfl, getInt_of_lookup _ rfl,
      getInt_of_lookup _ rfl, maybeLayer_of_lookup htemperature rfl,
      maybeLayer_of_lookup hdewpoint rfl, maybeLayer_of_lookup hmax rfl,
      maybeLayer_of_lookup hmin rfl, maybeLayer_of_lookup hhumidity rfl,
      maybeLayer_of_lookup happarent rfl, maybeLayer_of_lookup hheat rfl,
      maybeLayer_of_lookup hchill rfl, maybeLayer_of_lookup hsky rfl,
      maybeLayer_of_lookup hdirection rfl, maybeLayer_of_lookup hspeed rfl,
      maybeLayer_of_lookup hgust rfl, maybeLayer_of_lookup hprobability rfl,
      maybeLayer_of_lookup hquantity rfl, maybeLayer_of_lookup hice rfl,
      maybeLayer_of_lookup hsnow rfl, maybeLayer_of_lookup hceiling rfl,
      maybeLayer_of_lookup hvisibility rfl, maybeLayer_of_lookup hpressure rfl⟩

end LayerTrees

section PointTrees

def relativePropertiesKeys : List Text :=
  quantitativeKeys ++ [ascii "city", ascii "state", ascii "distance", ascii "bearing"]

structure RelativeLocationProperties.Valid (p : RelativeLocationProperties D) : Prop where
  distance : QuantitativeValid p.distance
  bearing : QuantitativeValid p.bearing

def renderRelativeProperties (p : RelativeLocationProperties D) : Json D :=
  .obj [(ascii "city", .str p.city), (ascii "state", .str p.state),
    (ascii "distance", renderQuantitativeValue p.distance),
    (ascii "bearing", renderQuantitativeValue p.bearing)]

theorem reads_relativeProperties : Reads relativePropertiesKeys RelativeLocationProperties.Valid
    (fun props : Json D => readRelativeProperties props {}) renderRelativeProperties where
  valid props := ⟨valid_parseQvField props _, valid_parseQvField props _⟩
  agree a b h := by
    have hkeys : quantitativeKeys ⊆ relativePropertiesKeys := by decide
    simp (disch := decide) only [readRelativeProperties, h.getString, h.parseQvField hkeys]
  render p hvalid := by
    cases p
    simp only [readRelativeProperties, RelativeLocationProperties.mk.injEq]
    exact ⟨getString_of_lookup rfl, getString_of_lookup rfl,
      parseQvField_of_lookup hvalid.distance rfl, parseQvField_of_lookup hvalid.bearing rfl⟩

def relativeLocationKeys : List Text :=
  geometryKeys ++ relativePropertiesKeys ++ [ascii "geometry", ascii "properties"]

def renderRelativeLocation (r : RelativeLocation D) : Json D :=
  .obj [(ascii "geometry", renderGeometry r.geometry),
    (ascii "properties", renderRelativeProperties r.properties)]

theorem reads_relativeLocation : Reads relativeLocationKeys
    (fun r => RelativeLocationProperties.Valid r.properties)
    (fun rl : Json D => readRelativeLocation rl {}) renderRelativeLocation where
  valid rl := reads_relativeProperties.valid_readObject (reads_relativeProperties.valid .null) rl _
  agree a b h := by
    simp only [readRelativeLocation, RelativeLocation.mk.injEq]
    exact ⟨reads_geometry.agree_readObject (by decide) h _ (by decide),
      reads_relativeProperties.agree_readObject (by decide) h _ (by decide)⟩
  render r hvalid := by
    obtain ⟨geometry, properties⟩ := r
    simp only [readRelativeLocation, RelativeLocation.mk.injEq]
    exact ⟨readGeometry_of_lookup rfl, reads_relativeProperties.render_readObject _ hvalid rfl rfl⟩

def pointKeys : List Text :=
  relativeLocationKeys ++ [ascii "@id", ascii "gridId", ascii "gridX", ascii "gridY",
    ascii "forecast", ascii "forecastHourly", ascii "forecastGridData",
    ascii "observationStations", ascii "forecastZone", ascii "county",
    ascii "fireWeatherZone", ascii "timeZone", ascii "radarStation", ascii "relativeLocation"]

def PointProperties.Valid (p : PointProperties D) : Prop := p.relativeLocation.properties.Valid

variable [JsonDouble D]

def renderPointProperties (p : PointProperties D) : Json D :=
  .obj [(ascii "@id", .str p.id), (ascii "gridId", .str p.gridId),
    (ascii "gridX", ofInt32 p.gridX), (ascii "gridY", ofInt32 p.gridY),
    (ascii "forecast", .str p.forecastUrl), (ascii "forecastHourly", .str p.forecastHourlyUrl),
    (ascii "forecastGridData", .str p.forecastGridDataUrl),
    (ascii "observationStations", .str p.observationStationsUrl),
    (ascii "forecastZone", .str p.forecastZoneUrl), (ascii "county", .str p.countyUrl),
    (ascii "fireWeatherZone", .str p.fireWeatherZoneUrl), (ascii "timeZone", .str p.timeZone),
    (ascii "radarStation", .str p.radarStation),
    (ascii "relativeLocation", renderRelativeLocation p.relativeLocation)]

theorem reads_pointProperties [LawfulJsonDouble D] : Reads pointKeys PointProperties.Valid
    (fun props : Json D => populatePointProperties props {}) renderPointProperties where
  valid props := reads_relativeLocation.valid_readObject (reads_relativeLocation.valid .null) props _
  agree a b h := by
    have hrelative := reads_relativeLocation.agree_readObject (List.subset_append_left _ _) h {}
      (by decide : ascii "relativeLocation" ∈ pointKeys)
    simp (disch := decide) only [populatePointProperties, h.getString, h.getInt, hrelative]
  render p hvalid := by
    cases p
    simp only [populatePointProperties, PointProperties.mk.injEq]
    exact ⟨getString_of_lookup rfl, getString_of_lookup rfl, getInt_of_lookup _ rfl,
      getInt_of_lookup _ rfl, getString_of_lookup rfl, getString_of_lookup rfl,
      getString_of_lookup rfl, getString_of_lookup rfl, getString_of_lookup rfl,
      getString_of_lookup rfl, getString_of_lookup rfl, getString_of_lookup rfl,
      getString_of_lookup rfl, reads_relativeLocation.render_readObject _ hvalid rfl rfl⟩

end PointTrees

section Decode

variable [JsonDouble D] [LawfulJsonDouble D]

theorem reads_gridpoint : Reads (featureKeys ++ gridpointKeys)
    (FeatureValid GridpointProperties.Valid)
    (fun root : Json D => populateGridpointResponse root { properties := {} })
    (renderFeature renderGridpointProperties) :=
  reads_feature reads_gridpointProperties (reads_gridpointProperties.valid .null)
    fun _ => ⟨_, rfl⟩

theorem reads_point : Reads (featureKeys ++ pointKeys) (FeatureValid PointProperties.Valid)
    (fun root : Json D => populatePointResponse root { properties := {} })
    (renderFeature renderPointProperties) :=
  reads_feature reads_pointProperties (reads_pointProperties.valid .null) fun _ => ⟨_, rfl⟩

/-- Grid points, with any of their layers, and points are got back from the trees that
stand for them. -/
theorem gridpoints_decode (parseRoot : Text → Result (Json D)) :
    Decodes parseRoot (Agree (featureKeys ++ gridpointKeys))
        (FeatureValid GridpointProperties.Valid) (renderFeature renderGridpointProperties)
        (deserializeGridpointResponse parseRoot) ∧
      Decodes parseRoot (Agree (featureKeys ++ pointKeys)) (FeatureValid PointProperties.Valid)
        (renderFeature renderPointProperties) (deserializePointResponse parseRoot) :=
  ⟨decodes_of_reads parseRoot reads_gridpoint, decodes_of_reads parseRoot reads_point⟩

def prairiePoint : PointResponse Int where
  geometry := .point ⟨-97, 39⟩
  properties := { gridId := ascii "TOP", gridX := 32, gridY := 81 }

theorem gridpoints_decode_prairie :
    let tree : Json Int := renderFeature renderPointProperties prairiePoint
    deserializePointResponse (Json.readerOf tree.document tree) tree.document
        { properties := {} } = (.ok (), prairiePoint) := by
  intro tree
  have hvalid : FeatureValid PointProperties.Valid prairiePoint := ⟨by decide, rfl, rfl⟩
  exact (gridpoints_decode _).2.inverse prairiePoint hvalid _ _ _ (Json.readerOf_document _ _)
    (.refl _)

end Decode

end NwsCpp
