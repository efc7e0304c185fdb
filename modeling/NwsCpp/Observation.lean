import NwsCpp.GeoJson

/-! Observations and their cloud layers. -/

namespace NwsCpp

open Bytes Json

structure CloudLayer (D : Type*) where
  base : QuantitativeValue D := {}
  amount : Text := []

structure ObservationProperties (D : Type*) where
  id : Text := []
  stationUrl : Text := []
  stationId : Text := []
  stationName : Text := []
  timestamp : Text := []
  rawMessage : Text := []
  textDescription : Text := []
  icon : Text := []
  elevation : QuantitativeValue D := {}
  temperature : QuantitativeValue D := {}
  dewpoint : QuantitativeValue D := {}
  windDirection : QuantitativeValue D := {}
  windSpeed : QuantitativeValue D := {}
  windGust : QuantitativeValue D := {}
  barometricPressure : QuantitativeValue D := {}
  seaLevelPressure : QuantitativeValue D := {}
  visibility : QuantitativeValue D := {}
  relativeHumidity : QuantitativeValue D := {}
  windChill : QuantitativeValue D := {}
  heatIndex : QuantitativeValue D := {}
  precipitationLastHour : QuantitativeValue D := {}
  precipitationLast3Hours : QuantitativeValue D := {}
  precipitationLast6Hours : QuantitativeValue D := {}
  maxTemperatureLast24Hours : QuantitativeValue D := {}
  minTemperatureLast24Hours : QuantitativeValue D := {}
  cloudLayers : List (CloudLayer D) := []

variable {D : Type*}

abbrev ObservationResponse (D : Type*) := GeoJsonFeature D (ObservationProperties D)

abbrev ObservationCollectionResponse (D : Type*) :=
  GeoJsonFeatureCollection D (ObservationProperties D)

def readCloudLayer (layer : Json D) : CloudLayer D where
  base := layer.parseQvField (ascii "base") {}
  amount := layer.getString (ascii "amount")

def populateObservationProperties (props : Json D) (p : ObservationProperties D) :
    ObservationProperties D where
  id := props.getString (ascii "@id")
  stationUrl := props.getString (ascii "station")
  stationId := props.getString (ascii "stationId")
  stationName := props.getString (ascii "stationName")
  timestamp := props.getString (ascii "timestamp")
  rawMessage := props.getString (ascii "rawMessage")
  textDescription := props.getString (ascii "textDescription")
  icon := props.getString (ascii "icon")
  elevation := props.parseQvField (ascii "elevation") p.elevation
  temperature := props.parseQvField (ascii "temperature") p.temperature
  dewpoint := props.parseQvField (ascii "dewpoint") p.dewpoint
  windDirection := props.parseQvField (ascii "windDirection") p.windDirection
  windSpeed := props.parseQvField (ascii "windSpeed") p.windSpeed
  windGust := props.parseQvField (ascii "windGust") p.windGust
  barometricPressure := props.parseQvField (ascii "barometricPressure") p.barometricPressure
  seaLevelPressure := props.parseQvField (ascii "seaLevelPressure") p.seaLevelPressure
  visibility := props.parseQvField (ascii "visibility") p.visibility
  relativeHumidity := props.parseQvField (ascii "relativeHumidity") p.relativeHumidity
  windChill := props.parseQvField (ascii "windChill") p.windChill
  heatIndex := props.parseQvField (ascii "heatIndex") p.heatIndex
  precipitationLastHour :=
    props.parseQvField (ascii "precipitationLastHour") p.precipitationLastHour
  precipitationLast3Hours :=
    props.parseQvField (ascii "precipitationLast3Hours") p.precipitationLast3Hours
  precipitationLast6Hours :=
    props.parseQvField (ascii "precipitationLast6Hours") p.precipitationLast6Hours
  maxTemperatureLast24Hours :=
    props.parseQvField (ascii "maxTemperatureLast24Hours") p.maxTemperatureLast24Hours
  minTemperatureLast24Hours :=
    props.parseQvField (ascii "minTemperatureLast24Hours") p.minTemperatureLast24Hours
  cloudLayers := readArray readCloudLayer p.cloudLayers props (ascii "cloudLayers")

def populateObservationResponse (root : Json D) (r : ObservationResponse D) :
    ObservationResponse D :=
  populateFeature populateObservationProperties root r

section Deserialize

variable (parseRoot : Text → Result (Json D))

def deserializeObservationResponse :
    Text → ObservationResponse D → Result Unit × ObservationResponse D :=
  deserialize parseRoot populateObservationResponse { properties := {} }

def deserializeObservationCollection :
    Text → ObservationCollectionResponse D → Result Unit × ObservationCollectionResponse D :=
  deserialize parseRoot (populateCollection populateObservationResponse {}) {}

end Deserialize

section Render

def cloudLayerKeys : List Text := quantitativeKeys ++ [ascii "base", ascii "amount"]

def renderCloudLayer (layer : CloudLayer D) : Json D :=
  .obj [(ascii "base", renderQuantitativeValue layer.base), (ascii "amount", .str layer.amount)]

theorem reads_cloudLayer : Reads cloudLayerKeys (fun layer => QuantitativeValid layer.base)
    (readCloudLayer : Json D → CloudLayer D) renderCloudLayer where
  valid layer := valid_parseQvField layer _
  agree a b h := by
    rw [readCloudLayer, readCloudLayer, h.parseQvField (by decide) (by decide),
      h.getString (by decide)]
  render layer hvalid := by
    rw [readCloudLayer, renderCloudLayer, parseQvField_of_lookup hvalid rfl,
      getString_of_lookup rfl]

/-- The measured values of an observation. -/
def ObservationProperties.values (p : ObservationProperties D) : List (QuantitativeValue D) :=
  [p.elevation, p.temperature, p.dewpoint, p.windDirection, p.windSpeed, p.windGust,
    p.barometricPressure, p.seaLevelPressure, p.visibility, p.relativeHumidity, p.windChill,
    p.heatIndex, p.precipitationLastHour, p.precipitationLast3Hours, p.precipitationLast6Hours,
    p.maxTemperatureLast24Hours, p.minTemperatureLast24Hours]

structure ObservationProperties.Valid (p : ObservationProperties D) : Prop where
  values : ∀ qv ∈ p.values, QuantitativeValid qv
  cloudLayers : ∀ layer ∈ p.cloudLayers, QuantitativeValid layer.base

def observationKeys : List Text :=
  cloudLayerKeys ++ [ascii "@id", ascii "station", ascii "stationId", ascii "stationName",
    ascii "timestamp", ascii "rawMessage", ascii "textDescription", ascii "icon",
    ascii "elevation", ascii "temperature", ascii "dewpoint", ascii "windDirection",
    ascii "windSpeed", ascii "windGust", ascii "barometricPressure", ascii "seaLevelPressure",
    ascii "visibility", ascii "relativeHumidity", ascii "windChill", ascii "heatIndex",
    ascii "precipitationLastHour", ascii "precipitationLast3Hours",
    ascii "precipitationLast6Hours", ascii "maxTemperatureLast24Hours",
    ascii "minTemperatureLast24Hours", ascii "cloudLayers"]

def renderObservationProperties (p : ObservationProperties D) : Json D :=
  .obj [(ascii "@id", .str p.id), (ascii "station", .str p.stationUrl),
    (ascii "stationId", .str p.stationId), (ascii "stationName", .str p.stationName),
    (ascii "timestamp", .str p.timestamp), (ascii "rawMessage", .str p.rawMessage),
    (ascii "textDescription", .str p.textDescription), (ascii "icon", .str p.icon),
    (ascii "elevation", renderQuantitativeValue p.elevation),
    (ascii "temperature", renderQuantitativeValue p.temperature),
    (ascii "dewpoint", renderQuantitativeValue p.dewpoint),
    (ascii "windDirection", renderQuantitativeValue p.windDirection),
    (ascii "windSpeed", renderQuantitativeValue p.windSpeed),
    (ascii "windGust", renderQuantitativeValue p.windGust),
    (ascii "barometricPressure", renderQuantitativeValue p.barometricPressure),
    (ascii "seaLevelPressure", renderQuantitativeValue p.seaLevelPressure),
    (ascii "visibility", renderQuantitativeValue p.visibility),
    (ascii "relativeHumidity", renderQuantitativeValue p.relativeHumidity),
    (ascii "windChill", renderQuantitativeValue p.windChill),
    (ascii "heatIndex", renderQuantitativeValue p.heatIndex),
    (ascii "precipitationLastHour", renderQuantitativeValue p.precipitationLastHour),
    (ascii "precipitationLast3Hours", renderQuantitativeValue p.precipitationLast3Hours),
    (ascii "precipitationLast6Hours", renderQuantitativeValue p.precipitationLast6Hours),
    (ascii "maxTemperatureLast24Hours", renderQuantitativeValue p.maxTemperatureLast24Hours),
    (ascii "minTemperatureLast24Hours", renderQuantitativeValue p.minTemperatureLast24Hours),
    (ascii "cloudLayers", .arr (p.cloudLayers.map renderCloudLayer))]

end Render

theorem reads_observationProperties : Reads observationKeys ObservationProperties.Valid
    (fun props : Json D => populateObservationProperties props {})
    renderObservationProperties where
  valid props :=
    ⟨by simp [ObservationProperties.values, populateObservationProperties, valid_parseQvField],
      reads_cloudLayer.valid_readArray props _⟩
  agree a b h := by
    have hkeys : quantitativeKeys ⊆ observationKeys := by decide
    have hclouds := reads_cloudLayer.agree_readArray (List.subset_append_left _ _) h []
      (by decide : ascii "cloudLayers" ∈ observationKeys)
    simp (disch := decide) only [populateObservationProperties, h.getString,
      h.parseQvField hkeys, hclouds]
  render p hvalid := by
    obtain ⟨hvalues, hclouds⟩ := hvalid
    cases p
    simp only [ObservationProperties.values, List.forall_mem_cons] at hvalues
    obtain ⟨helevation, htemperature, hdewpoint, hdirection, hspeed, hgust, hpressure, hsea,
      hvisibility, hhumidity, hchill, hheat, hhour, hhours3, hhours6, hmax, hmin, -⟩ := hvalues
    simp only [populateObservationProperties, ObservationProperties.mk.injEq]
    exact ⟨getString_of_lookup rfl, getString_of_lookup rfl, getString_of_lookup rfl,
      getString_of_lookup rfl, getString_of_lookup rfl, getString_of_lookup rfl,
      getString_of_lookup rfl, getString_of_lookup rfl,
      parseQvField_of_lookup helevation rfl, parseQvField_of_lookup htemperature rfl,
      parseQvField_of_lookup hdewpoint rfl, parseQvField_of_lookup hdirection rfl,
      parseQvField_of_lookup hspeed rfl, parseQvField_of_lookup hgust rfl,
      parseQvField_of_lookup hpressure rfl, parseQvField_of_lookup hsea rfl,
      parseQvField_of_lookup hvisibility rfl, parseQvField_of_lookup hhumidity rfl,
      parseQvField_of_lookup hchill rfl, parseQvField_of_lookup hheat rfl,
      parseQvField_of_lookup hhour rfl, parseQvField_of_lookup hhours3 rfl,
      parseQvField_of_lookup hhours6 rfl, parseQvField_of_lookup hmax rfl,
      parseQvField_of_lookup hmin rfl, reads_cloudLayer.render_readArray _ hclouds rfl⟩

theorem reads_observation : Reads (featureKeys ++ observationKeys)
    (FeatureValid ObservationProperties.Valid)
    (fun root : Json D => populateObservationResponse root { properties := {} })
    (renderFeature renderObservationProperties) :=
  reads_feature reads_observationProperties (reads_observationProperties.valid .null)
    fun _ => ⟨_, rfl⟩

/-- Observations are got back from the trees that stand for them; every unit read is the
one its code names. -/
theorem observations_decode (parseRoot : Text → Result (Json D)) :
    FeatureDecodes parseRoot (featureKeys ++ observationKeys) ObservationProperties.Valid
      renderObservationProperties (deserializeObservationResponse parseRoot)
      (deserializeObservationCollection parseRoot) :=
  featureDecodes_of_reads parseRoot reads_observation

end NwsCpp
