import NwsCpp.GeoJson

/-! Forecasts of grid points and of zones, period by period. -/

namespace NwsCpp

open Bytes Json

structure ForecastPeriod (D : Type*) where
  number : Int32 := 0
  isDaytime : Bool := true
  name : Text := []
  startTime : Text := []
  endTime : Text := []
  temperature : Int32 := 0
  temperatureUnit : Text := []
  temperatureTrend : Option Text := none
  probabilityOfPrecipitation : QuantitativeValue D := {}
  windSpeed : Text := []
  windDirection : Text := []
  icon : Text := []
  shortForecast : Text := []
  detailedForecast : Text := []

structure ForecastProperties (D : Type*) where
  updateTime : Text := []
  generatedAt : Text := []
  elevation : QuantitativeValue D := {}
  periods : List (ForecastPeriod D) := []

structure ZoneForecastPeriod where
  number : Int32 := 0
  name : Text := []
  detailedForecast : Text := []

structure ZoneForecastProperties where
  zone : List Text := []
  periods : List ZoneForecastPeriod := []

variable {D : Type*}

abbrev ForecastResponse (D : Type*) := GeoJsonFeature D (ForecastProperties D)

section Model

variable [JsonDouble D]

def speedText (rendered unit : Text) : Text :=
  if unit.isEmpty then rendered else rendered ++ ascii " " ++ unit

/-- The wind speed that the member gives, a text or a quantity; none where rendering the
number fails, which leaves the rest of the period unread. -/
def windSpeedOf (ws : Json D) (windSpeed : Text) : Option Text :=
  match ws with
  | .str value => some value
  | .obj members =>
    match (obj members).getOptionalDouble (ascii "value") with
    | some v =>
      if Double.isfinite v then
        (JsonDouble.toChars v).map fun rendered =>
          speedText rendered ((obj members).getString (ascii "unitCode"))
      else some windSpeed
    | none => some windSpeed
  | _ => some windSpeed

def foundWindSpeed (node : Json D) (windSpeed : Text) : Option Text :=
  match node.lookup (ascii "windSpeed") with
  | some ws => windSpeedOf ws windSpeed
  | none => some windSpeed

def populateForecastPeriod (node : Json D) (p : ForecastPeriod D) : ForecastPeriod D :=
  let p := { p with
    number := node.getInt (ascii "number") 0
    name := node.getString (ascii "name")
    startTime := node.getString (ascii "startTime")
    endTime := node.getString (ascii "endTime")
    isDaytime := node.getBool (ascii "isDaytime") true
    temperature := node.getInt (ascii "temperature") 0
    temperatureUnit := node.getString (ascii "temperatureUnit")
    temperatureTrend := node.getOptionalString (ascii "temperatureTrend")
    probabilityOfPrecipitation :=
      node.parseQvField (ascii "probabilityOfPrecipitation") p.probabilityOfPrecipitation }
  match foundWindSpeed node p.windSpeed with
  | none => p
  | some windSpeed =>
    { p with
      windSpeed
      windDirection := node.getString (ascii "windDirection")
      icon := node.getString (ascii "icon")
      shortForecast := node.getString (ascii "shortForecast")
      detailedForecast := node.getString (ascii "detailedForecast") }

def populateForecastProperties (props : Json D) (p : ForecastProperties D) :
    ForecastProperties D where
  updateTime := props.getString (ascii "updateTime")
  generatedAt := props.getString (ascii "generatedAt")
  elevation := props.parseQvField (ascii "elevation") p.elevation
  periods := readArray (fun period => populateForecastPeriod period {}) p.periods props
    (ascii "periods")

def populateForecastResponse (root : Json D) (out : ForecastResponse D) : ForecastResponse D :=
  populateFeature populateForecastProperties root out

def readZoneForecastPeriod (node : Json D) : ZoneForecastPeriod where
  number := node.getInt (ascii "number") 0
  name := node.getString (ascii "name")
  detailedForecast := node.getString (ascii "detailedForecast")

def populateZoneForecastProperties (target : Json D) (out : ZoneForecastProperties) :
    ZoneForecastProperties where
  zone := target.getStringArray (ascii "zone")
  periods := readArray readZoneForecastPeriod out.periods target (ascii "periods")

/-- The properties of a zone forecast, in their envelope or without it. -/
def populateZoneForecast (root : Json D) (out : ZoneForecastProperties) :
    ZoneForecastProperties :=
  let target := (root.findObject (ascii "properties")).getD root
  populateZoneForecastProperties target out

variable (parseRoot : Text → Result (Json D))

def deserializeForecastResponse :
    Text → ForecastResponse D → Result Unit × ForecastResponse D :=
  deserialize parseRoot populateForecastResponse { properties := {} }

def deserializeZoneForecast :
    Text → ZoneForecastProperties → Result Unit × ZoneForecastProperties :=
  deserialize parseRoot populateZoneForecast {}

end Model

section Render

variable [JsonDouble D]

def periodKeys : List Text :=
  quantitativeKeys ++ [ascii "number", ascii "name", ascii "startTime", ascii "endTime",
    ascii "isDaytime", ascii "temperature", ascii "temperatureUnit", ascii "temperatureTrend",
    ascii "probabilityOfPrecipitation", ascii "windSpeed", ascii "windDirection", ascii "icon",
    ascii "shortForecast", ascii "detailedForecast"]

def renderForecastPeriod (p : ForecastPeriod D) : Json D :=
  .obj [(ascii "number", ofInt32 p.number), (ascii "name", .str p.name),
    (ascii "startTime", .str p.startTime), (ascii "endTime", .str p.endTime),
    (ascii "isDaytime", .bool p.isDaytime), (ascii "temperature", ofInt32 p.temperature),
    (ascii "temperatureUnit", .str p.temperatureUnit),
    (ascii "temperatureTrend", ofOptionalText p.temperatureTrend),
    (ascii "probabilityOfPrecipitation", renderQuantitativeValue p.probabilityOfPrecipitation),
    (ascii "windSpeed", .str p.windSpeed), (ascii "windDirection", .str p.windDirection),
    (ascii "icon", .str p.icon), (ascii "shortForecast", .str p.shortForecast),
    (ascii "detailedForecast", .str p.detailedForecast)]

def forecastKeys : List Text :=
  periodKeys ++ [ascii "updateTime", ascii "generatedAt", ascii "elevation", ascii "periods"]

structure ForecastProperties.Valid (p : ForecastProperties D) : Prop where
  elevation : QuantitativeValid p.elevation
  periods : ∀ period ∈ p.periods, QuantitativeValid period.probabilityOfPrecipitation

def renderForecastProperties (p : ForecastProperties D) : Json D :=
  .obj [(ascii "updateTime", .str p.updateTime), (ascii "generatedAt", .str p.generatedAt),
    (ascii "elevation", renderQuantitativeValue p.elevation),
    (ascii "periods", .arr (p.periods.map renderForecastPeriod))]

theorem foundWindSpeed_eq (node : Json D) (windSpeed : Text) :
    foundWindSpeed node windSpeed = windSpeedOf (node.field (ascii "windSpeed")) windSpeed := by
  rw [foundWindSpeed, field]
  cases node.lookup (ascii "windSpeed") <;> rfl

theorem agree_windSpeedOf {keys : List Text} {a b : Json D} (h : Agree keys a b)
    (hvalue : ascii "value" ∈ keys) (hunit : ascii "unitCode" ∈ keys) (windSpeed : Text) :
    windSpeedOf a windSpeed = windSpeedOf b windSpeed := by
  cases h with
  | @obj ms ns members =>
    have h : Agree keys (obj ms) (obj ns) := .obj members
    simp only [windSpeedOf, h.getOptionalDouble hvalue, h.getString hunit]
  | _ => rfl

theorem populateForecastPeriod_eq {node : Json D} {windSpeed : Text}
    (h : windSpeedOf (node.field (ascii "windSpeed")) [] = some windSpeed) :
    populateForecastPeriod node {} =
      { number := node.getInt (ascii "number") 0
        name := node.getString (ascii "name")
        startTime := node.getString (ascii "startTime")
        endTime := node.getString (ascii "endTime")
        isDaytime := node.getBool (ascii "isDaytime") true
        temperature := node.getInt (ascii "temperature") 0
        temperatureUnit := node.getString (ascii "temperatureUnit")
        temperatureTrend := node.getOptionalString (ascii "temperatureTrend")
        probabilityOfPrecipitation := node.parseQvField (ascii "probabilityOfPrecipitation") {}
        windSpeed
        windDirection := node.getString (ascii "windDirection")
        icon := node.getString (ascii "icon")
        shortForecast := node.getString (ascii "shortForecast")
        detailedForecast := node.getString (ascii "detailedForecast") } := by
  rw [populateForecastPeriod, foundWindSpeed_eq, h]

omit [JsonDouble D] in
theorem lookup_obj_cons {name key : Text} (hne : key ≠ name) (value : Json D)
    (members : List (Text × Json D)) :
    (obj ((name, value) :: members)).lookup key = (obj members).lookup key := by
  rw [lookup, lookup, List.lookup_cons, beq_eq_false_iff_ne.mpr hne]

omit [JsonDouble D] in
theorem field_obj_cons (name : Text) (value : Json D) (members : List (Text × Json D)) :
    (obj ((name, value) :: members)).field name = value := by
  rw [field, lookup, List.lookup_cons_self, Option.getD_some]

/-- A wind speed given as a quantity is read as the text it stands for. -/
theorem populateForecastPeriod_quantity {ws : List (Text × Json D)} {value : D}
    {rendered : Text} (hvalue : (obj ws).getOptionalDouble (ascii "value") = some value)
    (hfinite : Double.isfinite value = true) (hrendered : JsonDouble.toChars value = some rendered)
    (members : List (Text × Json D)) :
    populateForecastPeriod (.obj ((ascii "windSpeed", .obj ws) :: members)) {} =
      populateForecastPeriod (.obj ((ascii "windSpeed",
        .str (speedText rendered ((obj ws).getString (ascii "unitCode")))) :: members)) {} := by
  have hquantity : windSpeedOf (obj ws) [] =
      some (speedText rendered ((obj ws).getString (ascii "unitCode"))) := by
    simp only [windSpeedOf, hvalue, hfinite, hrendered, if_true, Option.map_some]
  rw [populateForecastPeriod_eq (by rw [field_obj_cons, hquantity]),
    populateForecastPeriod_eq (by rw [field_obj_cons]; rfl)]
  simp (disch := decide) only [getInt, getString, getBool, getOptionalString, parseQvField,
    readObject, findObject, lookup_obj_cons]

end Render

section Reads

variable [JsonDouble D] [LawfulJsonDouble D]

theorem reads_forecastPeriod : Reads periodKeys
    (fun period => QuantitativeValid period.probabilityOfPrecipitation)
    (fun node : Json D => populateForecastPeriod node {}) renderForecastPeriod where
  valid node := by
    rw [populateForecastPeriod, foundWindSpeed_eq]
    cases windSpeedOf (node.field (ascii "windSpeed")) ([] : Text) <;>
      exact valid_parseQvField node _
  agree a b h := by
    have hkeys : quantitativeKeys ⊆ periodKeys := by decide
    have hspeed := agree_windSpeedOf (h.field (by decide : ascii "windSpeed" ∈ periodKeys))
      (by decide) (by decide) []
    simp (disch := decide) only [populateForecastPeriod, foundWindSpeed_eq, h.getInt, h.getString,
      h.getBool, h.getOptionalString, h.parseQvField hkeys, hspeed]
  render p hvalid := by
    rw [populateForecastPeriod_eq (by rfl)]
    cases p
    simp only [ForecastPeriod.mk.injEq]
    exact ⟨getInt_of_lookup _ rfl, getBool_of_lookup _ rfl, getString_of_lookup rfl,
      getString_of_lookup rfl, getString_of_lookup rfl, getInt_of_lookup _ rfl,
      getString_of_lookup rfl, getOptionalString_of_lookup rfl,
      parseQvField_of_lookup hvalid rfl, trivial, getString_of_lookup rfl,
      getString_of_lookup rfl, getString_of_lookup rfl, getString_of_lookup rfl⟩

theorem reads_forecastProperties : Reads forecastKeys ForecastProperties.Valid
    (fun props : Json D => populateForecastProperties props {}) renderForecastProperties where
  valid props := ⟨valid_parseQvField props _, reads_forecastPeriod.valid_readArray props _⟩
  agree a b h := by
    have hkeys : quantitativeKeys ⊆ forecastKeys := by decide
    have hperiods := reads_forecastPeriod.agree_readArray (List.subset_append_left _ _) h []
      (by decide : ascii "periods" ∈ forecastKeys)
    simp (disch := decide) only [populateForecastProperties, h.getString, h.parseQvField hkeys,
      hperiods]
  render p hvalid := by
    cases p
    simp only [populateForecastProperties, ForecastProperties.mk.injEq]
    exact ⟨getString_of_lookup rfl, getString_of_lookup rfl,
      parseQvField_of_lookup hvalid.elevation rfl,
      reads_forecastPeriod.render_readArray _ hvalid.periods rfl⟩

theorem reads_forecast : Reads (featureKeys ++ forecastKeys)
    (FeatureValid ForecastProperties.Valid)
    (fun root : Json D => populateForecastResponse root { properties := {} })
    (renderFeature renderForecastProperties) :=
  reads_feature reads_forecastProperties (reads_forecastProperties.valid .null) fun _ => ⟨_, rfl⟩

/-- Forecasts are got back from the trees that stand for them, and a wind speed that is a
quantity is read as the text of its number and its unit. -/
theorem forecast_decode (parseRoot : Text → Result (Json D)) :
    Decodes parseRoot (Agree (featureKeys ++ forecastKeys))
        (FeatureValid ForecastProperties.Valid) (renderFeature renderForecastProperties)
        (deserializeForecastResponse parseRoot) ∧
      ∀ (ws members : List (Text × Json D)) (value : D) (rendered : Text),
        (obj ws).getOptionalDouble (ascii "value") = some value →
        Double.isfinite value = true → JsonDouble.toChars value = some rendered →
        populateForecastPeriod (.obj ((ascii "windSpeed", .obj ws) :: members)) {} =
          populateForecastPeriod (.obj ((ascii "windSpeed",
            .str (speedText rendered ((obj ws).getString (ascii "unitCode")))) :: members)) {} :=
  ⟨decodes_of_reads parseRoot reads_forecast,
    fun _ members _ _ hvalue hfinite hrendered =>
      populateForecastPeriod_quantity hvalue hfinite hrendered members⟩

/-- Two periods of a forecast as the service may send them. -/
def windyForecast : ForecastResponse Int where
  properties :=
    { periods := [{ number := 1, temperature := -4, windSpeed := ascii "10 mph" },
        { number := 2, isDaytime := false }] }

theorem forecast_decode_windy :
    let tree : Json Int := renderFeature renderForecastProperties windyForecast
    (deserializeForecastResponse (Json.readerOf tree.document tree) tree.document
        { properties := {} }).2 = windyForecast ∧
      (populateForecastPeriod (.obj [(ascii "windSpeed",
        .obj [(ascii "value", .num 12), (ascii "unitCode", .str (ascii "wmoUnit:km_h-1"))]),
        (ascii "windDirection", .str (ascii "NW"))] : Json Int) {}).windSpeed =
          Decimal.intText 12 ++ ascii " wmoUnit:km_h-1" := by
  intro tree
  obtain ⟨hdecodes, hquantity⟩ := forecast_decode (Json.readerOf tree.document tree)
  have hvalid : FeatureValid ForecastProperties.Valid windyForecast := by
    refine ⟨by decide, rfl, ?_⟩
    simp only [windyForecast, List.forall_mem_cons]
    exact ⟨rfl, rfl, by simp⟩
  have hinverse := hdecodes.inverse _ hvalid tree.document { properties := {} } _
    (Json.readerOf_document _ _) (.refl _)
  refine ⟨congrArg Prod.snd hinverse, ?_⟩
  rw [hquantity _ _ 12 (Decimal.intText 12) rfl rfl rfl, populateForecastPeriod_eq rfl]
  exact List.append_assoc _ _ _

section Zones

def zonePeriodKeys : List Text := [ascii "number", ascii "name", ascii "detailedForecast"]

def renderZoneForecastPeriod (p : ZoneForecastPeriod) : Json D :=
  .obj [(ascii "number", ofInt32 p.number), (ascii "name", .str p.name),
    (ascii "detailedForecast", .str p.detailedForecast)]

theorem reads_zoneForecastPeriod : Reads zonePeriodKeys (fun _ => True)
    (readZoneForecastPeriod : Json D → ZoneForecastPeriod) renderZoneForecastPeriod where
  valid _ := trivial
  agree a b h := by
    simp (disch := decide) only [readZoneForecastPeriod, h.getInt, h.getString]
  render p _ := by
    rw [readZoneForecastPeriod, renderZoneForecastPeriod, getInt_of_lookup _ rfl,
      getString_of_lookup rfl, getString_of_lookup rfl]

def zoneForecastKeys : List Text :=
  zonePeriodKeys ++ [ascii "zone", ascii "periods"]

def renderZoneForecast (x : ZoneForecastProperties) : Json D :=
  .obj [(ascii "zone", ofTexts x.zone),
    (ascii "periods", .arr (x.periods.map renderZoneForecastPeriod))]

/-- The envelope of the service around the properties. -/
def enveloped (properties : Json D) : Json D := .obj [(ascii "properties", properties)]

theorem reads_zoneForecastProperties : Reads zoneForecastKeys (fun _ => True)
    (fun target : Json D => populateZoneForecastProperties target {}) renderZoneForecast where
  valid _ := trivial
  agree a b h := by
    have hperiods := reads_zoneForecastPeriod.agree_readArray (List.subset_append_left _ _) h []
      (by decide : ascii "periods" ∈ zoneForecastKeys)
    simp (disch := decide) only [populateZoneForecastProperties, h.getStringArray, hperiods]
  render x _ := by
    cases x
    simp only [populateZoneForecastProperties, ZoneForecastProperties.mk.injEq]
    exact ⟨getStringArray_of_lookup rfl,
      reads_zoneForecastPeriod.render_readArray _ (fun _ _ => trivial) rfl⟩

theorem agree_populateZoneForecast {a b : Json D}
    (h : Agree (ascii "properties" :: zoneForecastKeys) a b) :
    populateZoneForecast a {} = populateZoneForecast b {} := by
  have hkeys : zoneForecastKeys ⊆ ascii "properties" :: zoneForecastKeys := List.subset_cons_self _ _
  have htarget : Agree zoneForecastKeys ((a.findObject (ascii "properties")).getD a)
      ((b.findObject (ascii "properties")).getD b) := by
    have hfound := h.findObject (List.mem_cons_self : ascii "properties" ∈ _)
    generalize a.findObject (ascii "properties") = x at hfound ⊢
    generalize b.findObject (ascii "properties") = y at hfound ⊢
    cases hfound with
    | none => exact h.mono hkeys
    | some hxy => exact hxy.mono hkeys
  exact reads_zoneForecastProperties.agree _ _ htarget

/-- Zone forecasts are got back from the trees that stand for them, with the envelope and
without it. -/
theorem zoneForecast_decode (parseRoot : Text → Result (Json D)) :
    Decodes parseRoot (Agree (ascii "properties" :: zoneForecastKeys)) (fun _ => True)
        renderZoneForecast (deserializeZoneForecast parseRoot) ∧
      Decodes parseRoot (Agree (ascii "properties" :: zoneForecastKeys)) (fun _ => True)
        (enveloped ∘ renderZoneForecast) (deserializeZoneForecast parseRoot) :=
  ⟨decodes_of parseRoot (fun _ => trivial) (fun _ _ => agree_populateZoneForecast)
      reads_zoneForecastProperties.render,
    decodes_of parseRoot (fun _ => trivial) (fun _ _ => agree_populateZoneForecast)
      reads_zoneForecastProperties.render⟩

theorem zoneForecast_decode_tonight :
    let tree : Json Int := enveloped (renderZoneForecast
      { zone := [ascii "AKZ101"], periods := [{ number := 1 }] })
    (deserializeZoneForecast (Json.readerOf tree.document tree) tree.document {}).2 =
      { zone := [ascii "AKZ101"], periods := [{ number := 1 }] } := by
  intro tree
  exact congrArg Prod.snd ((zoneForecast_decode (Json.readerOf tree.document tree)).2.inverse
    { zone := [ascii "AKZ101"], periods := [{ number := 1 }] } trivial tree.document {} tree
    (Json.readerOf_document _ _) (.refl _))

end Zones

end Reads

end NwsCpp
