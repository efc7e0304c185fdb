import NwsCpp.GeoJson

/-! Alerts: their enumerations, features and collections. -/

namespace NwsCpp

open Bytes Json

inductive AlertSeverity where
  | extreme
  | severe
  | moderate
  | minor
  | unknown
  deriving DecidableEq

inductive AlertCertainty where
  | observed
  | likely
  | possible
  | unlikely
  | unknown
  deriving DecidableEq

inductive AlertUrgency where
  | immediate
  | expected
  | future
  | past
  | unknown
  deriving DecidableEq

inductive AlertStatus where
  | actual
  | exercise
  | system
  | test
  | draft
  deriving DecidableEq

inductive AlertMessageType where
  | alert
  | update
  | cancel
  | ack
  | error
  deriving DecidableEq

section Parse

variable (s : Text)

def parseAlertSeverity : AlertSeverity :=
  if s = ascii "Extreme" then .extreme
  else if s = ascii "Severe" then .severe
  else if s = ascii "Moderate" then .moderate
  else if s = ascii "Minor" then .minor
  else .unknown

def parseAlertCertainty : AlertCertainty :=
  if s = ascii "Observed" then .observed
  else if s = ascii "Likely" then .likely
  else if s = ascii "Possible" then .possible
  else if s = ascii "Unlikely" then .unlikely
  else .unknown

def parseAlertUrgency : AlertUrgency :=
  if s = ascii "Immediate" then .immediate
  else if s = ascii "Expected" then .expected
  else if s = ascii "Future" then .future
  else if s = ascii "Past" then .past
  else .unknown

def parseAlertStatus : AlertStatus :=
  if s = ascii "Actual" then .actual
  else if s = ascii "Exercise" then .exercise
  else if s = ascii "System" then .system
  else if s = ascii "Test" then .test
  else if s = ascii "Draft" then .draft
  else .actual

def parseAlertMessageType : AlertMessageType :=
  if s = ascii "Alert" then .alert
  else if s = ascii "Update" then .update
  else if s = ascii "Cancel" then .cancel
  else if s = ascii "Ack" then .ack
  else if s = ascii "Error" then .error
  else .alert

end Parse

def AlertSeverity.toString : AlertSeverity → Text
  | .extreme => ascii "Extreme"
  | .severe => ascii "Severe"
  | .moderate => ascii "Moderate"
  | .minor => ascii "Minor"
  | .unknown => ascii "Unknown"

def AlertCertainty.toString : AlertCertainty → Text
  | .observed => ascii "Observed"
  | .likely => ascii "Likely"
  | .possible => ascii "Possible"
  | .unlikely => ascii "Unlikely"
  | .unknown => ascii "Unknown"

def AlertUrgency.toString : AlertUrgency → Text
  | .immediate => ascii "Immediate"
  | .expected => ascii "Expected"
  | .future => ascii "Future"
  | .past => ascii "Past"
  | .unknown => ascii "Unknown"

structure AlertGeocodes where
  ugc : List Text := []
  same : List Text := []

structure AlertProperties where
  id : Text := []
  areaDesc : Text := []
  geocode : AlertGeocodes := {}
  affectedZones : List Text := []
  sent : Text := []
  effective : Text := []
  onset : Option Text := none
  expires : Text := []
  ends : Option Text := none
  status : AlertStatus := .actual
  messageType : AlertMessageType := .alert
  category : Text := []
  severity : AlertSeverity := .unknown
  certainty : AlertCertainty := .unknown
  urgency : AlertUrgency := .unknown
  event : Text := []
  sender : Text := []
  senderName : Text := []
  headline : Option Text := none
  description : Text := []
  instruction : Option Text := none
  response : Text := []

variable {D : Type*}

abbrev AlertFeature (D : Type*) := GeoJsonFeature D AlertProperties

abbrev AlertCollectionResponse (D : Type*) := GeoJsonFeatureCollection D AlertProperties

def readGeocodes (geocode : Json D) : AlertGeocodes where
  ugc := geocode.getStringArray (ascii "UGC")
  same := geocode.getStringArray (ascii "SAME")

def populateAlertProperties (props : Json D) (p : AlertProperties) : AlertProperties where
  id := props.getString (ascii "id")
  areaDesc := props.getString (ascii "areaDesc")
  geocode := readObject readGeocodes p.geocode props (ascii "geocode")
  affectedZones := props.getStringArray (ascii "affectedZones")
  sent := props.getString (ascii "sent")
  effective := props.getString (ascii "effective")
  onset := props.getOptionalString (ascii "onset")
  expires := props.getString (ascii "expires")
  ends := props.getOptionalString (ascii "ends")
  status := parseAlertStatus (props.getString (ascii "status"))
  messageType := parseAlertMessageType (props.getString (ascii "messageType"))
  category := props.getString (ascii "category")
  severity := parseAlertSeverity (props.getString (ascii "severity"))
  certainty := parseAlertCertainty (props.getString (ascii "certainty"))
  urgency := parseAlertUrgency (props.getString (ascii "urgency"))
  event := props.getString (ascii "event")
  sender := props.getString (ascii "sender")
  senderName := props.getString (ascii "senderName")
  headline := props.getOptionalString (ascii "headline")
  description := props.getString (ascii "description")
  instruction := props.getOptionalString (ascii "instruction")
  response := props.getString (ascii "response")

def populateAlertFeature (root : Json D) (r : AlertFeature D) : AlertFeature D :=
  populateFeature populateAlertProperties root r

section Deserialize

variable (parseRoot : Text → Result (Json D))

def deserializeAlertFeature : Text → AlertFeature D → Result Unit × AlertFeature D :=
  deserialize parseRoot populateAlertFeature { properties := {} }

def deserializeAlertCollection :
    Text → AlertCollectionResponse D → Result Unit × AlertCollectionResponse D :=
  deserialize parseRoot (populateCollection populateAlertFeature {}) {}

end Deserialize

section Render

/-- The names that the service gives to the values of a status. -/
def AlertStatus.name : AlertStatus → Text
  | .actual => ascii "Actual"
  | .exercise => ascii "Exercise"
  | .system => ascii "System"
  | .test => ascii "Test"
  | .draft => ascii "Draft"

def AlertMessageType.name : AlertMessageType → Text
  | .alert => ascii "Alert"
  | .update => ascii "Update"
  | .cancel => ascii "Cancel"
  | .ack => ascii "Ack"
  | .error => ascii "Error"

theorem parseAlertSeverity_toString (v : AlertSeverity) : parseAlertSeverity v.toString = v := by
  cases v <;> decide

theorem parseAlertCertainty_toString (v : AlertCertainty) :
    parseAlertCertainty v.toString = v := by
  cases v <;> decide

theorem parseAlertUrgency_toString (v : AlertUrgency) : parseAlertUrgency v.toString = v := by
  cases v <;> decide

theorem parseAlertStatus_name (v : AlertStatus) : parseAlertStatus v.name = v := by
  cases v <;> decide

theorem parseAlertMessageType_name (v : AlertMessageType) : parseAlertMessageType v.name = v := by
  cases v <;> decide

def geocodeKeys : List Text := [ascii "UGC", ascii "SAME"]

def renderGeocodes (geocode : AlertGeocodes) : Json D :=
  .obj [(ascii "UGC", ofTexts geocode.ugc), (ascii "SAME", ofTexts geocode.same)]

theorem reads_geocodes :
    Reads geocodeKeys (fun _ => True) (readGeocodes : Json D → AlertGeocodes) renderGeocodes where
  valid _ := trivial
  agree a b h := by
    rw [readGeocodes, readGeocodes, h.getStringArray (by decide), h.getStringArray (by decide)]
  render geocode _ := by
    rw [readGeocodes, renderGeocodes, getStringArray_of_lookup rfl, getStringArray_of_lookup rfl]

def alertKeys : List Text :=
  geocodeKeys ++ [ascii "id", ascii "areaDesc", ascii "geocode", ascii "affectedZones",
    ascii "sent", ascii "effective", ascii "onset", ascii "expires", ascii "ends",
    ascii "status", ascii "messageType", ascii "category", ascii "severity",
    ascii "certainty", ascii "urgency", ascii "event", ascii "sender", ascii "senderName",
    ascii "headline", ascii "description", ascii "instruction", ascii "response"]

def renderAlertProperties (p : AlertProperties) : Json D :=
  .obj [(ascii "id", .str p.id), (ascii "areaDesc", .str p.areaDesc),
    (ascii "geocode", renderGeocodes p.geocode),
    (ascii "affectedZones", ofTexts p.affectedZones), (ascii "sent", .str p.sent),
    (ascii "effective", .str p.effective), (ascii "onset", ofOptionalText p.onset),
    (ascii "expires", .str p.expires), (ascii "ends", ofOptionalText p.ends),
    (ascii "status", .str p.status.name), (ascii "messageType", .str p.messageType.name),
    (ascii "category", .str p.category), (ascii "severity", .str p.severity.toString),
    (ascii "certainty", .str p.certainty.toString), (ascii "urgency", .str p.urgency.toString),
    (ascii "event", .str p.event), (ascii "sender", .str p.sender),
    (ascii "senderName", .str p.senderName), (ascii "headline", ofOptionalText p.headline),
    (ascii "description", .str p.description),
    (ascii "instruction", ofOptionalText p.instruction), (ascii "response", .str p.response)]

end Render

theorem reads_alertProperties : Reads alertKeys (fun _ => True)
    (fun props : Json D => populateAlertProperties props {}) renderAlertProperties where
  valid _ := trivial
  agree a b h := by
    have hgeocode := reads_geocodes.agree_readObject (List.subset_append_left _ _) h {}
      (by decide : ascii "geocode" ∈ alertKeys)
    simp only [populateAlertProperties, AlertProperties.mk.injEq]
    exact ⟨h.getString (by decide), h.getString (by decide), hgeocode,
      h.getStringArray (by decide), h.getString (by decide), h.getString (by decide),
      h.getOptionalString (by decide), h.getString (by decide), h.getOptionalString (by decide),
      congrArg _ (h.getString (by decide)), congrArg _ (h.getString (by decide)),
      h.getString (by decide), congrArg _ (h.getString (by decide)),
      congrArg _ (h.getString (by decide)), congrArg _ (h.getString (by decide)),
      h.getString (by decide), h.getString (by decide), h.getString (by decide),
      h.getOptionalString (by decide), h.getString (by decide), h.getOptionalString (by decide),
      h.getString (by decide)⟩
  render p _ := by
    have hgeocode : readObject readGeocodes {} (renderAlertProperties p : Json D)
        (ascii "geocode") = p.geocode := reads_geocodes.render_readObject _ trivial rfl rfl
    have hstatus : parseAlertStatus ((renderAlertProperties p : Json D).getString
        (ascii "status")) = p.status :=
      (congrArg _ (getString_of_lookup rfl)).trans (parseAlertStatus_name _)
    have hmessage : parseAlertMessageType ((renderAlertProperties p : Json D).getString
        (ascii "messageType")) = p.messageType :=
      (congrArg _ (getString_of_lookup rfl)).trans (parseAlertMessageType_name _)
    have hseverity : parseAlertSeverity ((renderAlertProperties p : Json D).getString
        (ascii "severity")) = p.severity :=
      (congrArg _ (getString_of_lookup rfl)).trans (parseAlertSeverity_toString _)
    have hcertainty : parseAlertCertainty ((renderAlertProperties p : Json D).getString
        (ascii "certainty")) = p.certainty :=
      (congrArg _ (getString_of_lookup rfl)).trans (parseAlertCertainty_toString _)
    have hurgency : parseAlertUrgency ((renderAlertProperties p : Json D).getString
        (ascii "urgency")) = p.urgency :=
      (congrArg _ (getString_of_lookup rfl)).trans (parseAlertUrgency_toString _)
    rw [populateAlertProperties, hgeocode, hstatus, hmessage, hseverity, hcertainty, hurgency]
    cases p
    simp only [AlertProperties.mk.injEq]
    exact ⟨getString_of_lookup rfl, getString_of_lookup rfl, trivial,
      getStringArray_of_lookup rfl, getString_of_lookup rfl, getString_of_lookup rfl,
      getOptionalString_of_lookup rfl, getString_of_lookup rfl, getOptionalString_of_lookup rfl,
      trivial, trivial, getString_of_lookup rfl, trivial, trivial, trivial,
      getString_of_lookup rfl, getString_of_lookup rfl, getString_of_lookup rfl,
      getOptionalString_of_lookup rfl, getString_of_lookup rfl, getOptionalString_of_lookup rfl,
      getString_of_lookup rfl⟩

theorem reads_alertFeature : Reads (featureKeys ++ alertKeys) (FeatureValid fun _ => True)
    (fun root : Json D => populateAlertFeature root { properties := {} })
    (renderFeature renderAlertProperties) :=
  reads_feature reads_alertProperties trivial fun _ => ⟨_, rfl⟩

/-- Alerts and collections of alerts are got back from the trees that stand for them, and
nothing but the members of these names is looked at. -/
theorem alerts_decode (parseRoot : Text → Result (Json D)) :
    FeatureDecodes parseRoot (featureKeys ++ alertKeys) (fun _ => True) renderAlertProperties
      (deserializeAlertFeature parseRoot) (deserializeAlertCollection parseRoot) :=
  featureDecodes_of_reads parseRoot reads_alertFeature

section Counts

/-- A `std::map` from names to counts. -/
abbrev CountMap := Std.ExtTreeMap Text Int32

structure AlertActiveCount where
  total : Int32 := 0
  land : Int32 := 0
  marine : Int32 := 0
  regions : CountMap := ∅
  areas : CountMap := ∅
  zones : CountMap := ∅

variable [JsonDouble D]

/-- One round of the loop over the members. -/
def countMember (out : CountMap) (member : Text × Json D) : CountMap :=
  match member.2 with
  | .num number =>
    if atLeast number int32Min && atLeast int32Max number then
      out.insert member.1 (Int32.ofInt (JsonDouble.trunc number))
    else out
  | _ => out

def populateStringIntMap (parent : Json D) (key : Text) (out : CountMap) : CountMap :=
  match parent.findObject key with
  | some (.obj members) => members.foldl countMember out
  | _ => out

def populateAlertActiveCount (root : Json D) (out : AlertActiveCount) : AlertActiveCount where
  total := root.getInt (ascii "total") 0
  land := root.getInt (ascii "land") 0
  marine := root.getInt (ascii "marine") 0
  regions := populateStringIntMap root (ascii "regions") out.regions
  areas := populateStringIntMap root (ascii "areas") out.areas
  zones := populateStringIntMap root (ascii "zones") out.zones

def deserializeAlertActiveCount (parseRoot : Text → Result (Json D)) :
    Text → AlertActiveCount → Result Unit × AlertActiveCount :=
  deserialize parseRoot populateAlertActiveCount {}

/-- The count that a value gives. -/
def countOf : Json D → Option Int32
  | .num number =>
    if atLeast number int32Min && atLeast int32Max number then
      some (Int32.ofInt (JsonDouble.trunc number))
    else none
  | _ => none

theorem countOf_eq_some_iff {value : Json D} {count : Int32} : countOf value = some count ↔
    ∃ number : D, value = .num number ∧ atLeast number int32Min = true ∧
      atLeast int32Max number = true ∧ Int32.ofInt (JsonDouble.trunc number) = count := by
  cases value with
  | num number => simp [countOf, and_assoc]
  | _ => simp [countOf]

theorem getElem?_countMember (out : CountMap) (name key : Text) (value : Json D) :
    (countMember out (name, value))[key]? =
      if name = key then (countOf value).or out[key]? else out[key]? := by
  cases value with
  | num number =>
    simp only [countMember, countOf]
    cases hin : atLeast number int32Min && atLeast int32Max number with
    | false => simp
    | true => simp [Std.ExtTreeMap.getElem?_insert]
  | _ => simp [countMember, countOf]

/-- With distinct names, a count stands in the map exactly when a member gives it. -/
theorem getElem?_foldl_countMember {members : List (Text × Json D)}
    (hnodup : (members.map Prod.fst).Nodup) (key : Text) (count : Int32) :
    (members.foldl countMember ∅)[key]? = some count ↔
      ∃ value, (key, value) ∈ members ∧ countOf value = some count := by
  induction members using List.reverseRecOn generalizing count with
  | nil => simp
  | append_singleton members member ih =>
    obtain ⟨name, value⟩ := member
    rw [List.map_append, List.nodup_append] at hnodup
    obtain ⟨hnodup, -, hfresh⟩ := hnodup
    rw [List.foldl_append, List.foldl_cons, List.foldl_nil, getElem?_countMember]
    split_ifs with hname
    · subst hname
      have hnone : (members.foldl countMember ∅)[name]? = none := by
        rw [Option.eq_none_iff_forall_ne_some]
        intro other hother
        obtain ⟨found, hmem, -⟩ := (ih hnodup _).mp hother
        exact hfresh name (List.mem_map_of_mem hmem) name (by simp) rfl
      rw [hnone, Option.or_none]
      constructor
      · intro hcount
        exact ⟨value, by simp, hcount⟩
      · rintro ⟨found, hmem, hcount⟩
        rcases List.mem_append.mp hmem with hmem | hmem
        · exact (hfresh name (List.mem_map_of_mem hmem) name (by simp) rfl).elim
        · simp_all
    · rw [ih hnodup]
      simp [Ne.symm hname]

theorem foldl_countMember_eq {ms ns : List (Text × Json D)} (hms : (ms.map Prod.fst).Nodup)
    (h : ms.Perm ns) : ms.foldl countMember ∅ = ns.foldl countMember ∅ := by
  have hns : (ns.map Prod.fst).Nodup := (h.map Prod.fst).nodup_iff.mp hms
  apply Std.ExtTreeMap.ext_getElem?
  intro key
  ext count
  simp only [getElem?_foldl_countMember hms, getElem?_foldl_countMember hns, h.mem_iff]

/-- Objects with the same members in any order, each name once. -/
inductive SameMembers : Json D → Json D → Prop
  | obj {ms ns : List (Text × Json D)} (nodup : (ms.map Prod.fst).Nodup) (perm : ms.Perm ns) :
    SameMembers (.obj ms) (.obj ns)

structure SameCounts (a b : Json D) : Prop where
  totals : Agree [ascii "total", ascii "land", ascii "marine"] a b
  maps : ∀ key ∈ [ascii "regions", ascii "areas", ascii "zones"],
    Option.Rel SameMembers (a.findObject key) (b.findObject key)

theorem SameCounts.populateStringIntMap_eq {a b : Json D} (h : SameCounts a b) {key : Text}
    (hkey : key ∈ [ascii "regions", ascii "areas", ascii "zones"]) :
    populateStringIntMap a key ∅ = populateStringIntMap b key ∅ := by
  have hmaps := h.maps key hkey
  rw [populateStringIntMap, populateStringIntMap]
  generalize a.findObject key = x at hmaps ⊢
  generalize b.findObject key = y at hmaps ⊢
  cases hmaps with
  | none => rfl
  | some hxy =>
    obtain ⟨hnodup, hperm⟩ := hxy
    exact foldl_countMember_eq hnodup hperm

theorem SameCounts.populate_eq {a b : Json D} (h : SameCounts a b) :
    populateAlertActiveCount a {} = populateAlertActiveCount b {} := by
  simp only [populateAlertActiveCount, AlertActiveCount.mk.injEq]
  exact ⟨h.totals.getInt _ (by decide), h.totals.getInt _ (by decide),
    h.totals.getInt _ (by decide), h.populateStringIntMap_eq (by decide),
    h.populateStringIntMap_eq (by decide), h.populateStringIntMap_eq (by decide)⟩

def renderCounts (counts : CountMap) : Json D :=
  .obj (counts.toList.map fun entry => (entry.1, ofInt32 entry.2))

def renderAlertActiveCount (x : AlertActiveCount) : Json D :=
  .obj [(ascii "total", ofInt32 x.total), (ascii "land", ofInt32 x.land),
    (ascii "marine", ofInt32 x.marine), (ascii "regions", renderCounts x.regions),
    (ascii "areas", renderCounts x.areas), (ascii "zones", renderCounts x.zones)]

variable [LawfulJsonDouble D]

theorem countOf_ofInt32 (count : Int32) : countOf (ofInt32 count : Json D) = some count := by
  rw [ofInt32, countOf, atLeast_int32Min, atLeast_int32Max]
  exact congrArg some ((congrArg Int32.ofInt (LawfulJsonDouble.trunc_ofInt count)).trans
    (Int32.ofInt_toInt count))

omit [LawfulJsonDouble D] in
theorem nodup_renderCounts (counts : CountMap) :
    ((counts.toList.map fun entry => (entry.1, (ofInt32 entry.2 : Json D))).map
      Prod.fst).Nodup := by
  rw [List.map_map, List.nodup_iff_pairwise_ne, List.pairwise_map]
  exact counts.distinct_keys_toList.imp fun hne heq => hne (Std.compare_eq_iff_eq.mpr heq)

theorem foldl_countMember_render (counts : CountMap) :
    (counts.toList.map fun entry => (entry.1, (ofInt32 entry.2 : Json D))).foldl countMember ∅ =
      counts := by
  apply Std.ExtTreeMap.ext_getElem?
  intro key
  ext count
  rw [getElem?_foldl_countMember (nodup_renderCounts counts), ← Std.ExtTreeMap.mem_toList_iff_getElem?_eq_some]
  constructor
  · rintro ⟨value, hmem, hcount⟩
    obtain ⟨⟨name, other⟩, hentry, heq⟩ := List.mem_map.mp hmem
    obtain ⟨rfl, rfl⟩ := Prod.mk.inj heq
    rw [countOf_ofInt32] at hcount
    obtain rfl := Option.some.inj hcount
    exact hentry
  · intro hentry
    exact ⟨ofInt32 count, List.mem_map.mpr ⟨(key, count), hentry, rfl⟩, countOf_ofInt32 count⟩

theorem populateStringIntMap_of_lookup {node : Json D} {key : Text} {counts : CountMap}
    (h : node.lookup key = some (renderCounts counts)) :
    populateStringIntMap node key ∅ = counts := by
  rw [populateStringIntMap, findObject_of_lookup h]
  exact foldl_countMember_render counts

theorem populateAlertActiveCount_render (x : AlertActiveCount) :
    populateAlertActiveCount (renderAlertActiveCount x : Json D) {} = x := by
  cases x
  simp only [populateAlertActiveCount, AlertActiveCount.mk.injEq]
  exact ⟨getInt_of_lookup _ rfl, getInt_of_lookup _ rfl, getInt_of_lookup _ rfl,
    populateStringIntMap_of_lookup rfl, populateStringIntMap_of_lookup rfl,
    populateStringIntMap_of_lookup rfl⟩

/-- Counts are got back from the trees that stand for them, in any order of the names, and
a name stands in a map exactly when its member is a number in the range of `int32_t`. -/
theorem alertActiveCount_decode (parseRoot : Text → Result (Json D)) :
    Decodes parseRoot SameCounts (fun _ => True) renderAlertActiveCount
        (deserializeAlertActiveCount parseRoot) ∧
      ∀ parent key members, parent.findObject key = some (.obj members) →
        (members.map Prod.fst).Nodup → ∀ name count,
          ((populateStringIntMap parent key ∅)[name]? = some count ↔
            ∃ number : D, (name, .num number) ∈ members ∧ atLeast number int32Min = true ∧
              atLeast int32Max number = true ∧
              Int32.ofInt (JsonDouble.trunc number) = count) := by
  refine ⟨decodes_of parseRoot (fun _ => trivial) (fun _ _ h => h.populate_eq)
    fun x _ => populateAlertActiveCount_render x, ?_⟩
  intro parent key members hfound hnodup name count
  rw [populateStringIntMap, hfound]
  refine (getElem?_foldl_countMember hnodup name count).trans ⟨?_, ?_⟩
  · rintro ⟨value, hmem, hcount⟩
    obtain ⟨number, rfl, hlow, hhigh, hnumber⟩ := countOf_eq_some_iff.mp hcount
    exact ⟨number, hmem, hlow, hhigh, hnumber⟩
  · rintro ⟨number, hmem, hlow, hhigh, hnumber⟩
    exact ⟨_, hmem, countOf_eq_some_iff.mpr ⟨number, rfl, hlow, hhigh, hnumber⟩⟩

omit [LawfulJsonDouble D] in
theorem sameCounts_render (x : AlertActiveCount) :
    SameCounts (renderAlertActiveCount x : Json D) (renderAlertActiveCount x) where
  totals := .refl _
  maps key hkey := by
    simp only [List.mem_cons, List.not_mem_nil, or_false] at hkey
    obtain rfl | rfl | rfl := hkey <;> exact .some (.obj (nodup_renderCounts _) (.refl _))

/-- Areas as the service may list them, one of them without a number. -/
def gulfAreas : List (Text × Json Int) :=
  [(ascii "GM", .num 3), (ascii "AM", .null), (ascii "AN", .num 4)]

theorem alertActiveCount_decode_gulf :
    let tree : Json Int := renderAlertActiveCount { total := 7 }
    deserializeAlertActiveCount (Json.readerOf tree.document tree) tree.document { land := 2 } =
        (.ok (), { total := 7 }) ∧
      (populateStringIntMap (.obj [(ascii "areas", .obj gulfAreas)]) (ascii "areas")
        ∅)[ascii "AN"]? = some 4 := by
  intro tree
  obtain ⟨hdecodes, hcounts⟩ := alertActiveCount_decode (Json.readerOf tree.document tree)
  refine ⟨hdecodes.inverse _ trivial _ _ _ (Json.readerOf_document _ _) (sameCounts_render _), ?_⟩
  exact (hcounts _ _ gulfAreas rfl (by decide) _ _).mpr
    ⟨4, by simp [gulfAreas], rfl, rfl, rfl⟩

end Counts

end NwsCpp
