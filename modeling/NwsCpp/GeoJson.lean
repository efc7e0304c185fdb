import NwsCpp.JsonAgree

/-! Features and collections of features read from JSON trees, and the trees that stand
for them. -/

namespace NwsCpp

open Bytes

namespace Json

variable {D : Type*} {node : Json D} {key : Text}

def ofOptionalText : Option Text → Json D
  | some value => str value
  | none => null

def ofOptionalNumber : Option D → Json D
  | some value => num value
  | none => null

def ofTexts (values : List Text) : Json D := arr (values.map str)

theorem getString_of_lookup {value : Text} (h : node.lookup key = some (str value)) :
    node.getString key = value := by
  rw [getString, h]

theorem getOptionalString_of_lookup {value : Option Text}
    (h : node.lookup key = some (ofOptionalText value)) : node.getOptionalString key = value := by
  rw [getOptionalString, h]
  cases value <;> rfl

theorem getOptionalDouble_of_lookup {value : Option D}
    (h : node.lookup key = some (ofOptionalNumber value)) :
    node.getOptionalDouble key = value := by
  rw [getOptionalDouble, h]
  cases value <;> rfl

theorem getBool_of_lookup {value : Bool} (default : Bool)
    (h : node.lookup key = some (bool value)) : node.getBool key default = value := by
  rw [getBool, h]

theorem getStringArray_of_lookup {values : List Text}
    (h : node.lookup key = some (ofTexts values)) : node.getStringArray key = values := by
  rw [getStringArray, h, ofTexts]
  simp only [List.filterMap_map]
  exact List.filterMap_some

theorem findObject_of_lookup {members : List (Text × Json D)}
    (h : node.lookup key = some (obj members)) : node.findObject key = some (obj members) := by
  rw [findObject, h]

theorem findArray_of_lookup {elements : List (Json D)}
    (h : node.lookup key = some (arr elements)) : node.findArray key = some elements := by
  rw [findArray, h]

section Numbers

variable [JsonDouble D]

def ofInt32 (value : Int32) : Json D := num (Double.ofInt value.toInt)

variable [LawfulJsonDouble D]

theorem atLeast_ofInt (a b : Int32) :
    atLeast (Double.ofInt a.toInt : D) (Double.ofInt b.toInt) = decide (b.toInt ≤ a.toInt) := by
  rw [atLeast, LawfulJsonDouble.lt_ofInt, LawfulJsonDouble.eq_ofInt, ← Bool.decide_or,
    decide_eq_decide, ← Int32.toInt_inj]
  omega

theorem atLeast_int32Min (value : Int32) :
    atLeast (Double.ofInt value.toInt : D) int32Min = true :=
  (atLeast_ofInt value Int32.minValue).trans (decide_eq_true value.minValue_le_toInt)

theorem atLeast_int32Max (value : Int32) :
    atLeast (int32Max : D) (Double.ofInt value.toInt) = true :=
  (atLeast_ofInt Int32.maxValue value).trans (decide_eq_true value.toInt_le)

theorem getInt_of_lookup {value : Int32} (default : Int32)
    (h : node.lookup key = some (ofInt32 value)) : node.getInt key default = value := by
  have hhigh : Double.lt (int32Max : D) (Double.ofInt value.toInt) = false := by
    have hmax : (int32Max : D) = Double.ofInt Int32.maxValue.toInt := rfl
    have hle := value.toInt_le
    rw [hmax, LawfulJsonDouble.lt_ofInt, decide_eq_false_iff_not]
    omega
  rw [getInt, h, ofInt32]
  simp only [atLeast_int32Min, hhigh, Bool.not_true, Bool.or_self, Bool.false_eq_true, if_false,
    LawfulJsonDouble.trunc_ofInt, Int32.ofInt_toInt]

end Numbers

/-- How trees are read: what the results are like, which members count, and which tree
stands for each result. -/
structure Reads {α : Type*} (keys : List Text) (Valid : α → Prop) (read : Json D → α)
    (render : α → Json D) : Prop where
  valid : ∀ node, Valid (read node)
  agree : ∀ a b, Agree keys a b → read a = read b
  render : ∀ x, Valid x → read (render x) = x

/-- The value of the object at a key. -/
def readObject {α : Type*} (read : Json D → α) (default : α) (node : Json D) (key : Text) : α :=
  ((node.findObject key).map read).getD default

def readArray {α : Type*} (read : Json D → α) (default : List α) (node : Json D) (key : Text) :
    List α :=
  ((node.findArray key).map (List.map read)).getD default

namespace Reads

variable {α : Type*} {keys all : List Text} {Valid : α → Prop} {read : Json D → α}
  {render : α → Json D}

theorem valid_readObject (h : Reads keys Valid read render) {default : α} (hd : Valid default)
    (node : Json D) (key : Text) : Valid (readObject read default node key) := by
  rw [readObject]
  cases node.findObject key with
  | none => exact hd
  | some child => exact h.valid child

theorem agree_readObject (h : Reads keys Valid read render) (hkeys : keys ⊆ all) {a b : Json D}
    (hab : Agree all a b) (default : α) (hkey : key ∈ all) :
    readObject read default a key = readObject read default b key := by
  have hread : ∀ x y, Agree all x y → read x = read y := fun x y hxy => h.agree x y (hxy.mono hkeys)
  rw [readObject, readObject, hab.map_findObject hread hkey]

theorem render_readObject (h : Reads keys Valid read render) (default : α) {x : α} (hx : Valid x)
    {members : List (Text × Json D)} (hobj : render x = obj members)
    (hlookup : node.lookup key = some (render x)) : readObject read default node key = x := by
  rw [hobj] at hlookup
  rw [readObject, findObject_of_lookup hlookup, Option.map_some, Option.getD_some, ← hobj,
    h.render x hx]

theorem valid_readArray (h : Reads keys Valid read render) (node : Json D) (key : Text) :
    ∀ x ∈ readArray read [] node key, Valid x := by
  rw [readArray]
  cases node.findArray key with
  | none => simp
  | some elements =>
    intro x hx
    obtain ⟨child, -, rfl⟩ := List.mem_map.mp hx
    exact h.valid child

theorem agree_readArray (h : Reads keys Valid read render) (hkeys : keys ⊆ all) {a b : Json D}
    (hab : Agree all a b) (default : List α) (hkey : key ∈ all) :
    readArray read default a key = readArray read default b key := by
  have hread : ∀ x y, Agree all x y → read x = read y := fun x y hxy => h.agree x y (hxy.mono hkeys)
  rw [readArray, readArray, hab.map_findArray hread hkey]

theorem render_readArray (h : Reads keys Valid read render) (default : List α) {xs : List α}
    (hxs : ∀ x ∈ xs, Valid x) (hlookup : node.lookup key = some (arr (xs.map render))) :
    readArray read default node key = xs := by
  have hid : ∀ x ∈ xs, (read ∘ render) x = id x := fun x hx => h.render x (hxs x hx)
  rw [readArray, findArray_of_lookup hlookup, Option.map_some, Option.getD_some, List.map_map,
    List.map_congr_left hid, List.map_id]

end Reads

section Quantitative

def quantitativeKeys : List Text :=
  [ascii "unitCode", ascii "value", ascii "maxValue", ascii "minValue", ascii "qualityControl"]

def renderQuantitativeValue (qv : QuantitativeValue D) : Json D :=
  obj [(ascii "unitCode", str qv.unitCode), (ascii "value", ofOptionalNumber qv.value),
    (ascii "maxValue", ofOptionalNumber qv.maxValue),
    (ascii "minValue", ofOptionalNumber qv.minValue),
    (ascii "qualityControl", ofOptionalText qv.qualityControl)]

def QuantitativeValid (qv : QuantitativeValue D) : Prop :=
  qv.unit = MeasureUnit.parseUnitCode qv.unitCode

theorem reads_quantitativeValue : Reads quantitativeKeys QuantitativeValid
    (fun node : Json D => node.parseQuantitativeValue {}) renderQuantitativeValue where
  valid node := by cases node <;> rfl
  agree a b h := by
    cases h with
    | @obj ms ns members =>
      have h : Agree quantitativeKeys (obj ms) (obj ns) := .obj members
      simp only [parseQuantitativeValue, h.getString (by decide : ascii "unitCode" ∈ _),
        h.getOptionalDouble (by decide : ascii "value" ∈ _),
        h.getOptionalDouble (by decide : ascii "maxValue" ∈ _),
        h.getOptionalDouble (by decide : ascii "minValue" ∈ _),
        h.getOptionalString (by decide : ascii "qualityControl" ∈ _)]
    | _ => rfl
  render qv h := by
    obtain ⟨value, unitCode, unit, maxValue, minValue, qualityControl⟩ := qv
    obtain rfl : unit = MeasureUnit.parseUnitCode unitCode := h
    simp only [renderQuantitativeValue, parseQuantitativeValue, QuantitativeValue.mk.injEq]
    exact ⟨getOptionalDouble_of_lookup rfl, getString_of_lookup rfl, rfl,
      getOptionalDouble_of_lookup rfl, getOptionalDouble_of_lookup rfl,
      getOptionalString_of_lookup rfl⟩

/-- `parse_quantitative_value` on the object at the key. -/
def parseQvField (props : Json D) (key : Text) (qv : QuantitativeValue D) : QuantitativeValue D :=
  readObject (fun node => node.parseQuantitativeValue qv) qv props key

theorem valid_parseQvField (props : Json D) (key : Text) :
    QuantitativeValid (props.parseQvField key {}) :=
  reads_quantitativeValue.valid_readObject (by rfl) props key

theorem Agree.parseQvField {keys : List Text} {a b : Json D} (h : Agree keys a b)
    (hkeys : quantitativeKeys ⊆ keys) (hkey : key ∈ keys) :
    a.parseQvField key {} = b.parseQvField key {} :=
  reads_quantitativeValue.agree_readObject hkeys h {} hkey

theorem parseQvField_of_lookup {qv : QuantitativeValue D} (hqv : QuantitativeValid qv)
    (h : node.lookup key = some (renderQuantitativeValue qv)) : node.parseQvField key {} = qv :=
  reads_quantitativeValue.render_readObject {} hqv rfl h

end Quantitative

section Geometries

def geometryKeys : List Text := [ascii "type", ascii "coordinates"]

def renderPoint (p : GeoPoint D) : Json D := arr [num p.longitude, num p.latitude]

def renderGeometry : Geometry D → Json D
  | .point p => obj [(ascii "type", str (ascii "Point")), (ascii "coordinates", renderPoint p)]
  | .polygon rings => obj [(ascii "type", str (ascii "Polygon")),
      (ascii "coordinates", arr (rings.map fun ring => arr (ring.map renderPoint)))]
  | .null => null

theorem agree_pointOfArray {keys : List Text} {xs ys : List (Json D)}
    (h : List.Forall₂ (Agree keys) xs ys) : pointOfArray xs = pointOfArray ys := by
  cases h with
  | nil => rfl
  | cons hfirst hrest =>
    cases hrest with
    | nil => cases hfirst <;> rfl
    | cons hsecond _ => cases hfirst <;> cases hsecond <;> rfl

theorem agree_ringPoint {keys : List Text} {a b : Json D} (h : Agree keys a b) :
    ringPoint a = ringPoint b := by
  cases h with
  | arr length elements =>
    exact agree_pointOfArray (List.forall₂_iff_get.mpr ⟨length, fun i hx hy => elements i hx hy⟩)
  | _ => rfl

theorem agree_polygonRing {keys : List Text} {a b : Json D} (h : Agree keys a b) :
    polygonRing a = polygonRing b := by
  cases h with
  | arr length elements =>
    have hall := List.forall₂_iff_get.mpr ⟨length, fun i hx hy => elements i hx hy⟩
    rw [polygonRing, polygonRing, Agree.filterMap_eq (fun _ _ => agree_ringPoint) hall]
  | _ => rfl

theorem reads_geometry :
    Reads geometryKeys (fun _ : Geometry D => True) parseGeometry renderGeometry where
  valid _ := trivial
  agree a b h := by
    cases h with
    | @obj ms ns members =>
      have h : Agree geometryKeys (obj ms) (obj ns) := .obj members
      have htype := h.getString (by decide : ascii "type" ∈ _)
      have hfound := h.findArray (by decide : ascii "coordinates" ∈ _)
      simp only [parseGeometry, parseGeopoint, htype]
      generalize (obj ms).findArray (ascii "coordinates") = found at hfound ⊢
      generalize (obj ns).findArray (ascii "coordinates") = found' at hfound ⊢
      cases hfound with
      | none => rfl
      | some hxs =>
        simp only [Option.bind_some, agree_pointOfArray hxs,
          Agree.filterMap_eq (fun _ _ => agree_polygonRing) hxs]
    | _ => rfl
  render g _ := by
    cases g with
    | point p =>
      rw [renderGeometry, parseGeometry_eq_point_iff]
      exact ⟨rfl, [], rfl⟩
    | polygon rings =>
      have htype : (renderGeometry (.polygon rings : Geometry D)).getString (ascii "type") =
        ascii "Polygon" := getString_of_lookup rfl
      have hne : ¬ ascii "Polygon" = ascii "Point" := by decide
      have hring (ring : List (GeoPoint D)) :
          polygonRing (arr (ring.map renderPoint)) = some ring := by
        have hpoint : ringPoint ∘ renderPoint = (some : GeoPoint D → _) := rfl
        rw [polygonRing, List.filterMap_map, hpoint, List.filterMap_some]
      have hrings : polygonRing ∘ (fun ring => arr (ring.map renderPoint)) =
          (some : List (GeoPoint D) → _) := funext hring
      rw [renderGeometry] at htype ⊢
      simp only [parseGeometry, htype, if_neg hne, if_true]
      rw [findArray_of_lookup rfl]
      simp only [List.filterMap_map, hrings, List.filterMap_some]
    | null => rfl

theorem readGeometry_of_lookup {geometry : Geometry D}
    (h : node.lookup key = some (renderGeometry geometry)) :
    readObject parseGeometry .null node key = geometry := by
  cases geometry with
  | null => rw [readObject, findObject, h]; rfl
  | point p => exact reads_geometry.render_readObject _ trivial rfl h
  | polygon rings => exact reads_geometry.render_readObject _ trivial rfl h

end Geometries

end Json

open Json

variable {D P R : Type*}

/-- The `type` member of an object, else what it is by default. -/
def typeOr (default : Text) (root : Json D) : Text :=
  let type := root.getString (ascii "type")
  if type.isEmpty then default else type

section Features

def populateFeature (populate : Json D → P → P) (root : Json D) (r : GeoJsonFeature D P) :
    GeoJsonFeature D P where
  id := root.getString (ascii "id")
  type := typeOr (ascii "Feature") root
  geometry := readObject parseGeometry r.geometry root (ascii "geometry")
  properties := readObject (fun props => populate props r.properties) r.properties root
    (ascii "properties")

def populateCollection (populate : Json D → GeoJsonFeature D P → GeoJsonFeature D P) (empty : P)
    (root : Json D) (out : GeoJsonFeatureCollection D P) : GeoJsonFeatureCollection D P where
  type := typeOr (ascii "FeatureCollection") root
  features := readArray (fun feat => populate feat { properties := empty }) out.features root
    (ascii "features")

variable {keys all : List Text} {Valid : P → Prop} {render : P → Json D}

theorem valid_typeOr {default : Text} (h : default ≠ []) (root : Json D) :
    typeOr default root ≠ [] := by
  rw [typeOr]
  split_ifs with hempty
  · exact h
  · simpa using hempty

theorem agree_typeOr {a b : Json D} (h : Agree all a b) (default : Text)
    (hkey : ascii "type" ∈ all) : typeOr default a = typeOr default b := by
  rw [typeOr, typeOr, h.getString hkey]

theorem render_typeOr {root : Json D} {type : Text} (default : Text) (hne : type ≠ [])
    (h : root.lookup (ascii "type") = some (.str type)) : typeOr default root = type := by
  rw [typeOr, getString_of_lookup h]
  simp [hne]

def featureKeys : List Text := geometryKeys ++ [ascii "id", ascii "geometry", ascii "properties"]

def renderFeature (render : P → Json D) (r : GeoJsonFeature D P) : Json D :=
  .obj [(ascii "id", .str r.id), (ascii "type", .str r.type),
    (ascii "geometry", renderGeometry r.geometry), (ascii "properties", render r.properties)]

structure FeatureValid (Valid : P → Prop) (r : GeoJsonFeature D P) : Prop where
  type : r.type ≠ []
  properties : Valid r.properties

theorem reads_feature {populate : Json D → P → P} {empty : P}
    (h : Reads keys Valid (fun props => populate props empty) render) (hempty : Valid empty)
    (hobj : ∀ p, ∃ members, render p = .obj members) :
    Reads (featureKeys ++ keys) (FeatureValid Valid)
      (fun root => populateFeature populate root { properties := empty })
      (renderFeature render) where
  valid root := ⟨valid_typeOr (by decide) root, h.valid_readObject hempty root _⟩
  agree a b hab := by
    have hown : featureKeys ⊆ featureKeys ++ keys := List.subset_append_left _ _
    have hgeometry : geometryKeys ⊆ featureKeys ++ keys :=
      fun key hkey => hown (List.mem_append_left _ hkey)
    simp only [populateFeature, GeoJsonFeature.mk.injEq]
    exact ⟨hab.getString (hown (by decide)), agree_typeOr hab _ (hown (by decide)),
      reads_geometry.agree_readObject hgeometry hab _ (hown (by decide)),
      h.agree_readObject (List.subset_append_right _ _) hab _ (hown (by decide))⟩
  render r hr := by
    obtain ⟨id, type, geometry, properties⟩ := r
    obtain ⟨members, hmembers⟩ := hobj properties
    simp only [populateFeature, GeoJsonFeature.mk.injEq]
    exact ⟨getString_of_lookup rfl, render_typeOr _ hr.type rfl, readGeometry_of_lookup rfl,
      h.render_readObject _ hr.properties hmembers rfl⟩

def collectionKeys : List Text := [ascii "type", ascii "features"]

def renderCollection (renderFeature : GeoJsonFeature D P → Json D)
    (out : GeoJsonFeatureCollection D P) : Json D :=
  .obj [(ascii "type", .str out.type),
    (ascii "features", .arr (out.features.map renderFeature))]

structure CollectionValid (Valid : GeoJsonFeature D P → Prop)
    (out : GeoJsonFeatureCollection D P) : Prop where
  type : out.type ≠ []
  features : ∀ r ∈ out.features, Valid r

theorem reads_collection {Valid : GeoJsonFeature D P → Prop}
    {populate : Json D → GeoJsonFeature D P → GeoJsonFeature D P} {empty : P}
    {render : GeoJsonFeature D P → Json D}
    (h : Reads keys Valid (fun feat => populate feat { properties := empty }) render) :
    Reads (collectionKeys ++ keys) (CollectionValid Valid)
      (fun root => populateCollection populate empty root {}) (renderCollection render) where
  valid root := ⟨valid_typeOr (by decide) root, h.valid_readArray root _⟩
  agree a b hab := by
    have hown : collectionKeys ⊆ collectionKeys ++ keys := List.subset_append_left _ _
    simp only [populateCollection, GeoJsonFeatureCollection.mk.injEq]
    exact ⟨agree_typeOr hab _ (hown (by decide)),
      h.agree_readArray (List.subset_append_right _ _) hab _ (hown (by decide))⟩
  render out hout := by
    obtain ⟨type, features⟩ := out
    simp only [populateCollection, GeoJsonFeatureCollection.mk.injEq]
    exact ⟨render_typeOr _ hout.type rfl, h.render_readArray _ hout.features rfl⟩

end Features

section Deserialize

variable (parseRoot : Text → Result (Json D))

/-- The result and the value behind the output reference. -/
def deserialize (populate : Json D → R → R) (empty : R) (body : Text) (out : R) :
    Result Unit × R :=
  match parseRoot body with
  | .error error => (.error error, out)
  | .ok root => (.ok (), populate root empty)

/-- What a deserializer does with every body: a malformed one leaves the output as it
was, every other gives a value that is well formed, the same for the same trees, and
for each such value a tree to be read from. -/
structure Decodes (Same : Json D → Json D → Prop) (Valid : R → Prop) (render : R → Json D)
    (decode : Text → R → Result Unit × R) : Prop where
  malformed : ∀ body out error, parseRoot body = .error error → decode body out = (.error error, out)
  accepted : ∀ body out root, parseRoot body = .ok root →
    ∃ x, Valid x ∧ decode body out = (.ok (), x)
  stable : ∀ body body' out out' root root', parseRoot body = .ok root →
    parseRoot body' = .ok root' → Same root root' → decode body out = decode body' out'
  inverse : ∀ x, Valid x → ∀ body out root, parseRoot body = .ok root →
    Same root (render x) → decode body out = (.ok (), x)

variable {Same : Json D → Json D → Prop} {Valid : R → Prop} {render : R → Json D}
  {populate : Json D → R → R} {empty : R}

theorem decodes_of (hvalid : ∀ root, Valid (populate root empty))
    (hsame : ∀ a b, Same a b → populate a empty = populate b empty)
    (hrender : ∀ x, Valid x → populate (render x) empty = x) :
    Decodes parseRoot Same Valid render (deserialize parseRoot populate empty) where
  malformed body out error hroot := by rw [deserialize, hroot]
  accepted body out root hroot := by
    rw [deserialize, hroot]
    exact ⟨_, hvalid root, rfl⟩
  stable body body' out out' root root' hroot hroot' h := by
    rw [deserialize, deserialize, hroot, hroot']
    exact congrArg (Prod.mk _) (hsame root root' h)
  inverse x hx body out root hroot h := by
    rw [deserialize, hroot]
    exact congrArg (Prod.mk _) ((hsame root _ h).trans (hrender x hx))

theorem decodes_of_reads {keys : List Text}
    (h : Reads keys Valid (fun root => populate root empty) render) :
    Decodes parseRoot (Agree keys) Valid render (deserialize parseRoot populate empty) :=
  decodes_of parseRoot h.valid h.agree h.render

/-- Both decoders of a kind of feature, of one and of a collection. -/
structure FeatureDecodes (keys : List Text) (Valid : P → Prop)
    (render : P → Json D) (feature : Text → GeoJsonFeature D P → Result Unit × GeoJsonFeature D P)
    (collection : Text → GeoJsonFeatureCollection D P →
      Result Unit × GeoJsonFeatureCollection D P) : Prop where
  feature : Decodes parseRoot (Agree keys) (FeatureValid Valid) (renderFeature render) feature
  collection : Decodes parseRoot (Agree (collectionKeys ++ keys))
    (CollectionValid (FeatureValid Valid)) (renderCollection (renderFeature render)) collection

theorem featureDecodes_of_reads {keys : List Text} {Valid : P → Prop}
    {render : P → Json D} {populate : Json D → GeoJsonFeature D P → GeoJsonFeature D P} {empty : P}
    (h : Reads keys (FeatureValid Valid) (fun root => populate root { properties := empty })
      (renderFeature render)) :
    FeatureDecodes parseRoot keys Valid render
      (deserialize parseRoot populate { properties := empty })
      (deserialize parseRoot (populateCollection populate empty) {}) :=
  ⟨decodes_of_reads parseRoot h, decodes_of_reads parseRoot (reads_collection h)⟩

end Deserialize

end NwsCpp
