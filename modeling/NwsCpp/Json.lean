import NwsCpp.Error
import NwsCpp.Units

/-! Trees of the JSON reader and the extractors that walk them. `D` stands for `double`. -/

namespace NwsCpp

open Bytes

inductive Json (D : Type*) where
  | null
  | bool (value : Bool)
  | num (value : D)
  | str (value : Text)
  | arr (elements : List (Json D))
  | obj (members : List (Text × Json D))

structure GeoPoint (D : Type*) where
  longitude : D
  latitude : D
  deriving DecidableEq

inductive Geometry (D : Type*) where
  | point (p : GeoPoint D)
  | polygon (coordinates : List (List (GeoPoint D)))
  | null
  deriving DecidableEq

structure GeoJsonFeature (D P : Type*) where
  id : Text := []
  type : Text := ascii "Feature"
  geometry : Geometry D := .null
  properties : P

structure GeoJsonFeatureCollection (D P : Type*) where
  type : Text := ascii "FeatureCollection"
  features : List (GeoJsonFeature D P) := []

namespace Json

variable {D : Type*}

def lookup : Json D → Text → Option (Json D)
  | obj members, key => members.lookup key
  | _, _ => none

def getString (node : Json D) (key : Text) : Text :=
  match node.lookup key with
  | some (str value) => value
  | _ => []

def getOptionalDouble (node : Json D) (key : Text) : Option D :=
  match node.lookup key with
  | some (num value) => some value
  | _ => none

def getOptionalString (node : Json D) (key : Text) : Option Text :=
  match node.lookup key with
  | some (str value) => some value
  | _ => none

def findObject (node : Json D) (key : Text) : Option (Json D) :=
  match node.lookup key with
  | some (obj members) => some (obj members)
  | _ => none

/-- The elements of the array at the key. -/
def findArray (node : Json D) (key : Text) : Option (List (Json D)) :=
  match node.lookup key with
  | some (arr elements) => some elements
  | _ => none

def parseQuantitativeValue (node : Json D) (qv : QuantitativeValue D) : QuantitativeValue D :=
  match node with
  | obj _ =>
    let unitCode := node.getString (ascii "unitCode")
    { unitCode
      unit := MeasureUnit.parseUnitCode unitCode
      value := node.getOptionalDouble (ascii "value")
      maxValue := node.getOptionalDouble (ascii "maxValue")
      minValue := node.getOptionalDouble (ascii "minValue")
      qualityControl := node.getOptionalString (ascii "qualityControl") }
  | _ => qv

/-- A longitude and a latitude at the front of an array. -/
def pointOfArray : List (Json D) → Option (GeoPoint D)
  | num longitude :: num latitude :: _ => some { longitude, latitude }
  | _ => none

def parseGeopoint (node : Json D) : Option (GeoPoint D) :=
  match node with
  | obj _ => (node.findArray (ascii "coordinates")).bind pointOfArray
  | arr elements => pointOfArray elements
  | _ => none

def ringPoint : Json D → Option (GeoPoint D)
  | arr elements => pointOfArray elements
  | _ => none

def polygonRing : Json D → Option (List (GeoPoint D))
  | arr elements => some (elements.filterMap ringPoint)
  | _ => none

def parseGeometry (node : Json D) : Geometry D :=
  match node with
  | obj _ =>
    let type := node.getString (ascii "type")
    if type = ascii "Point" then
      match node.parseGeopoint with
      | some gp => .point gp
      | none => .null
    else if type = ascii "Polygon" then
      match node.findArray (ascii "coordinates") with
      | none => .polygon []
      | some outer => .polygon (outer.filterMap polygonRing)
    else .null
  | _ => .null

section Lookup

variable {node : Json D} {key : Text}

theorem getOptionalDouble_eq_some_iff {x : D} :
    node.getOptionalDouble key = some x ↔ node.lookup key = some (num x) := by
  rw [getOptionalDouble]
  split <;> simp_all

theorem getString_eq_iff {value : Text} (h : value ≠ []) :
    node.getString key = value ↔ node.lookup key = some (str value) := by
  rw [getString]
  split <;> simp_all [eq_comm]

theorem findArray_eq_some_iff {elements : List (Json D)} :
    node.findArray key = some elements ↔ node.lookup key = some (arr elements) := by
  rw [findArray]
  split <;> simp_all

theorem findObject_eq_some_iff {child : Json D} :
    node.findObject key = some child ↔
      node.lookup key = some child ∧ ∃ members, child = obj members := by
  rw [findObject]
  split
  · rename_i members hlookup
    rw [hlookup]
    constructor
    · rintro ⟨⟩
      exact ⟨rfl, members, rfl⟩
    · rintro ⟨h, -⟩
      exact h
  · rename_i hother
    constructor
    · rintro ⟨⟩
    · rintro ⟨h, members, rfl⟩
      exact (hother members h).elim

theorem pointOfArray_eq_some_iff {elements : List (Json D)} {p : GeoPoint D} :
    pointOfArray elements = some p ↔
      ∃ rest, elements = num p.longitude :: num p.latitude :: rest := by
  rw [pointOfArray.eq_def]
  split
  · rename_i longitude latitude rest
    obtain ⟨lon, lat⟩ := p
    simp
  · rename_i hother
    simp only [reduceCtorEq, false_iff, not_exists]
    rintro rest rfl
    exact hother _ _ _ rfl

theorem parseGeopoint_obj_iff {members : List (Text × Json D)} {p : GeoPoint D} :
    (obj members).parseGeopoint = some p ↔
      ∃ rest, (obj members).lookup (ascii "coordinates") =
        some (arr (num p.longitude :: num p.latitude :: rest)) := by
  rw [parseGeopoint, Option.bind_eq_some_iff]
  constructor
  · rintro ⟨elements, hfound, hpoint⟩
    obtain ⟨rest, rfl⟩ := pointOfArray_eq_some_iff.mp hpoint
    exact ⟨rest, findArray_eq_some_iff.mp hfound⟩
  · rintro ⟨rest, hlookup⟩
    exact ⟨_, findArray_eq_some_iff.mpr hlookup, rfl⟩

theorem parseGeometry_eq_point_iff {p : GeoPoint D} : node.parseGeometry = .point p ↔
    node.lookup (ascii "type") = some (str (ascii "Point")) ∧
      ∃ rest, node.lookup (ascii "coordinates") =
        some (arr (num p.longitude :: num p.latitude :: rest)) := by
  cases node with
  | obj members =>
    rw [← parseGeopoint_obj_iff, ← getString_eq_iff (by decide), parseGeometry]
    by_cases htype : (obj members).getString (ascii "type") = ascii "Point"
    · rw [if_pos htype]
      cases (obj members).parseGeopoint with
      | none => simp
      | some gp => simp [htype]
    · rw [if_neg htype]
      split_ifs
      · split <;> simp [htype]
      · simp [htype]
  | _ => simp [parseGeometry, lookup]

end Lookup

/-- A reader of one document, which stands for `tree`. -/
def readerOf (document : Text) (tree : Json D) (body : Text) : Result (Json D) :=
  if body = document then .ok tree else .error (Error.parse (ascii "syntax_error"))

theorem readerOf_document (document : Text) (tree : Json D) :
    readerOf document tree document = .ok tree := if_pos rfl

end Json

end NwsCpp
