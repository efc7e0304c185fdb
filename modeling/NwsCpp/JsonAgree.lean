import NwsCpp.Coordinates
import NwsCpp.Decimal
import NwsCpp.Json

/-! The other extractors of JSON trees, and what no extractor can tell apart: the order
of members, members of other names, and a null in place of a missing member. -/

namespace NwsCpp

open Bytes

/-- The conversions of `double` that the models use: a cast to an integer type, and
`std::to_chars` into a buffer of 64 characters. -/
class JsonDouble (D : Type*) extends Double D where
  trunc : D → Int
  toChars : D → Option Text

/-- The values of an `int32_t` are exact in a `double`. -/
class LawfulJsonDouble (D : Type*) [JsonDouble D] : Prop where
  lt_ofInt (a b : Int32) :
    Double.lt (Double.ofInt a.toInt : D) (Double.ofInt b.toInt) = decide (a.toInt < b.toInt)
  eq_ofInt (a b : Int32) :
    Double.eq (Double.ofInt a.toInt : D) (Double.ofInt b.toInt) = decide (a = b)
  trunc_ofInt (a : Int32) : JsonDouble.trunc (Double.ofInt a.toInt : D) = a.toInt

section Whole

/-- The whole numbers among the values of `double`. -/
instance : JsonDouble Int where
  eq a b := decide (a = b)
  lt a b := decide (a < b)
  isnan _ := false
  isfinite _ := true
  ofInt a := a
  hash a := hash a
  format := Decimal.intText
  trunc a := a
  toChars a := some (Decimal.intText a)

instance : LawfulDouble Int where
  eq_self _ := decide_eq_true rfl
  eq_symm h := decide_eq_true (of_decide_eq_true h).symm
  eq_trans h h' := decide_eq_true ((of_decide_eq_true h).trans (of_decide_eq_true h'))
  hash_eq h := congrArg hash (of_decide_eq_true h)

instance : LawfulJsonDouble Int where
  lt_ofInt _ _ := rfl
  eq_ofInt _ _ := decide_eq_decide.mpr Int32.toInt_inj
  trunc_ofInt _ := rfl

end Whole

namespace Json

section Document

/-- A string without control characters as it stands in a document. -/
def quoted (s : Text) : Text :=
  [34] ++ s.flatMap (fun c => if c = 34 ∨ c = 92 then [92, c] else [c]) ++ [34]

mutual

/-- The document of a tree of whole numbers, without blanks. -/
def document : Json Int → Text
  | null => ascii "null"
  | bool value => if value then ascii "true" else ascii "false"
  | num value => Decimal.intText value
  | str value => quoted value
  | arr elements => [91] ++ [44].intercalate (elementDocuments elements) ++ [93]
  | obj members => [123] ++ [44].intercalate (memberDocuments members) ++ [125]
termination_by structural node => node

def elementDocuments : List (Json Int) → List Text
  | [] => []
  | element :: elements => document element :: elementDocuments elements
termination_by structural elements => elements

def memberDocuments : List (Text × Json Int) → List Text
  | [] => []
  | member :: members => memberDocument member :: memberDocuments members
termination_by structural members => members

def memberDocument : Text × Json Int → Text
  | (key, value) => quoted key ++ [58] ++ document value
termination_by structural member => member

end

example : document (.obj [(ascii "a", .arr [.num (-3), .null]), (ascii "b", .str (ascii "x"))]) =
    ascii "\x7b\"a\":[-3,null],\"b\":\"x\"\x7d" := by decide +kernel

end Document

variable {D : Type*}

def getBool (node : Json D) (key : Text) (default : Bool) : Bool :=
  match node.lookup key with
  | some (bool value) => value
  | _ => default

def getStringArray (node : Json D) (key : Text) : List Text :=
  match node.lookup key with
  | some (arr elements) => elements.filterMap fun
    | str value => some value
    | _ => none
  | _ => []

section Numbers

variable [JsonDouble D]

/-- `a >= b`, which is false when one is not a number. -/
def atLeast (a b : D) : Bool := Double.lt b a || Double.eq b a

def int32Min : D := Double.ofInt (-2147483648)

def int32Max : D := Double.ofInt 2147483647

def getInt (node : Json D) (key : Text) (default : Int32) : Int32 :=
  match node.lookup key with
  | some (num value) =>
    if !atLeast value int32Min || Double.lt int32Max value then default
    else Int32.ofInt (JsonDouble.trunc value)
  | _ => default

end Numbers

/-- The member of an object, null where it has none. -/
def field (node : Json D) (key : Text) : Json D := (node.lookup key).getD null

/-- Trees that agree on the members named in `keys`, at any depth. -/
inductive Agree (keys : List Text) : Json D → Json D → Prop
  | null : Agree keys null null
  | bool (value : Bool) : Agree keys (bool value) (bool value)
  | num (value : D) : Agree keys (num value) (num value)
  | str (value : Text) : Agree keys (str value) (str value)
  | arr {xs ys : List (Json D)} (length : xs.length = ys.length)
    (elements : ∀ (i : Nat) (hx : i < xs.length) (hy : i < ys.length), Agree keys xs[i] ys[i]) :
    Agree keys (arr xs) (arr ys)
  | obj {ms ns : List (Text × Json D)}
    (members : ∀ key ∈ keys, Agree keys ((obj ms).field key) ((obj ns).field key)) :
    Agree keys (obj ms) (obj ns)

def asText : Json D → Text
  | str value => value
  | _ => []

def asOptionalText : Json D → Option Text
  | str value => some value
  | _ => none

def asNumber : Json D → Option D
  | num value => some value
  | _ => none

def asBool (default : Bool) : Json D → Bool
  | bool value => value
  | _ => default

def asObject : Json D → Option (Json D)
  | obj members => some (obj members)
  | _ => none

def asArray : Json D → Option (List (Json D))
  | arr elements => some elements
  | _ => none

section Fields

variable (node : Json D) (key : Text)

theorem getString_eq : node.getString key = (node.field key).asText := by
  rw [getString, field]
  rcases node.lookup key with - | (- | - | - | - | - | -) <;> rfl

theorem getOptionalString_eq : node.getOptionalString key = (node.field key).asOptionalText := by
  rw [getOptionalString, field]
  rcases node.lookup key with - | (- | - | - | - | - | -) <;> rfl

theorem getOptionalDouble_eq : node.getOptionalDouble key = (node.field key).asNumber := by
  rw [getOptionalDouble, field]
  rcases node.lookup key with - | (- | - | - | - | - | -) <;> rfl

theorem getBool_eq (default : Bool) :
    node.getBool key default = (node.field key).asBool default := by
  rw [getBool, field]
  rcases node.lookup key with - | (- | - | - | - | - | -) <;> rfl

theorem findObject_eq : node.findObject key = (node.field key).asObject := by
  rw [findObject, field]
  rcases node.lookup key with - | (- | - | - | - | - | -) <;> rfl

theorem findArray_eq : node.findArray key = (node.field key).asArray := by
  rw [findArray, field]
  rcases node.lookup key with - | (- | - | - | - | - | -) <;> rfl

theorem getStringArray_eq : node.getStringArray key =
    ((node.findArray key).map (List.filterMap asOptionalText)).getD [] := by
  rw [getStringArray, findArray]
  rcases node.lookup key with - | (- | - | - | - | - | -) <;> rfl

theorem getInt_eq [JsonDouble D] (default : Int32) :
    node.getInt key default = ((node.getOptionalDouble key).map fun value =>
      if !atLeast value int32Min || Double.lt int32Max value then default
      else Int32.ofInt (JsonDouble.trunc value)).getD default := by
  rw [getInt, getOptionalDouble]
  rcases node.lookup key with - | (- | - | - | - | - | -) <;> rfl

end Fields

namespace Agree

theorem refl {keys : List Text} : (a : Json D) → Agree keys a a
  | .null => .null
  | .bool value => .bool value
  | .num value => .num value
  | .str value => .str value
  | .arr elements => .arr rfl fun i hx _ => refl elements[i]
  | .obj members => .obj fun key _ => by
    rw [Json.field, lookup]
    cases h : members.lookup key with
    | none => exact .null
    | some value => exact refl value
termination_by a => sizeOf a
decreasing_by
  · have := List.sizeOf_get elements ⟨i, hx⟩
    simp_wf
    grind
  · have hmem : (key, value) ∈ members := List.lookup_eq_some_iff.mp h |>.elim fun _ h => by grind
    have := List.sizeOf_lt_of_mem hmem
    simp_wf
    grind

variable {keys keys' : List Text} {a b : Json D} {key : Text}

theorem mono (hkeys : keys ⊆ keys') (h : Agree keys' a b) : Agree keys a b := by
  induction h with
  | null => exact .null
  | bool value => exact .bool value
  | num value => exact .num value
  | str value => exact .str value
  | arr length _ ih => exact .arr length ih
  | obj _ ih => exact .obj fun key hkey => ih key (hkeys hkey)

theorem field (h : Agree keys a b) (hkey : key ∈ keys) :
    Agree keys (a.field key) (b.field key) := by
  cases h with
  | obj members => exact members key hkey
  | _ => exact .null

theorem asText (h : Agree keys a b) : a.asText = b.asText := by cases h <;> rfl

theorem asOptionalText (h : Agree keys a b) : a.asOptionalText = b.asOptionalText := by
  cases h <;> rfl

theorem asNumber (h : Agree keys a b) : a.asNumber = b.asNumber := by cases h <;> rfl

theorem asBool (default : Bool) (h : Agree keys a b) : a.asBool default = b.asBool default := by
  cases h <;> rfl

theorem asObject (h : Agree keys a b) : Option.Rel (Agree keys) a.asObject b.asObject := by
  cases h with
  | obj members => exact .some (.obj members)
  | _ => exact .none

theorem asArray (h : Agree keys a b) :
    Option.Rel (List.Forall₂ (Agree keys)) a.asArray b.asArray := by
  cases h with
  | arr length elements =>
    exact .some (List.forall₂_iff_get.mpr ⟨length, fun i hx hy => elements i hx hy⟩)
  | _ => exact .none

theorem getString (h : Agree keys a b) (hkey : key ∈ keys) : a.getString key = b.getString key := by
  rw [getString_eq, getString_eq, (h.field hkey).asText]

theorem getOptionalString (h : Agree keys a b) (hkey : key ∈ keys) :
    a.getOptionalString key = b.getOptionalString key := by
  rw [getOptionalString_eq, getOptionalString_eq, (h.field hkey).asOptionalText]

theorem getOptionalDouble (h : Agree keys a b) (hkey : key ∈ keys) :
    a.getOptionalDouble key = b.getOptionalDouble key := by
  rw [getOptionalDouble_eq, getOptionalDouble_eq, (h.field hkey).asNumber]

theorem getBool (h : Agree keys a b) (default : Bool) (hkey : key ∈ keys) :
    a.getBool key default = b.getBool key default := by
  rw [getBool_eq, getBool_eq, (h.field hkey).asBool]

theorem getInt [JsonDouble D] (h : Agree keys a b) (default : Int32) (hkey : key ∈ keys) :
    a.getInt key default = b.getInt key default := by
  rw [getInt_eq, getInt_eq, h.getOptionalDouble hkey]

theorem findObject (h : Agree keys a b) (hkey : key ∈ keys) :
    Option.Rel (Agree keys) (a.findObject key) (b.findObject key) := by
  rw [findObject_eq, findObject_eq]
  exact (h.field hkey).asObject

theorem findArray (h : Agree keys a b) (hkey : key ∈ keys) :
    Option.Rel (List.Forall₂ (Agree keys)) (a.findArray key) (b.findArray key) := by
  rw [findArray_eq, findArray_eq]
  exact (h.field hkey).asArray

theorem map_eq {α : Type*} {f : Json D → α} (hf : ∀ x y, Agree keys x y → f x = f y)
    {xs ys : List (Json D)} (h : List.Forall₂ (Agree keys) xs ys) : xs.map f = ys.map f := by
  induction h with
  | nil => rfl
  | cons hxy _ ih => rw [List.map_cons, List.map_cons, hf _ _ hxy, ih]

theorem filterMap_eq {α : Type*} {f : Json D → Option α}
    (hf : ∀ x y, Agree keys x y → f x = f y) {xs ys : List (Json D)}
    (h : List.Forall₂ (Agree keys) xs ys) : xs.filterMap f = ys.filterMap f := by
  induction h with
  | nil => rfl
  | cons hxy _ ih => rw [List.filterMap_cons, List.filterMap_cons, hf _ _ hxy, ih]

theorem optionMap_eq {α β : Type*} {R : α → α → Prop} {f : α → β}
    (hf : ∀ x y, R x y → f x = f y) {x y : Option α} (h : Option.Rel R x y) :
    x.map f = y.map f := by
  cases h with
  | none => rfl
  | some hxy => rw [Option.map_some, Option.map_some, hf _ _ hxy]

theorem getStringArray (h : Agree keys a b) (hkey : key ∈ keys) :
    a.getStringArray key = b.getStringArray key := by
  have hsame : ∀ xs ys : List (Json D), List.Forall₂ (Agree keys) xs ys →
      xs.filterMap Json.asOptionalText = ys.filterMap Json.asOptionalText :=
    fun _ _ => filterMap_eq fun _ _ => asOptionalText
  rw [getStringArray_eq, getStringArray_eq, optionMap_eq hsame (h.findArray hkey)]

theorem map_findObject {α : Type*} {f : Json D → α} (hf : ∀ x y, Agree keys x y → f x = f y)
    (h : Agree keys a b) (hkey : key ∈ keys) :
    (a.findObject key).map f = (b.findObject key).map f :=
  optionMap_eq hf (h.findObject hkey)

theorem map_findArray {α : Type*} {f : Json D → α} (hf : ∀ x y, Agree keys x y → f x = f y)
    (h : Agree keys a b) (hkey : key ∈ keys) :
    (a.findArray key).map (List.map f) = (b.findArray key).map (List.map f) := by
  have hmap : ∀ xs ys : List (Json D), List.Forall₂ (Agree keys) xs ys → xs.map f = ys.map f :=
    fun _ _ => map_eq hf
  exact optionMap_eq hmap (h.findArray hkey)

end Agree

end Json

end NwsCpp
