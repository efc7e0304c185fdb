import NwsCpp.PercentCoding

/-! Query strings as lists of pairs: the standard reading of a query, and that
it undoes joining encoded pairs, whatever the encoder. -/

namespace Query

open Bytes

inductive Value where
  | scalar (text : Text)
  | list (items : List Text)
  deriving DecidableEq

abbrev Pair := Text × Value

/-- Split at the first `=`; the value of a list key is split at its commas. -/
def decodePair (listKeys : List Text) (part : Text) : Pair :=
  let key := Percent.decode (part.takeWhile (· != 61))
  let value := (part.dropWhile (· != 61)).tail
  if key ∈ listKeys then (key, .list ((value.splitOn 44).map Percent.decode))
  else (key, .scalar (Percent.decode value))

def decode (listKeys : List Text) (query : Text) : List Pair :=
  let body := if query.head? = some 63 then query.tail else query
  if body.isEmpty then [] else (body.splitOn 38).map (decodePair listKeys)

section Rendering

variable (encode : Text → Text)

def renderValue : Value → Text
  | .scalar text => encode text
  | .list items => [44].intercalate (items.map encode)

def renderPair (pair : Pair) : Text := pair.1 ++ 61 :: renderValue encode pair.2

def renderBody (pairs : List Pair) : Text := [38].intercalate (pairs.map (renderPair encode))

/-- An encoder that decoding undoes and that leaves out the separators. -/
structure Safe : Prop where
  inverted : ∀ s, Percent.decode (encode s) = s
  comma : ∀ s, (44 : Byte) ∉ encode s
  ampersand : ∀ s, (38 : Byte) ∉ encode s

/-- A pair that stands in a query under a plain key of its own kind. -/
structure Keyed (listKeys : List Text) (pair : Pair) : Prop where
  equals : (61 : Byte) ∉ pair.1
  ampersand : (38 : Byte) ∉ pair.1
  percent : (37 : Byte) ∉ pair.1
  mark : pair.1.head? ≠ some 63
  kind : match pair.2 with
    | .scalar _ => pair.1 ∉ listKeys
    | .list items => pair.1 ∈ listKeys ∧ items ≠ []

variable {encode} {listKeys : List Text}

theorem intercalate_cons {α : Type*} (d : α) (p : List α) (parts : List (List α)) :
    [d].intercalate (p :: parts) = p ++ parts.flatMap (d :: ·) := by
  induction parts generalizing p with
  | nil => simp
  | cons q parts ih => rw [List.intercalate_cons_cons, ih]; simp

theorem notMem_intercalate {c d : Byte} {parts : List Text} (hd : c ≠ d)
    (h : ∀ p ∈ parts, c ∉ p) : c ∉ [d].intercalate parts := by
  cases parts with
  | nil => simp
  | cons p parts =>
    simp only [intercalate_cons, List.mem_append, List.mem_flatMap, List.mem_cons]
    rintro (hp | ⟨q, hq, rfl | hc⟩)
    · exact h p (by simp) hp
    · exact hd rfl
    · exact h q (by simp [hq]) hc

theorem decode_list_items (hs : Safe encode) {items : List Text} (hne : items ≠ []) :
    (([44].intercalate (items.map encode)).splitOn 44).map Percent.decode = items := by
  have hcomma : ∀ l ∈ items.map encode, (44 : Byte) ∉ l := by
    intro l hl
    obtain ⟨s, -, rfl⟩ := List.mem_map.mp hl
    exact hs.comma s
  rw [List.splitOn_intercalate 44 hcomma (by simpa using hne), List.map_map]
  have hid : Percent.decode ∘ encode = id := funext hs.inverted
  rw [hid, List.map_id]

theorem decodePair_renderPair (hs : Safe encode) {pair : Pair} (hk : Keyed listKeys pair) :
    decodePair listKeys (renderPair encode pair) = pair := by
  obtain ⟨key, value⟩ := pair
  have hkind := hk.kind
  have hrest : ∀ c, (61 :: renderValue encode value).head? = some c → c = 61 := by
    simp [eq_comm]
  obtain ⟨hkey, hvalue⟩ := takeWhile_ne_append hk.equals hrest
  rw [decodePair, renderPair, hkey, hvalue,
    Percent.decode_of_notMem hk.percent]
  cases value with
  | scalar text => rw [if_neg hkind, List.tail_cons, renderValue, hs.inverted]
  | list items => rw [if_pos hkind.1, List.tail_cons, renderValue, decode_list_items hs hkind.2]

theorem notMem_renderPair (hs : Safe encode) {pair : Pair} (hk : Keyed listKeys pair) :
    (38 : Byte) ∉ renderPair encode pair := by
  have hvalue : (38 : Byte) ∉ renderValue encode pair.2 := by
    cases pair.2 with
    | scalar text => exact hs.ampersand text
    | list items =>
      apply notMem_intercalate (by decide)
      intro p hp
      obtain ⟨s, -, rfl⟩ := List.mem_map.mp hp
      exact hs.ampersand s
  rw [renderPair, List.mem_append, List.mem_cons]
  rintro (h | h | h)
  · exact hk.ampersand h
  · exact absurd h (by decide)
  · exact hvalue h

theorem renderBody_eq_nil_iff {pairs : List Pair} : renderBody encode pairs = [] ↔ pairs = [] := by
  cases pairs with
  | nil => simp [renderBody]
  | cons p pairs =>
    rw [renderBody, List.map_cons]
    cases pairs <;> simp [renderPair, List.intercalate_cons_cons]

theorem head_renderBody {pairs : List Pair} (hk : ∀ p ∈ pairs, Keyed listKeys p) :
    (renderBody encode pairs).head? ≠ some 63 := by
  cases pairs with
  | nil => simp [renderBody]
  | cons p pairs =>
    have hp := (hk p (by simp)).mark
    have hhead : (renderPair encode p).head? ≠ some 63 := by
      rw [renderPair, List.head?_append]
      cases hkey : p.1.head? with
      | none => simp
      | some c => simpa [hkey] using hp
    rw [renderBody, List.map_cons]
    cases pairs with
    | nil => simpa using hhead
    | cons q pairs =>
      rw [List.map_cons, List.intercalate_cons_cons, List.append_assoc, List.head?_append]
      cases hr : (renderPair encode p).head? with
      | none => simp [renderPair] at hr
      | some c => simpa [hr] using hhead

theorem renderBody_append {pairs : List Pair} (hne : pairs ≠ []) (pair : Pair) :
    renderBody encode (pairs ++ [pair]) = renderBody encode pairs ++ 38 :: renderPair encode pair := by
  cases pairs with
  | nil => exact absurd rfl hne
  | cons p pairs => simp [renderBody, intercalate_cons]

theorem decode_renderBody (hs : Safe encode) {pairs : List Pair}
    (hk : ∀ p ∈ pairs, Keyed listKeys p) :
    decode listKeys (renderBody encode pairs) = pairs ∧
      decode listKeys (63 :: renderBody encode pairs) = pairs := by
  have hbody : (if (renderBody encode pairs).isEmpty then []
      else ((renderBody encode pairs).splitOn 38).map (decodePair listKeys)) = pairs := by
    by_cases hne : pairs = []
    · simp [hne, renderBody]
    · have hempty : (renderBody encode pairs).isEmpty = false := by
        simpa using fun h => hne (renderBody_eq_nil_iff.mp h)
      have hamp : ∀ l ∈ pairs.map (renderPair encode), (38 : Byte) ∉ l := by
        intro l hl
        obtain ⟨p, hp, rfl⟩ := List.mem_map.mp hl
        exact notMem_renderPair hs (hk p hp)
      rw [hempty, if_neg (by decide), renderBody,
        List.splitOn_intercalate 38 hamp (by simpa using hne), List.map_map]
      conv_rhs => rw [← List.map_id pairs]
      exact List.map_congr_left fun p hp => decodePair_renderPair hs (hk p hp)
  constructor
  · rw [decode, if_neg (head_renderBody hk)]
    exact hbody
  · rw [decode]
    exact hbody

end Rendering

end Query
