import NwsCpp.QueryCoding
import NwsCpp.UrlEncode

/-! The query builders of the client, and the standard reading of what they build. -/

namespace NwsCpp

open Bytes Decimal Query

structure GetAlertsParams where
  status : Option (List Text) := none
  messageType : Option Text := none
  event : Option Text := none
  code : Option Text := none
  area : Option (List Text) := none
  point : Option Text := none
  region : Option (List Text) := none
  zone : Option (List Text) := none
  urgency : Option Text := none
  severity : Option Text := none
  certainty : Option Text := none
  limit : Option Int32 := none
  cursor : Option Text := none

structure GetObservationsParams where
  start : Option Text := none
  end_ : Option Text := none
  limit : Option Int32 := none
  cursor : Option Text := none

structure PaginationParams where
  cursor : Option Text := none
  limit : Option Int32 := none
  deriving DecidableEq

/-- The query under construction and its `has_params` flag. -/
structure QueryState where
  query : Text := []
  hasParams : Bool := false

def separator (st : QueryState) : Text := if st.hasParams then ascii "&" else ascii "?"

def appendParam (key value : Text) (st : QueryState) : QueryState :=
  { query := st.query ++ separator st ++ (key ++ ascii "=" ++ encodeQueryValue value)
    hasParams := true }

/-- One round of the loop over the values; the flag is `first`. -/
def appendValue (acc : Text × Bool) (value : Text) : Text × Bool :=
  let query := if acc.2 then acc.1 else acc.1 ++ ascii ","
  (query ++ encodeQueryValue value, false)

def appendValues (values : List Text) (query : Text) : Text :=
  (values.foldl appendValue (query, true)).1

def appendVectorParam (key : Text) (values : List Text) (st : QueryState) : QueryState :=
  if values.isEmpty then st
  else
    { query := appendValues values (st.query ++ separator st ++ (key ++ ascii "="))
      hasParams := true }

/-- `if (field) append(query, has_params, *field)`. -/
def ifPresent {α : Type} (field : Option α) (append : α → QueryState → QueryState)
    (st : QueryState) : QueryState :=
  match field with
  | some value => append value st
  | none => st

def appendLimit (limit : Int32) : QueryState → QueryState :=
  appendParam (ascii "limit") (intText limit.toInt)

def buildAlertsQuery (params : GetAlertsParams) : Text :=
  let st : QueryState := {}
  let st := ifPresent params.status (appendVectorParam (ascii "status")) st
  let st := ifPresent params.messageType (appendParam (ascii "message_type")) st
  let st := ifPresent params.event (appendParam (ascii "event")) st
  let st := ifPresent params.code (appendParam (ascii "code")) st
  let st := ifPresent params.area (appendVectorParam (ascii "area")) st
  let st := ifPresent params.point (appendParam (ascii "point")) st
  let st := ifPresent params.region (appendVectorParam (ascii "region")) st
  let st := ifPresent params.zone (appendVectorParam (ascii "zone")) st
  let st := ifPresent params.urgency (appendParam (ascii "urgency")) st
  let st := ifPresent params.severity (appendParam (ascii "severity")) st
  let st := ifPresent params.certainty (appendParam (ascii "certainty")) st
  let st := ifPresent params.limit appendLimit st
  let st := ifPresent params.cursor (appendParam (ascii "cursor")) st
  st.query

def buildObservationsQuery (params : GetObservationsParams) : Text :=
  let st : QueryState := {}
  let st := ifPresent params.start (appendParam (ascii "start")) st
  let st := ifPresent params.end_ (appendParam (ascii "end")) st
  let st := ifPresent params.limit appendLimit st
  let st := ifPresent params.cursor (appendParam (ascii "cursor")) st
  st.query

def buildPaginatedQuery (params : PaginationParams) : Text :=
  let query : Text := match params.cursor with
    | some cursor => if cursor.isEmpty then [] else ascii "cursor=" ++ encodeQueryValue cursor
    | none => []
  match params.limit with
  | some limit =>
    let query := if query.isEmpty then query else query ++ ascii "&"
    query ++ (ascii "limit=" ++ intText limit.toInt)
  | none => query

/-! What the parameters say: the pairs a reader of the query is to find. -/

def scalarPair (key : Text) (field : Option Text) : List Pair :=
  field.toList.map fun value => (key, .scalar value)

def listPair (key : Text) (field : Option (List Text)) : List Pair :=
  (field.filter (!·.isEmpty)).toList.map fun values => (key, .list values)

def limitPair (field : Option Int32) : List Pair :=
  scalarPair (ascii "limit") (field.map fun limit => intText limit.toInt)

def GetAlertsParams.present (params : GetAlertsParams) : List Pair :=
  listPair (ascii "status") params.status ++
  scalarPair (ascii "message_type") params.messageType ++
  scalarPair (ascii "event") params.event ++
  scalarPair (ascii "code") params.code ++
  listPair (ascii "area") params.area ++
  scalarPair (ascii "point") params.point ++
  listPair (ascii "region") params.region ++
  listPair (ascii "zone") params.zone ++
  scalarPair (ascii "urgency") params.urgency ++
  scalarPair (ascii "severity") params.severity ++
  scalarPair (ascii "certainty") params.certainty ++
  limitPair params.limit ++
  scalarPair (ascii "cursor") params.cursor

def GetObservationsParams.present (params : GetObservationsParams) : List Pair :=
  scalarPair (ascii "start") params.start ++
  scalarPair (ascii "end") params.end_ ++
  limitPair params.limit ++
  scalarPair (ascii "cursor") params.cursor

def PaginationParams.present (params : PaginationParams) : List Pair :=
  scalarPair (ascii "cursor") (params.cursor.filter (!·.isEmpty)) ++
  limitPair params.limit

def listKeys : List Text := [ascii "status", ascii "area", ascii "region", ascii "zone"]

theorem encodeQueryValue_safe : Safe encodeQueryValue where
  inverted := decode_encodeQueryValue
  comma := notMem_encodeQueryValue (by decide) (by decide)
  ampersand := notMem_encodeQueryValue (by decide) (by decide)

structure Rendered (st : QueryState) (pairs : List Pair) : Prop where
  flag : st.hasParams = !pairs.isEmpty
  query : st.query = if pairs.isEmpty then [] else 63 :: renderBody encodeQueryValue pairs

namespace Rendered

variable {st : QueryState} {pairs : List Pair}

theorem start : Rendered {} [] := ⟨rfl, rfl⟩

theorem snoc (h : Rendered st pairs) (pair : Pair) :
    Rendered ⟨st.query ++ separator st ++ renderPair encodeQueryValue pair, true⟩
      (pairs ++ [pair]) := by
  refine ⟨by simp, ?_⟩
  simp only [separator, h.flag, h.query]
  by_cases hne : pairs = []
  · subst hne
    simp [renderBody, ascii]
  · have hempty : pairs.isEmpty = false := by simpa using hne
    simp [hempty, renderBody_append hne, ascii]

theorem scalar (h : Rendered st pairs) (key : Text) (field : Option Text) :
    Rendered (ifPresent field (appendParam key) st) (pairs ++ scalarPair key field) := by
  cases field with
  | none => simpa [ifPresent, scalarPair] using h
  | some value =>
    simpa [ifPresent, scalarPair, appendParam, renderPair, renderValue, ascii] using
      h.snoc (key, .scalar value)

theorem limit (h : Rendered st pairs) (field : Option Int32) :
    Rendered (ifPresent field appendLimit st) (pairs ++ limitPair field) := by
  have hs := h.scalar (ascii "limit") (field.map fun limit => intText limit.toInt)
  cases field <;> exact hs

theorem appendValues_eq (values : List Text) (query : Text) :
    appendValues values query = query ++ [44].intercalate (values.map encodeQueryValue) := by
  have hmore : ∀ (values : List Text) (query : Text), values.foldl appendValue (query, false) =
      (query ++ (values.map encodeQueryValue).flatMap (44 :: ·), false) := by
    intro values
    induction values with
    | nil => simp
    | cons v values ih =>
      intro query
      rw [List.foldl_cons, appendValue, ih]
      simp [ascii]
  cases values with
  | nil => simp [appendValues]
  | cons v values =>
    rw [appendValues, List.foldl_cons, List.map_cons, intercalate_cons, appendValue, hmore]
    simp

theorem list (h : Rendered st pairs) (key : Text) (field : Option (List Text)) :
    Rendered (ifPresent field (appendVectorParam key) st) (pairs ++ listPair key field) := by
  cases field with
  | none => simpa [ifPresent, listPair] using h
  | some values =>
    by_cases hne : values.isEmpty = true
    · simpa [ifPresent, listPair, appendVectorParam, hne, Option.filter] using h
    · simpa [ifPresent, listPair, appendVectorParam, hne, Option.filter, renderPair, renderValue,
        appendValues_eq, ascii] using h.snoc (key, .list values)

end Rendered

theorem rendered_alerts (params : GetAlertsParams) :
    ∃ st, st.query = buildAlertsQuery params ∧ Rendered st params.present :=
  ⟨_, rfl,
    Rendered.start.list (ascii "status") params.status
      |>.scalar (ascii "message_type") params.messageType
      |>.scalar (ascii "event") params.event
      |>.scalar (ascii "code") params.code
      |>.list (ascii "area") params.area
      |>.scalar (ascii "point") params.point
      |>.list (ascii "region") params.region
      |>.list (ascii "zone") params.zone
      |>.scalar (ascii "urgency") params.urgency
      |>.scalar (ascii "severity") params.severity
      |>.scalar (ascii "certainty") params.certainty
      |>.limit params.limit
      |>.scalar (ascii "cursor") params.cursor⟩

theorem rendered_observations (params : GetObservationsParams) :
    ∃ st, st.query = buildObservationsQuery params ∧ Rendered st params.present :=
  ⟨_, rfl,
    Rendered.start.scalar (ascii "start") params.start
      |>.scalar (ascii "end") params.end_
      |>.limit params.limit
      |>.scalar (ascii "cursor") params.cursor⟩

theorem buildPaginatedQuery_eq (params : PaginationParams) :
    buildPaginatedQuery params = renderBody encodeQueryValue params.present := by
  obtain ⟨cursor, limit⟩ := params
  rcases cursor with - | cursor
  · rcases limit with - | limit <;>
      simp [buildPaginatedQuery, PaginationParams.present, limitPair, scalarPair, renderBody,
        renderPair, renderValue, encodeQueryValue_intText, ascii]
  · by_cases hc : cursor.isEmpty = true <;> rcases limit with - | limit <;>
      simp [buildPaginatedQuery, PaginationParams.present, limitPair, scalarPair, renderBody,
        renderPair, renderValue, encodeQueryValue_intText, Option.filter, hc, ascii]

def ScalarKey (key : Text) : Prop :=
  (61 : Byte) ∉ key ∧ (38 : Byte) ∉ key ∧ (37 : Byte) ∉ key ∧ key.head? ≠ some 63 ∧ key ∉ listKeys

instance (key : Text) : Decidable (ScalarKey key) := by unfold ScalarKey; infer_instance

theorem keyed_scalarPair {key : Text} (hkey : ScalarKey key) (field : Option Text) :
    ∀ pair ∈ scalarPair key field, Keyed listKeys pair := by
  obtain ⟨heq, hamp, hpct, hmark, hkind⟩ := hkey
  intro pair hpair
  obtain ⟨value, -, rfl⟩ := List.mem_map.mp hpair
  exact ⟨heq, hamp, hpct, hmark, hkind⟩

theorem keyed_listPair {key : Text} (hkey : key ∈ listKeys) (field : Option (List Text)) :
    ∀ pair ∈ listPair key field, Keyed listKeys pair := by
  have hplain : ∀ k ∈ listKeys, (61 : Byte) ∉ k ∧ (38 : Byte) ∉ k ∧ (37 : Byte) ∉ k ∧
      k.head? ≠ some 63 := by decide
  obtain ⟨heq, hamp, hpct, hmark⟩ := hplain key hkey
  intro pair hpair
  obtain ⟨values, hvalues, rfl⟩ := List.mem_map.mp hpair
  refine ⟨heq, hamp, hpct, hmark, hkey, ?_⟩
  simpa using (Option.filter_eq_some_iff.mp (Option.mem_toList.mp hvalues)).2

theorem GetAlertsParams.keyed (params : GetAlertsParams) :
    ∀ pair ∈ params.present, Keyed listKeys pair := by
  simp only [GetAlertsParams.present, List.forall_mem_append, and_assoc]
  refine ⟨keyed_listPair ?_ _, keyed_scalarPair ?_ _, keyed_scalarPair ?_ _, keyed_scalarPair ?_ _,
    keyed_listPair ?_ _, keyed_scalarPair ?_ _, keyed_listPair ?_ _, keyed_listPair ?_ _,
    keyed_scalarPair ?_ _, keyed_scalarPair ?_ _, keyed_scalarPair ?_ _, keyed_scalarPair ?_ _,
    keyed_scalarPair ?_ _⟩ <;> decide

theorem GetObservationsParams.keyed (params : GetObservationsParams) :
    ∀ pair ∈ params.present, Keyed listKeys pair := by
  simp only [GetObservationsParams.present, List.forall_mem_append, and_assoc]
  refine ⟨keyed_scalarPair ?_ _, keyed_scalarPair ?_ _, keyed_scalarPair ?_ _,
    keyed_scalarPair ?_ _⟩ <;> decide

theorem PaginationParams.keyed (params : PaginationParams) :
    ∀ pair ∈ params.present, Keyed listKeys pair := by
  simp only [PaginationParams.present, List.forall_mem_append]
  refine ⟨keyed_scalarPair ?_ _, keyed_scalarPair ?_ _⟩ <;> decide

theorem Rendered.decode_query {st : QueryState} {pairs : List Pair} (h : Rendered st pairs)
    (hk : ∀ pair ∈ pairs, Keyed listKeys pair) : decode listKeys st.query = pairs := by
  rw [h.query]
  by_cases hne : pairs = []
  · subst hne
    rfl
  · rw [if_neg (by simpa using hne)]
    exact (decode_renderBody encodeQueryValue_safe hk).2

theorem Rendered.query_eq_nil_iff {st : QueryState} {pairs : List Pair} (h : Rendered st pairs) :
    st.query = [] ↔ pairs = [] := by
  rw [h.query]
  cases pairs <;> simp

theorem keys_scalarPair (key : Text) (field : Option Text) :
    ((scalarPair key field).map Prod.fst).Sublist [key] := by
  cases field <;> simp [scalarPair]

theorem keys_listPair (key : Text) (field : Option (List Text)) :
    ((listPair key field).map Prod.fst).Sublist [key] := by
  rw [listPair]
  cases Option.filter (!·.isEmpty) field <;> simp

def alertsKeys : List Text :=
  [ascii "status"] ++ [ascii "message_type"] ++ [ascii "event"] ++ [ascii "code"] ++
  [ascii "area"] ++ [ascii "point"] ++ [ascii "region"] ++ [ascii "zone"] ++ [ascii "urgency"] ++
  [ascii "severity"] ++ [ascii "certainty"] ++ [ascii "limit"] ++ [ascii "cursor"]

def observationsKeys : List Text :=
  [ascii "start"] ++ [ascii "end"] ++ [ascii "limit"] ++ [ascii "cursor"]

def paginatedKeys : List Text := [ascii "cursor"] ++ [ascii "limit"]

theorem GetAlertsParams.keys (params : GetAlertsParams) :
    (params.present.map Prod.fst).Sublist alertsKeys := by
  simp only [GetAlertsParams.present, List.map_append]
  exact (keys_listPair _ _).append (keys_scalarPair _ _) |>.append (keys_scalarPair _ _)
    |>.append (keys_scalarPair _ _) |>.append (keys_listPair _ _) |>.append (keys_scalarPair _ _)
    |>.append (keys_listPair _ _) |>.append (keys_listPair _ _) |>.append (keys_scalarPair _ _)
    |>.append (keys_scalarPair _ _) |>.append (keys_scalarPair _ _)
    |>.append (keys_scalarPair _ _) |>.append (keys_scalarPair _ _)

theorem GetObservationsParams.keys (params : GetObservationsParams) :
    (params.present.map Prod.fst).Sublist observationsKeys := by
  simp only [GetObservationsParams.present, List.map_append]
  exact (keys_scalarPair _ _).append (keys_scalarPair _ _) |>.append (keys_scalarPair _ _)
    |>.append (keys_scalarPair _ _)

theorem PaginationParams.keys (params : PaginationParams) :
    (params.present.map Prod.fst).Sublist paginatedKeys := by
  simp only [PaginationParams.present, List.map_append]
  exact (keys_scalarPair _ _).append (keys_scalarPair _ _)

/-- The standard reading of `query` finds exactly `pairs`: each once, under its
own key, in the order of `order`; and nothing is written when nothing is there. -/
structure ReadsBack (query : Text) (pairs : List Pair) (order : List Text) : Prop where
  decoded : decode listKeys query = pairs
  once : (pairs.map Prod.fst).Nodup
  ordered : (pairs.map Prod.fst).Sublist order
  empty : query = [] ↔ pairs = []

theorem Rendered.readsBack {st : QueryState} {pairs : List Pair} {order : List Text}
    (h : Rendered st pairs) (hk : ∀ pair ∈ pairs, Keyed listKeys pair)
    (hkeys : (pairs.map Prod.fst).Sublist order) (hnodup : order.Nodup) :
    ReadsBack st.query pairs order :=
  ⟨h.decode_query hk, hkeys.nodup hnodup, hkeys, h.query_eq_nil_iff⟩

theorem readsBack_alerts (params : GetAlertsParams) :
    ReadsBack (buildAlertsQuery params) params.present alertsKeys := by
  obtain ⟨st, hst, h⟩ := rendered_alerts params
  exact hst ▸ h.readsBack params.keyed params.keys (by decide)

theorem readsBack_observations (params : GetObservationsParams) :
    ReadsBack (buildObservationsQuery params) params.present observationsKeys := by
  obtain ⟨st, hst, h⟩ := rendered_observations params
  exact hst ▸ h.readsBack params.keyed params.keys (by decide)

theorem readsBack_paginated (params : PaginationParams) :
    ReadsBack (buildPaginatedQuery params) params.present paginatedKeys := by
  rw [buildPaginatedQuery_eq]
  exact ⟨(decode_renderBody encodeQueryValue_safe params.keyed).1,
    params.keys.nodup (by decide), params.keys, renderBody_eq_nil_iff⟩

/-- What the three builders write is read back by the standard reading, and a
limit by `from_chars`; the paginated query opens with no `?`. -/
theorem queries_roundTrip :
    (∀ params : GetAlertsParams,
      ReadsBack (buildAlertsQuery params) params.present alertsKeys) ∧
    (∀ params : GetObservationsParams,
      ReadsBack (buildObservationsQuery params) params.present observationsKeys) ∧
    (∀ params : PaginationParams,
      ReadsBack (buildPaginatedQuery params) params.present paginatedKeys ∧
        (buildPaginatedQuery params).head? ≠ some 63) ∧
    ∀ limit : Int32, fromChars (intText limit.toInt) = .ok limit.toInt [] := by
  refine ⟨readsBack_alerts, readsBack_observations, fun params => ⟨readsBack_paginated params, ?_⟩,
    fun limit => fromChars_intText limit.minValue_le_toInt (Int.le_of_lt_add_one limit.toInt_lt)⟩
  rw [buildPaginatedQuery_eq]
  exact head_renderBody params.keyed

end NwsCpp
