import NwsCpp.CacheResidency
import NwsCpp.TimedRows

/-! The list and the map of the LRU cache work as one list of timed rows. -/

namespace NwsCpp

open Containers TimedRows

namespace LruCache

variable {K V : Type*} [BEq K] [Hashable K]

def rowAt (map : KeyMap K (CacheEntry V)) (k : K) : Option (Row K V) :=
  (map.find k).map fun entry => ⟨k, entry.value, entry.insertedAt⟩

/-- The entries of a cache in the order of its list. -/
def State.rows (st : State K V) : List (Row K V) := st.order.values.filterMap (rowAt st.map)

/-- The calls on a list of timed rows. -/
def rowStep (config : Config) (now : Int) (op : Op K V) (rows : List (Row K V)) :
    Outcome V × List (Row K V) :=
  match op with
  | .get key => (lookup config.ttlNanos key now rows).map .got id
  | .put key value failure =>
    if config.disabled then (.completed, rows)
    else if (row key rows).isNone ∧ failure.isSome then (.threw, rows)
    else (.completed, store config.maxEntries key value now rows)
  | .invalidate key => (.completed, without key rows)
  | .clear => (.completed, [])

/-- The outcomes of calls on a list of timed rows, the latest first, and the rows left. -/
def rowRun (config : Config) (ops : List (Int × Op K V)) : List (Outcome V) × List (Row K V) :=
  ops.foldl (fun run timed =>
    let result := rowStep config timed.1 timed.2 run.2
    (result.1 :: run.1, result.2)) ([], [])

variable {config : Config} {st : State K V} {k : K} {entry : CacheEntry V}

theorem key_of_rowAt {map : KeyMap K (CacheEntry V)} {a : K} {r : Row K V}
    (h : rowAt map a = some r) : r.key = a := by
  obtain ⟨entry, -, rfl⟩ := Option.map_eq_some_iff.mp h
  rfl

theorem rows_congr {map map' : KeyMap K (CacheEntry V)} {keys : List K}
    (h : ∀ a ∈ keys, map.find a = map'.find a) :
    keys.filterMap (rowAt map) = keys.filterMap (rowAt map') := by
  apply List.filterMap_congr
  intro a ha
  rw [rowAt, rowAt, h a ha]

variable [EquivBEq K] [LawfulHashable K]

namespace Linked

theorem exists_node (h : Linked st) (hf : st.map.find k = some entry) :
    ∃ a, (a == k) = true ∧ rowAt st.map a = some ⟨a, entry.value, entry.insertedAt⟩ ∧
      row k st.rows = some ⟨a, entry.value, entry.insertedAt⟩ ∧
      (st.order.splice entry.listIt).values = a :: st.order.values.filter fun b => !(b == k) := by
  obtain ⟨a, hak, hvalues⟩ := h.splice_values hf
  have hmem : a ∈ st.order.values := by
    have hsplice : a ∈ (st.order.splice entry.listIt).values := by simp [hvalues]
    obtain ⟨n, hn, rfl⟩ := List.mem_map.mp hsplice
    exact List.mem_map_of_mem (NodeList.mem_splice.mp hn)
  have hrow : rowAt st.map a = some ⟨a, entry.value, entry.insertedAt⟩ := by
    rw [rowAt, KeyMap.find_congr hak, hf]
    rfl
  exact ⟨a, hak, hrow,
    row_filterMap_of_mem (fun _ _ _ => key_of_rowAt) h.keys_distinct hmem hak hrow, hvalues⟩

theorem row_eq_none (h : Linked st) (hf : st.map.find k = none) : row k st.rows = none := by
  refine row_filterMap_of_none (fun _ _ _ => key_of_rowAt) fun a ha => ?_
  by_contra hak
  have hresident := (h.resident_iff k).mpr ⟨a, ha, Bool.of_not_eq_false hak⟩
  simp [hf] at hresident

theorem rows_erase (h : Linked st) (hf : st.map.find k = some entry) :
    State.rows ⟨st.order.eraseAt entry.listIt, st.map.erase k⟩ = without k st.rows := by
  rw [State.rows, State.rows, without_filterMap fun _ _ _ => key_of_rowAt, h.eraseAt_values hf]
  apply rows_congr
  intro a ha
  have hak : (a == k) = false := by simpa using (List.mem_filter.mp ha).2
  rw [KeyMap.find_erase, BEq.comm, hak]
  rfl

theorem rows_splice (h : Linked st) (hf : st.map.find k = some entry)
    {map : KeyMap K (CacheEntry V)} {r : Row K V}
    (hmap : ∀ a, (a == k) = false → map.find a = st.map.find a)
    (hr : ∀ a, (a == k) = true → row k st.rows = some ⟨a, entry.value, entry.insertedAt⟩ →
      rowAt map a = some r) :
    State.rows ⟨st.order.splice entry.listIt, map⟩ = r :: without k st.rows := by
  obtain ⟨a, hak, -, hrow, hvalues⟩ := h.exists_node hf
  rw [State.rows, State.rows, without_filterMap fun _ _ _ => key_of_rowAt, hvalues,
    List.filterMap_cons_some (hr a hak hrow)]
  apply congrArg
  apply rows_congr
  intro b hb
  exact hmap b (by simpa using (List.mem_filter.mp hb).2)

omit [EquivBEq K] [LawfulHashable K] in
theorem length_rows (h : Linked st) : st.rows.length ≤ st.map.size := by
  have hvalues : st.order.values.length = st.order.nodes.length := List.length_map _
  rw [h.size, ← hvalues]
  exact List.length_filterMap_le _ _

end Linked

theorem get_rows (h : Linked st) (key : K) (now : Int) :
    ((get config key now st).1, (get config key now st).2.rows) =
      lookup config.ttlNanos key now st.rows := by
  rw [get, lookup]
  cases hf : st.map.find key with
  | none => rw [h.row_eq_none hf]
  | some entry =>
    obtain ⟨a, hak, hat, hrow, -⟩ := h.exists_node hf
    rw [hrow]
    simp only
    split_ifs with hage
    · rw [h.rows_erase hf]
    · have hused : State.rows ⟨st.order.splice entry.listIt, st.map⟩ =
          ⟨a, entry.value, entry.insertedAt⟩ :: without key st.rows := by
        refine h.rows_splice hf (fun _ _ => rfl) fun b _ hb => ?_
        rw [hrow, Option.some.injEq, Row.mk.injEq] at hb
        rw [← hb.1]
        exact hat
      rw [hused]

theorem rows_evict (h : Linked st) (maxEntries : Nat) :
    (evict maxEntries st.order.nodes.length st).rows = st.rows.take maxEntries := by
  obtain ⟨hlinked, -, hsub⟩ := evict_spec maxEntries h le_rfl
  have hsome : ∀ a ∈ st.order.values, (rowAt st.map a).isSome := by
    intro a ha
    have hresident := (h.resident_iff a).mpr ⟨a, ha, BEq.rfl⟩
    rwa [rowAt, Option.isSome_map]
  rw [State.rows, State.rows, ← filterMap_take hsome, ← evict_values maxEntries h le_rfl]
  apply rows_congr
  intro a ha
  obtain ⟨entry, hentry⟩ :=
    Option.isSome_iff_exists.mp ((hlinked.resident_iff a).mpr ⟨a, ha, BEq.rfl⟩)
  rw [hentry, hsub a entry hentry]

theorem put_rows (h : Linked st) (hbound : st.map.size ≤ config.maxEntries) (key : K) (value : V)
    (failure : Option Failure) (now : Int) :
    ((put config key value failure now st).1, (put config key value failure now st).2.rows) =
      rowStep config now (.put key value failure) st.rows := by
  rw [put, rowStep]
  by_cases hd : config.disabled
  · rw [if_pos hd, if_pos hd]
  · rw [if_neg hd, if_neg hd]
    cases hf : st.map.find key with
    | some entry =>
      obtain ⟨a, hak, hat, hrow, -⟩ := h.exists_node hf
      have hput : Linked ⟨st.order.splice entry.listIt,
          st.map.assign key { entry with value, insertedAt := now }⟩ :=
        (h.assign hf value now).reorder (by simp) (by simp)
      have hrows : State.rows ⟨st.order.splice entry.listIt,
          st.map.assign key { entry with value, insertedAt := now }⟩ =
            ⟨a, value, now⟩ :: without key st.rows := by
        refine h.rows_splice hf (fun b hb => ?_) fun b hb hrowb => ?_
        · rw [KeyMap.find_assign hf, BEq.comm, hb]
          rfl
        · rw [hrow, Option.some.injEq, Row.mk.injEq] at hrowb
          rw [rowAt, KeyMap.find_assign hf, BEq.comm, hb, hrowb.1]
          rfl
      have hlen := hput.length_rows
      rw [KeyMap.size_assign] at hlen
      rw [hrow, if_neg (by simp), store, hrow, Option.map_some, Option.getD_some, ← hrows,
        List.take_of_length_le (hlen.trans hbound)]
    | none =>
      rw [h.row_eq_none hf]
      cases failure with
      | some failure =>
        cases failure <;> rfl
      | none =>
        rw [if_neg (by simp), store, h.row_eq_none hf, without_eq_self (h.row_eq_none hf)]
        have hrows : State.rows ⟨st.order.pushFront key,
            st.map.emplace key ⟨value, now, (st.order.pushFront key).begin⟩⟩ =
              ⟨key, value, now⟩ :: st.rows := by
          have hat : rowAt (st.map.emplace key ⟨value, now, (st.order.pushFront key).begin⟩) key =
              some ⟨key, value, now⟩ := by
            rw [rowAt, KeyMap.find_emplace hf, if_pos BEq.rfl]
            rfl
          have hvalues : (st.order.pushFront key).values = key :: st.order.values := rfl
          rw [State.rows, State.rows, hvalues, List.filterMap_cons_some hat]
          apply congrArg
          apply rows_congr
          intro b hb
          rw [KeyMap.find_emplace hf, if_neg]
          intro hkb
          have hresident := (h.resident_iff key).mpr ⟨b, hb, BEq.symm hkb⟩
          simp [hf] at hresident
        have hinsert := rows_evict (h.insert hf value now) config.maxEntries
        rw [hrows] at hinsert
        simp only
        rw [hinsert, Option.map_none, Option.getD_none]

theorem step_rows (h : Linked st) (hbound : st.map.size ≤ config.maxEntries) (now : Int)
    (op : Op K V) :
    ((step config now op st).1, (step config now op st).2.rows) =
      rowStep config now op st.rows := by
  cases op with
  | get key =>
    rw [step, rowStep, ← get_rows h key now]
    rfl
  | put key value failure => exact put_rows h hbound key value failure now
  | invalidate key =>
    rw [step, rowStep, invalidate]
    cases hf : st.map.find key with
    | none => rw [without_eq_self (h.row_eq_none hf)]
    | some entry => rw [h.rows_erase hf]
  | clear => rfl

/-- In every run, allocation failures included, the cache answers every call as the
list of timed rows does, and holds its rows. -/
theorem exec_refines (config : Config) (ops : List (Int × Op K V)) :
    ((exec config ops).history.map Event.outcome, (exec config ops).state.rows) =
      rowRun config ops := by
  induction ops using List.reverseRecOn with
  | nil => rfl
  | append_singleton ops timed ih =>
    have hinv := inv_exec config ops
    have hstep := step_rows hinv.linked hinv.bounded timed.1 timed.2
    rw [exec_append, rowRun, List.foldl_append, ← rowRun, ← ih, List.foldl_cons, List.foldl_nil]
    simp only
    rw [← hstep]
    rfl

/-- Room for two, for a minute: key 2 has to go, key 4 is not stored, key 1 expires. -/
def minuteCache : List (Int × Op Nat Nat) :=
  [(0, .put 1 10 none), (0, .put 2 20 none), (9, .get 1), (9, .put 3 30 none),
    (9, .put 4 40 (some .mapInsertion)), (9, .get 2), (60000000001, .get 1)]

theorem exec_refines_minute :
    (exec { maxEntries := 2, ttl := 60 } minuteCache).history.map Event.outcome =
        [.got none, .got none, .threw, .completed, .got (some 10), .completed, .completed] ∧
      (exec { maxEntries := 2, ttl := 60 } minuteCache).state.rows = [⟨3, 30, 9⟩] := by
  have h := exec_refines { maxEntries := 2, ttl := 60 } minuteCache
  exact ⟨(congrArg Prod.fst h).trans (by decide), (congrArg Prod.snd h).trans (by rfl)⟩

end LruCache

end NwsCpp
