import NwsCpp.Cache

/-! The list and the map of the LRU cache stay linked, and what the cache holds
is what the history of its calls says. -/

namespace NwsCpp

open Containers

namespace LruCache

variable {K V : Type*} [BEq K] [Hashable K] {config : Config} {st : State K V}

/-- The nodes of the list and the entries of the map are each other's. -/
structure Linked (st : State K V) : Prop where
  link : ∀ n ∈ st.order.nodes, ∃ entry, st.map.find n.2 = some entry ∧ entry.listIt = n.1
  back : ∀ k entry, st.map.find k = some entry →
    ∃ n ∈ st.order.nodes, n.1 = entry.listIt ∧ (n.2 == k) = true
  size : st.map.size = st.order.nodes.length

namespace Linked

theorem init : Linked (State.init : State K V) :=
  ⟨by simp [State.init], by simp [State.init], rfl⟩

theorem reorder (h : Linked st) {order : NodeList K}
    (hmem : ∀ n, n ∈ order.nodes ↔ n ∈ st.order.nodes)
    (hlen : order.nodes.length = st.order.nodes.length) : Linked { st with order } where
  link n hn := h.link n ((hmem n).mp hn)
  back k entry hf := by
    obtain ⟨n, hn, hid, hk⟩ := h.back k entry hf
    exact ⟨n, (hmem n).mpr hn, hid, hk⟩
  size := h.size.trans hlen.symm

variable [EquivBEq K] [LawfulHashable K]

theorem keys_distinct (h : Linked st) : st.order.values.Pairwise fun a b => (a == b) = false := by
  rw [NodeList.values, List.pairwise_map]
  have hids : st.order.nodes.Pairwise fun a b => a.1 ≠ b.1 := List.pairwise_map.mp st.order.nodup
  refine hids.imp_of_mem fun {a b} ha hb hne => ?_
  by_contra hab
  rw [Bool.not_eq_false] at hab
  obtain ⟨ea, hfa, hia⟩ := h.link a ha
  obtain ⟨eb, hfb, hib⟩ := h.link b hb
  rw [KeyMap.find_congr hab, hfb, Option.some.injEq] at hfa
  exact hne (hia.symm.trans ((congrArg CacheEntry.listIt hfa.symm).trans hib))

theorem assign (h : Linked st) {key : K} {old : CacheEntry V} (hf : st.map.find key = some old)
    (value : V) (now : Int) :
    Linked { st with map := st.map.assign key ⟨value, now, old.listIt⟩ } where
  link n hn := by
    obtain ⟨entry, hentry, hid⟩ := h.link n hn
    simp only [KeyMap.find_assign hf]
    by_cases hk : (key == n.2) = true
    · rw [KeyMap.find_congr hk, hentry, Option.some.injEq] at hf
      exact ⟨_, if_pos hk, hf ▸ hid⟩
    · exact ⟨entry, by rwa [if_neg hk], hid⟩
  back k entry he := by
    rw [KeyMap.find_assign hf] at he
    by_cases hk : (key == k) = true
    · rw [if_pos hk, Option.some.injEq] at he
      obtain ⟨n, hn, hid, hkey⟩ := h.back key old hf
      exact ⟨n, hn, he ▸ hid, BEq.trans hkey hk⟩
    · rw [if_neg hk] at he
      exact h.back k entry he
  size := (KeyMap.size_assign _ _ _).trans h.size

theorem insert (h : Linked st) {key : K} (hf : st.map.find key = none) (value : V) (now : Int) :
    Linked
      { order := st.order.pushFront key
        map := st.map.emplace key ⟨value, now, (st.order.pushFront key).begin⟩ } where
  link n hn := by
    simp only [KeyMap.find_emplace hf]
    rcases List.mem_cons.mp hn with rfl | hn
    · exact ⟨_, if_pos BEq.rfl, rfl⟩
    · obtain ⟨entry, hentry, hid⟩ := h.link n hn
      by_cases hk : (key == n.2) = true
      · rw [KeyMap.find_congr hk, hentry] at hf
        exact absurd hf (by simp)
      · exact ⟨entry, by rwa [if_neg hk], hid⟩
  back k entry he := by
    rw [KeyMap.find_emplace hf] at he
    by_cases hk : (key == k) = true
    · rw [if_pos hk, Option.some.injEq] at he
      exact ⟨(st.order.next, key), by simp, he ▸ rfl, hk⟩
    · rw [if_neg hk] at he
      obtain ⟨n, hn, hid, hkey⟩ := h.back k entry he
      exact ⟨n, List.mem_cons_of_mem _ hn, hid, hkey⟩
  size := by simp [KeyMap.size_emplace hf, h.size]

theorem erase (h : Linked st) {key : K} {old : CacheEntry V} (hf : st.map.find key = some old) :
    Linked { order := st.order.eraseAt old.listIt, map := st.map.erase key } where
  link n hn := by
    obtain ⟨hn, hne⟩ := NodeList.mem_eraseAt.mp hn
    obtain ⟨entry, hentry, hid⟩ := h.link n hn
    refine ⟨entry, ?_, hid⟩
    rw [KeyMap.find_erase, if_neg, hentry]
    intro hk
    rw [KeyMap.find_congr hk, hentry, Option.some.injEq] at hf
    exact hne (hf ▸ hid.symm)
  back k entry he := by
    rw [KeyMap.find_erase] at he
    by_cases hk : (key == k) = true
    · simp [hk] at he
    · rw [if_neg hk] at he
      obtain ⟨n, hn, hid, hkey⟩ := h.back k entry he
      refine ⟨n, NodeList.mem_eraseAt.mpr ⟨hn, fun hit => hk ?_⟩, hid, hkey⟩
      obtain ⟨m, hm, hmid, hmkey⟩ := h.back key old hf
      rw [NodeList.eq_of_mem hn hm (hit.trans hmid.symm)] at hkey
      exact BEq.trans (BEq.symm hmkey) hkey
  size := by
    obtain ⟨m, hm, hmid, -⟩ := h.back key old hf
    have hmap := KeyMap.size_erase hf
    have hlist := NodeList.length_eraseAt hm
    rw [hmid] at hlist
    have hsize := h.size
    simp only
    omega

theorem popBack (h : Linked st) {n : Nat × K} (hlast : st.order.nodes.getLast? = some n) :
    Linked { order := st.order.popBack, map := st.map.erase n.2 } := by
  obtain ⟨entry, hentry, hid⟩ := h.link n (List.mem_of_getLast? hlast)
  have hnodes := NodeList.popBack_eq_eraseAt hlast
  have herased := hid ▸ h.erase hentry
  exact herased.reorder (fun m => by rw [hnodes]) (by rw [hnodes])

theorem resident_iff (h : Linked st) (k : K) :
    (st.map.find k).isSome ↔ ∃ a ∈ st.order.values, (a == k) = true := by
  rw [Option.isSome_iff_exists]
  constructor
  · rintro ⟨entry, he⟩
    obtain ⟨n, hn, -, hk⟩ := h.back k entry he
    exact ⟨n.2, List.mem_map_of_mem hn, hk⟩
  · rintro ⟨a, ha, hk⟩
    obtain ⟨n, hn, rfl⟩ := List.mem_map.mp ha
    obtain ⟨entry, he, -⟩ := h.link n hn
    exact ⟨entry, KeyMap.find_congr hk _ ▸ he⟩

theorem eraseAt_values (h : Linked st) {k : K} {entry : CacheEntry V}
    (hf : st.map.find k = some entry) :
    (st.order.eraseAt entry.listIt).values = st.order.values.filter fun a => !(a == k) := by
  rw [NodeList.values, NodeList.values, NodeList.eraseAt_eq_filter, List.filter_map]
  apply congrArg
  apply List.filter_congr
  intro n hn
  obtain ⟨e, he, hid⟩ := h.link n hn
  obtain ⟨m, hm, hmid, hmk⟩ := h.back k entry hf
  by_cases hk : (n.2 == k) = true
  · rw [KeyMap.find_congr hk, hf, Option.some.injEq] at he
    simp [hk, ← hid, he]
  · have hne : n.1 ≠ entry.listIt := fun hit => hk (NodeList.eq_of_mem hn hm (hit.trans hmid.symm) ▸ hmk)
    simp [hk, hne]

end Linked

/-- What holds of the cache and its history after every call. -/
structure Inv (config : Config) (run : Run K V) : Prop where
  linked : Linked run.state
  bounded : run.state.map.size ≤ config.maxEntries
  disabled : config.disabled → run.state.map.size = 0
  fresh : ∀ k entry, run.state.map.find k = some entry →
    lastPut k run.history = some (entry.value, entry.insertedAt)

namespace Inv

variable {run : Run K V}

theorem init : Inv config ({} : Run K V) :=
  ⟨Linked.init, Nat.zero_le _, fun _ => rfl, by simp [State.init]⟩

theorem call_clear (time : Int) : Inv config (run.call config time .clear) := by
  refine ⟨⟨?_, ?_, rfl⟩, Nat.zero_le _, fun _ => rfl, ?_⟩ <;>
    simp [Run.call, step, clear, NodeList.restrict]

end Inv

theorem put_completed (key : K) (value : V) (now : Int) (st : State K V) :
    (put config key value none now st).1 = .completed := by
  rw [put]
  split_ifs
  · rfl
  · cases st.map.find key <;> rfl

variable [EquivBEq K] [LawfulHashable K]

/-- Eviction keeps the links, respects the bound and only forgets. -/
theorem evict_spec (maxEntries : Nat) {fuel : Nat} (h : Linked st)
    (hfuel : st.order.nodes.length ≤ fuel) :
    Linked (evict maxEntries fuel st) ∧ (evict maxEntries fuel st).map.size ≤ maxEntries ∧
      ∀ k entry, (evict maxEntries fuel st).map.find k = some entry →
        st.map.find k = some entry := by
  induction fuel generalizing st with
  | zero =>
    refine ⟨h, ?_, fun _ _ he => he⟩
    have hsize := h.size
    simp only [evict]
    omega
  | succ fuel ih =>
    rw [evict]
    split_ifs with hmax
    · cases hlast : st.order.nodes.getLast? with
      | none =>
        rw [List.getLast?_eq_none_iff] at hlast
        have hsize := h.size
        simp only [hlast, List.length_nil] at hsize
        omega
      | some n =>
        have hback : st.order.back = some n.2 := by simp [NodeList.back, hlast]
        have hlen := NodeList.length_popBack hlast
        obtain ⟨hlinked, hbound, hsub⟩ := ih (h.popBack hlast) (by simp only; omega)
        rw [hback]
        refine ⟨hlinked, hbound, fun k e he => ?_⟩
        have hfound := hsub k e he
        rw [KeyMap.find_erase] at hfound
        split_ifs at hfound
        exact hfound
    · exact ⟨h, not_lt.mp hmax, fun _ _ he => he⟩

namespace Inv

variable {run : Run K V}

theorem call_get (h : Inv config run) (time : Int) (key : K) :
    Inv config (run.call config time (.get key)) := by
  simp only [Run.call, step, get]
  cases hf : run.state.map.find key with
  | none => exact ⟨h.linked, h.bounded, h.disabled, h.fresh⟩
  | some entry =>
    simp only
    split_ifs with hage
    · have hle := KeyMap.size_erase_le hf
      refine ⟨h.linked.erase hf, hle.trans h.bounded, fun hd => ?_, fun k e he => ?_⟩
      · have := h.disabled hd
        simp only [Prod.map_snd, id]
        omega
      · simp only [Prod.map_snd, id, KeyMap.find_erase] at he
        split_ifs at he
        exact h.fresh k e he
    · exact ⟨h.linked.reorder (by simp) (by simp), h.bounded, h.disabled, h.fresh⟩

theorem call_put (h : Inv config run) (time : Int) (key : K) (value : V)
    (failure : Option Failure) : Inv config (run.call config time (.put key value failure)) := by
  simp only [Run.call, step, put]
  split_ifs with hd
  · have hnone : ∀ k, run.state.map.find k = none := fun k => by
      rw [KeyMap.eq_empty_of_size (h.disabled hd), KeyMap.find_empty]
    exact ⟨h.linked, h.bounded, h.disabled, fun k e he => by simp [hnone k] at he⟩
  · cases hf : run.state.map.find key with
    | some old =>
      refine ⟨(h.linked.assign hf value time).reorder (by simp) (by simp),
        (KeyMap.size_assign _ _ _).trans_le h.bounded, fun hd' => absurd hd' hd, fun k e he => ?_⟩
      simp only [KeyMap.find_assign hf, lastPut] at he ⊢
      split_ifs at he ⊢ with hk
      · rw [← Option.some.inj he]
      · exact h.fresh k e he
    | none =>
      cases failure with
      | some failure =>
        cases failure with
        | listInsertion => exact ⟨h.linked, h.bounded, h.disabled, h.fresh⟩
        | mapInsertion =>
          exact ⟨h.linked.reorder (by simp) (by simp), h.bounded, h.disabled, h.fresh⟩
      | none =>
        obtain ⟨hlinked, hbound, hsub⟩ :=
          evict_spec config.maxEntries (h.linked.insert hf value time) le_rfl
        refine ⟨hlinked, hbound, fun hd' => absurd hd' hd, fun k e he => ?_⟩
        have hfound := hsub k e he
        simp only [KeyMap.find_emplace hf, lastPut] at hfound ⊢
        split_ifs at hfound ⊢ with hk
        · rw [← Option.some.inj hfound]
        · exact h.fresh k e hfound

theorem call_invalidate (h : Inv config run) (time : Int) (key : K) :
    Inv config (run.call config time (.invalidate key)) := by
  simp only [Run.call, step, invalidate]
  cases hf : run.state.map.find key with
  | none =>
    refine ⟨h.linked, h.bounded, h.disabled, fun k e he => ?_⟩
    simp only [lastPut]
    split_ifs with hk
    · rw [KeyMap.find_congr hk, he] at hf
      exact absurd hf (by simp)
    · exact h.fresh k e he
  | some entry =>
    have hle := KeyMap.size_erase_le hf
    refine ⟨h.linked.erase hf, hle.trans h.bounded, fun hd => ?_, fun k e he => ?_⟩
    · have := h.disabled hd
      simp only
      omega
    · simp only [KeyMap.find_erase, lastPut] at he ⊢
      split_ifs at he ⊢
      exact h.fresh k e he

theorem call (h : Inv config run) (time : Int) (op : Op K V) :
    Inv config (run.call config time op) := by
  cases op with
  | get key => exact h.call_get time key
  | put key value failure => exact h.call_put time key value failure
  | invalidate key => exact h.call_invalidate time key
  | clear => exact call_clear time

end Inv

theorem inv_exec (config : Config) (ops : List (Int × Op K V)) : Inv config (exec config ops) := by
  induction ops using List.reverseRecOn with
  | nil => exact Inv.init
  | append_singleton ops timed ih =>
    rw [exec, List.foldl_append]
    exact ih.call timed.1 timed.2

/-- The value under `key` is in the cache, fresh or not. -/
def Resident (key : K) (st : State K V) : Prop := (st.map.find key).isSome

structure Coherent (config : Config) (run : Run K V) : Prop where
  distinct : run.state.order.values.Pairwise fun a b => (a == b) = false
  sameKeys : ∀ k, Resident k run.state ↔ ∃ a ∈ run.state.order.values, (a == k) = true
  sameSize : run.state.map.size = run.state.order.values.length
  designates : ∀ k entry, run.state.map.find k = some entry →
    ∃ a, (a == k) = true ∧ ∀ b, (entry.listIt, b) ∈ run.state.order.nodes ↔ b = a
  bounded : run.state.map.size ≤ config.maxEntries
  disabled : config.disabled → run.state.map.entries = [] ∧ run.state.order.nodes = []
  hit : ∀ k now v, (get config k now run.state).1 = some v ↔
    Resident k run.state ∧
      ∃ time, lastPut k run.history = some (v, time) ∧ now - time ≤ config.ttlNanos
  expiry : ∀ k now v time, Resident k run.state → lastPut k run.history = some (v, time) →
    config.ttlNanos < now - time →
      (∀ a, (get config k now run.state).2.map.find a =
        if k == a then none else run.state.map.find a) ∧
      (get config k now run.state).2.order.values =
        run.state.order.values.filter fun a => !(a == k)
  rollback : ∀ k v failure now, ¬ Resident k run.state →
    (put config k v (some failure) now run.state).2.order.nodes = run.state.order.nodes ∧
      (put config k v (some failure) now run.state).2.map = run.state.map

omit [EquivBEq K] [LawfulHashable K] in
theorem get_hit_iff {run : Run K V} (h : Inv config run) (k : K) (now : Int) (v : V) :
    (get config k now run.state).1 = some v ↔
      Resident k run.state ∧
        ∃ time, lastPut k run.history = some (v, time) ∧ now - time ≤ config.ttlNanos := by
  rw [get, Resident]
  cases hf : run.state.map.find k with
  | none => simp
  | some entry =>
    rw [h.fresh k entry hf]
    simp only
    split_ifs with hage
    · simp only [false_iff, not_and, not_exists, Option.some.injEq, Prod.mk.injEq]
      omega
    · simp only [Option.some.injEq, Option.isSome_some, true_and, Prod.mk.injEq]
      constructor
      · rintro rfl
        exact ⟨_, ⟨rfl, rfl⟩, not_lt.mp hage⟩
      · rintro ⟨time, ⟨rfl, -⟩, -⟩
        rfl

theorem coherent_exec (config : Config) (ops : List (Int × Op K V)) :
    Coherent config (exec config ops) := by
  have h := inv_exec config ops
  exact {
    distinct := h.linked.keys_distinct
    sameKeys := h.linked.resident_iff
    sameSize := h.linked.size.trans (List.length_map _).symm
    designates := fun k entry he => by
      obtain ⟨n, hn, hid, hk⟩ := h.linked.back k entry he
      refine ⟨n.2, hk, fun b => ⟨fun hb => ?_, ?_⟩⟩
      · exact congrArg Prod.snd (NodeList.eq_of_mem hb hn hid.symm)
      · rintro rfl
        exact hid ▸ hn
    bounded := h.bounded
    disabled := fun hd => by
      have hsize := h.disabled hd
      exact ⟨List.length_eq_zero_iff.mp hsize,
        List.length_eq_zero_iff.mp (h.linked.size.symm.trans hsize)⟩
    hit := get_hit_iff h
    expiry := fun k now v time hr hl hage => by
      obtain ⟨entry, hf⟩ := Option.isSome_iff_exists.mp hr
      have hfresh := h.fresh k entry hf
      rw [hl, Option.some.injEq, Prod.mk.injEq] at hfresh
      have hget : get config k now (exec config ops).state =
          (none, ⟨(exec config ops).state.order.eraseAt entry.listIt,
            (exec config ops).state.map.erase k⟩) := by
        simp only [get, hf]
        rw [if_pos (hfresh.2 ▸ hage)]
      rw [hget]
      exact ⟨KeyMap.find_erase _ k, h.linked.eraseAt_values hf⟩
    rollback := fun k v failure now hr => by
      have hf : (exec config ops).state.map.find k = none := by simpa [Resident] using hr
      rw [put, hf]
      split_ifs
      · exact ⟨rfl, rfl⟩
      · cases failure <;> exact ⟨rfl, rfl⟩ }

theorem coherent_three_keys :
    let config : Config := { maxEntries := 2, ttl := 60 }
    let run := exec config [(0, .put 1 10 none), (5, .put 2 20 none),
      (7, .put 3 30 (some .mapInsertion)), (9, .get 1)]
    Coherent (K := Nat) (V := Nat) config run ∧ run.state.order.values = [1, 2] :=
  ⟨coherent_exec _ _, by decide⟩

end LruCache

end NwsCpp
