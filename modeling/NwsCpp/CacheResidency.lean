import NwsCpp.CacheCoherence
import NwsCpp.Recency

/-! Which keys the LRU cache holds, read off the history of its uses. -/

namespace NwsCpp

open Containers Recency

namespace LruCache

variable {K V : Type*} [BEq K] [Hashable K]

/-- The keys used by the past calls, the latest first: a completed `put` or a `get`
that hit. -/
def uses : List (Event K V) → List K
  | [] => []
  | ⟨_, .put k _ _, .completed⟩ :: rest => k :: uses rest
  | ⟨_, .get k, .got (some _)⟩ :: rest => k :: uses rest
  | _ :: rest => uses rest

def WasPut (k : K) (history : List (Event K V)) : Prop :=
  ∃ time key value failure, ⟨time, .put key value failure, .completed⟩ ∈ history ∧ (key == k) = true

def GetsAndPuts (ops : List (Int × Op K V)) : Prop :=
  ∀ timed ∈ ops, (∃ k, timed.2 = .get k) ∨ ∃ k value failure, timed.2 = .put k value failure

/-- No `get` finds an entry that is older than the time to live. -/
def Unexpired (config : Config) (ops : List (Int × Op K V)) : Prop :=
  ∀ before time k after, ops = before ++ (time, .get k) :: after →
    ∀ entry, (exec config before).state.map.find k = some entry →
      time - entry.insertedAt ≤ config.ttlNanos

variable {config : Config} {st : State K V} {ops : List (Int × Op K V)} {k : K}

section History

theorem Unexpired.of_append {timed : Int × Op K V} (h : Unexpired config (ops ++ [timed])) :
    Unexpired config ops := by
  intro before time k after hsplit
  exact h before time k (after ++ [timed]) (by simp [hsplit])

theorem unexpired_iff :
    Unexpired config ops ↔ ∀ (i : Nat) time k, ops[i]? = some (time, .get k) →
      ∀ entry, (exec config (ops.take i)).state.map.find k = some entry →
        time - entry.insertedAt ≤ config.ttlNanos := by
  constructor
  · intro h i time k hget
    obtain ⟨hi, hop⟩ := List.getElem?_eq_some_iff.mp hget
    refine h (ops.take i) time k (ops.drop (i + 1)) ?_
    rw [← hop, List.getElem_cons_drop, List.take_append_drop]
  · rintro h before time k after rfl
    have hget := h before.length time k (by simp)
    rwa [List.take_left] at hget

theorem exec_append (config : Config) (ops : List (Int × Op K V)) (timed : Int × Op K V) :
    exec config (ops ++ [timed]) = (exec config ops).call config timed.1 timed.2 := by
  rw [exec, List.foldl_append]
  rfl

omit [Hashable K]

theorem WasPut.cons {history : List (Event K V)} (h : WasPut k history) (e : Event K V) :
    WasPut k (e :: history) := by
  obtain ⟨time, key, value, failure, hmem, hk⟩ := h
  exact ⟨time, key, value, failure, List.mem_cons_of_mem e hmem, hk⟩

theorem WasPut.congr [EquivBEq K] {history : List (Event K V)} {a b : K} (h : WasPut a history)
    (hab : (a == b) = true) : WasPut b history := by
  obtain ⟨time, key, value, failure, hmem, hk⟩ := h
  exact ⟨time, key, value, failure, hmem, BEq.trans hk hab⟩

theorem used_of_wasPut {history : List (Event K V)} (h : WasPut k history) :
    Used k (uses history) := by
  obtain ⟨time, key, value, failure, hmem, hk⟩ := h
  induction history with
  | nil => simp at hmem
  | cons e history ih =>
    rcases List.mem_cons.mp hmem with rfl | hmem
    · exact ⟨key, by simp [uses], hk⟩
    · obtain ⟨a, ha, hak⟩ := ih hmem
      refine ⟨a, ?_, hak⟩
      rw [uses.eq_def]
      split <;> simp_all

end History

section Lawful

variable [EquivBEq K] [LawfulHashable K]

theorem Linked.splice_values (h : Linked st) {entry : CacheEntry V}
    (hf : st.map.find k = some entry) :
    ∃ a, (a == k) = true ∧ (st.order.splice entry.listIt).values =
      a :: st.order.values.filter fun b => !(b == k) := by
  obtain ⟨n, hn, hid, hk⟩ := h.back k entry hf
  have hfind : st.order.nodes.find? (·.1 == entry.listIt) = some n := by
    cases hfound : st.order.nodes.find? (·.1 == entry.listIt) with
    | none =>
      rw [List.find?_eq_none] at hfound
      simpa [hid] using hfound n hn
    | some m =>
      have hm : m.1 = entry.listIt := by simpa using List.find?_some hfound
      rw [NodeList.eq_of_mem (List.mem_of_find?_eq_some hfound) hn (hm.trans hid.symm)]
  refine ⟨n.2, hk, ?_⟩
  rw [← h.eraseAt_values hf, NodeList.values, NodeList.nodes_splice, hfind]
  rfl

theorem evict_values (maxEntries : Nat) {fuel : Nat} (h : Linked st)
    (hfuel : st.order.nodes.length ≤ fuel) :
    (evict maxEntries fuel st).order.values = st.order.values.take maxEntries := by
  induction fuel generalizing st with
  | zero =>
    have hnil : st.order.nodes = [] := List.length_eq_zero_iff.mp (Nat.le_zero.mp hfuel)
    simp [evict, NodeList.values, hnil]
  | succ fuel ih =>
    have hsize := h.size
    rw [evict]
    split_ifs with hmax
    · cases hlast : st.order.nodes.getLast? with
      | none =>
        rw [List.getLast?_eq_none_iff] at hlast
        simp only [hlast, List.length_nil] at hsize
        omega
      | some n =>
        have hback : st.order.back = some n.2 := by simp [NodeList.back, hlast]
        have hlen := NodeList.length_popBack hlast
        have hrest := ih (h.popBack hlast) (by simp only; omega)
        have hpop : st.order.popBack.values = st.order.values.dropLast := by
          simp [NodeList.values, NodeList.popBack, NodeList.restrict]
        have hvalues : st.order.values.length = st.order.nodes.length := List.length_map _
        rw [hback]
        simp only
        rw [hrest, hpop, List.dropLast_eq_take, List.take_take, min_eq_left (by omega)]
    · have hvalues : st.order.values.length = st.order.nodes.length := List.length_map _
      exact (List.take_of_length_le (by omega)).symm

/-- The list of a cache is the front of `us` in the order of their latest use. -/
def Ordered (config : Config) (us : List K) (st : State K V) : Prop :=
  List.Forall₂ (fun a b => (a == b) = true) st.order.values ((recency us).take config.maxEntries)

variable {us : List K}

theorem Linked.ordered_values (h : Linked st) (hbound : st.map.size ≤ config.maxEntries) :
    Ordered config st.order.values st := by
  have hlen : st.order.values.length ≤ config.maxEntries := by
    rw [NodeList.values, List.length_map, ← h.size]
    exact hbound
  rw [Ordered, recency_eq_self h.keys_distinct, List.take_of_length_le hlen]
  exact List.forall₂_same.mpr fun _ _ => BEq.rfl

theorem Linked.resident_iff_distance (h : Linked st) (horder : Ordered config us st) (k : K) :
    Resident k st ↔ Used k us ∧ distance k us < config.maxEntries := by
  rw [Resident, h.resident_iff, ← mem_take_recency, forall₂_exists_iff horder]

theorem Linked.splice_order (h : Linked st) (hbound : st.map.size ≤ config.maxEntries)
    (hmax : 0 < config.maxEntries) (horder : Ordered config us st) {entry : CacheEntry V}
    (hf : st.map.find k = some entry) (map : KeyMap K (CacheEntry V)) :
    Ordered config (k :: us) ⟨st.order.splice entry.listIt, map⟩ := by
  obtain ⟨a, hak, hvalues⟩ := h.splice_values hf
  have hlen : (st.order.splice entry.listIt).values.length ≤ config.maxEntries := by
    rw [NodeList.values, List.length_map, NodeList.length_splice, ← h.size]
    exact hbound
  rw [Ordered, ← List.take_of_length_le hlen, hvalues]
  exact touch_take horder hmax hak

/-- A completed `put` uses its key. -/
theorem Linked.put_order (h : Linked st) (hbound : st.map.size ≤ config.maxEntries)
    (hd : ¬ config.disabled) (horder : Ordered config us st) {time : Int} {value : V}
    {failure : Option Failure} (hdone : (put config k value failure time st).1 = .completed) :
    Ordered config (k :: us) (put config k value failure time st).2 := by
  have hmax : 0 < config.maxEntries := Nat.pos_of_ne_zero fun hzero => hd (.inl hzero)
  rw [LruCache.put, if_neg hd] at hdone ⊢
  cases hf : st.map.find k with
  | some entry => exact h.splice_order hbound hmax horder hf _
  | none =>
    rw [hf] at hdone
    cases failure with
    | some failure => cases failure <;> cases hdone
    | none =>
      have hunused : ∀ b ∈ st.order.values, (!(b == k)) = true := by
        intro b hb
        by_contra hbk
        have hresident := (h.resident_iff k).mpr ⟨b, hb, by simpa using hbk⟩
        simp [hf] at hresident
      have hvalues : (st.order.pushFront k).values = k :: st.order.values.filter fun b => !(b == k) := by
        rw [List.filter_eq_self.mpr hunused]
        rfl
      simp only
      rw [Ordered, evict_values _ (h.insert hf value time) le_rfl, hvalues]
      exact touch_take horder hmax BEq.rfl

end Lawful

/-- The list of the cache is the front of the keys in order of their latest use. -/
structure Recent (config : Config) (run : Run K V) : Prop where
  inv : Inv config run
  order : List.Forall₂ (fun a b => (a == b) = true) run.state.order.values
    ((recency (uses run.history)).take config.maxEntries)
  wasPut : ∀ k, Used k (uses run.history) → WasPut k run.history

namespace Recent

variable {run : Run K V}

theorem init [EquivBEq K] (config : Config) : Recent config ({} : Run K V) where
  inv := Inv.init
  order := by simp [State.init, NodeList.values, uses, recency]
  wasPut k h := by simp [Used, uses] at h

theorem completed (h : Recent config run) {time : Int} {value : V} {failure : Option Failure}
    {state : State K V}
    (hinv : Inv config ⟨⟨time, .put k value failure, .completed⟩ :: run.history, state⟩)
    (horder : List.Forall₂ (fun a b => (a == b) = true) state.order.values
      ((recency (k :: uses run.history)).take config.maxEntries)) :
    Recent config ⟨⟨time, .put k value failure, .completed⟩ :: run.history, state⟩ where
  inv := hinv
  order := horder
  wasPut a ha := by
    obtain ⟨b, hb, hba⟩ := ha
    rcases List.mem_cons.mp hb with rfl | hb
    · exact ⟨time, b, value, failure, List.mem_cons_self, hba⟩
    · exact (h.wasPut a ⟨b, hb, hba⟩).cons _

variable [EquivBEq K] [LawfulHashable K]

theorem resident_iff (h : Recent config run) (k : K) :
    Resident k run.state ↔
      Used k (uses run.history) ∧ distance k (uses run.history) < config.maxEntries :=
  h.inv.linked.resident_iff_distance h.order k

theorem call_get (h : Recent config run) (hmax : 0 < config.maxEntries) {time : Int}
    (hfresh : ∀ entry, run.state.map.find k = some entry →
      time - entry.insertedAt ≤ config.ttlNanos) :
    Recent config (run.call config time (.get k)) := by
  have hinv := h.inv.call_get time k
  cases hf : run.state.map.find k with
  | none =>
    have hcall : run.call config time (.get k) =
        { history := ⟨time, .get k, .got none⟩ :: run.history, state := run.state } := by
      simp [Run.call, step, get, hf]
    rw [hcall] at hinv ⊢
    exact ⟨hinv, h.order, fun a ha => (h.wasPut a ha).cons _⟩
  | some entry =>
    have hcall : run.call config time (.get k) =
        { history := ⟨time, .get k, .got (some entry.value)⟩ :: run.history
          state := { run.state with order := run.state.order.splice entry.listIt } } := by
      simp [Run.call, step, get, hf, not_lt.mpr (hfresh entry hf)]
    rw [hcall] at hinv ⊢
    refine ⟨hinv, h.inv.linked.splice_order h.inv.bounded hmax h.order hf _, fun a ha => ?_⟩
    obtain ⟨b, hb, hba⟩ := ha
    rcases List.mem_cons.mp hb with rfl | hb
    · have hresident : Resident b run.state := by simp [Resident, hf]
      exact ((h.wasPut b ((h.resident_iff b).mp hresident).1).congr hba).cons _
    · exact (h.wasPut a ⟨b, hb, hba⟩).cons _

theorem call_put (h : Recent config run) (hd : ¬ config.disabled) (time : Int) (value : V)
    (failure : Option Failure) : Recent config (run.call config time (.put k value failure)) := by
  have hinv := h.inv.call_put time k value failure
  by_cases hdone : (put config k value failure time run.state).1 = .completed
  · have hcall : run.call config time (.put k value failure) =
        { history := ⟨time, .put k value failure, .completed⟩ :: run.history
          state := (put config k value failure time run.state).2 } := by
      rw [Run.call, step, hdone]
    rw [hcall] at hinv ⊢
    exact h.completed hinv (h.inv.linked.put_order h.inv.bounded hd h.order hdone)
  · have hcall : (run.call config time (.put k value failure)).history =
          ⟨time, .put k value failure, .threw⟩ :: run.history ∧
        (run.call config time (.put k value failure)).state.order.values =
          run.state.order.values := by
      rw [put, if_neg hd] at hdone
      cases hf : run.state.map.find k with
      | some entry => simp [hf] at hdone
      | none =>
        cases failure with
        | none => simp [hf] at hdone
        | some failure => cases failure <;> simp [Run.call, step, put, hd, hf, NodeList.values]
    refine ⟨hinv, ?_, ?_⟩
    · rw [hcall.1, hcall.2]
      exact h.order
    · rw [hcall.1]
      exact fun a ha => (h.wasPut a ha).cons _

end Recent

variable [EquivBEq K] [LawfulHashable K]

theorem recent_exec (hmax : 1 ≤ config.maxEntries) (httl : 0 < config.ttl) (hops : GetsAndPuts ops)
    (hfresh : Unexpired config ops) : Recent config (exec config ops) := by
  induction ops using List.reverseRecOn with
  | nil => exact Recent.init config
  | append_singleton ops timed ih =>
    have hprev := ih (fun t ht => hops t (List.mem_append_left _ ht)) hfresh.of_append
    obtain ⟨time, op⟩ := timed
    rw [exec_append]
    rcases hops (time, op) (by simp) with ⟨k, hop⟩ | ⟨k, value, failure, hop⟩
    · obtain rfl : op = .get k := hop
      exact hprev.call_get hmax (hfresh ops time k [] rfl)
    · obtain rfl : op = .put k value failure := hop
      have hd : ¬ config.disabled := by
        rw [Config.disabled]
        omega
      exact hprev.call_put hd time value failure

/-- In a run of `put` and `get` without expiry, a `get` hits exactly when the key
was put and fewer distinct other keys than the cache holds were used since; and no
key that is gone was used since the latest use of a key that is there. -/
theorem residency_exact (config : Config) (hmax : 1 ≤ config.maxEntries) (httl : 0 < config.ttl)
    (ops : List (Int × Op K V)) (hops : GetsAndPuts ops) (now : Int) (k : K)
    (hfresh : Unexpired config (ops ++ [(now, .get k)])) :
    ((get config k now (exec config ops).state).1.isSome ↔
      WasPut k (exec config ops).history ∧
        distance k (uses (exec config ops).history) < config.maxEntries) ∧
    ∀ evicted resident, WasPut evicted (exec config ops).history →
      ¬ Resident evicted (exec config ops).state → Resident resident (exec config ops).state →
        ¬ Used evicted (since resident (uses (exec config ops).history)) := by
  have h := recent_exec hmax httl hops hfresh.of_append
  refine ⟨?_, fun evicted resident hput hgone hin hsince => ?_⟩
  · have hhit : (get config k now (exec config ops).state).1.isSome ↔
        Resident k (exec config ops).state := by
      rw [Resident, get]
      cases hf : (exec config ops).state.map.find k with
      | none => simp
      | some entry => simp [not_lt.mpr (hfresh ops now k [] rfl entry hf)]
    rw [hhit, h.resident_iff]
    exact and_congr_left fun _ => ⟨h.wasPut k, used_of_wasPut⟩
  · have hnear := ((h.resident_iff resident).mp hin).2
    have hfar := distance_le_of_used_since hsince
    exact hgone ((h.resident_iff evicted).mpr ⟨used_of_wasPut hput, by omega⟩)

/-- Room for two: key 1 stays by its hit, key 2 has to go. -/
def twoEntries : List (Int × Op Nat Nat) :=
  [(0, .put 1 10 none), (1, .put 2 20 none), (2, .get 1), (3, .put 3 30 none)]

theorem twoEntries_unexpired {k : Nat} (hk : k = 1 ∨ k = 2) :
    Unexpired { maxEntries := 2 } (twoEntries ++ [(9, .get k)]) := by
  refine unexpired_iff.mpr fun i time key hget entry hf => ?_
  match i, hget with
  | 2, hget =>
    cases hget
    cases hf
    decide
  | 4, hget =>
    cases hget
    obtain rfl | rfl := hk
    · cases hf
      decide
    · cases hf

theorem residency_two_entries :
    (get { maxEntries := 2 } 1 9 (exec { maxEntries := 2 } twoEntries).state).1.isSome ∧
      ¬ (get { maxEntries := 2 } 2 9 (exec { maxEntries := 2 } twoEntries).state).1.isSome := by
  have hops : GetsAndPuts twoEntries := by simp [GetsAndPuts, twoEntries]
  have hstays := (residency_exact { maxEntries := 2 } (by decide) (by decide) twoEntries hops 9 1
    (twoEntries_unexpired (Or.inl rfl))).1
  have hgone := (residency_exact { maxEntries := 2 } (by decide) (by decide) twoEntries hops 9 2
    (twoEntries_unexpired (Or.inr rfl))).1
  rw [hstays, hgone]
  refine ⟨⟨⟨0, 1, 10, none, ?_, rfl⟩, by decide⟩, fun h => absurd h.2 (by decide)⟩
  exact .tail _ (.tail _ (.tail _ (.head _)))

end LruCache

end NwsCpp
