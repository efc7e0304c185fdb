import NwsCpp.CacheResidency

/-! What is put in the LRU cache is found through every equal key, and leaves again. -/

namespace NwsCpp

open Containers Recency

namespace LruCache

variable {K V : Type*} [BEq K] [Hashable K]

/-- The calls that take the resident key `a` out of the cache. -/
inductive Removal (config : Config) (st : State K V) (a : K) : Int → Op K V → Prop
  | invalidated {time : Int} {key : K} : (key == a) = true →
      Removal config st a time (.invalidate key)
  | cleared {time : Int} : Removal config st a time .clear
  | expired {time : Int} {key : K} {entry : CacheEntry V} : (key == a) = true →
      st.map.find a = some entry → config.ttlNanos < time - entry.insertedAt →
      Removal config st a time (.get key)
  | evicted {time : Int} {key last : K} {value : V} : ¬ Resident key st →
      st.map.size = config.maxEntries → st.order.back = some last → (last == a) = true →
      Removal config st a time (.put key value none)

/-- The calls that put the entries of a list, the first one first. -/
def putAll (later : List (Int × K × V)) : List (Int × Op K V) :=
  later.map fun l => (l.1, .put l.2.1 l.2.2 none)

/-- After the calls `ops`, keys are found through their equals and leave by a removal only. -/
structure Accessible (config : Config) (ops : List (Int × Op K V)) : Prop where
  found : ∀ e ∈ (exec config ops).state.map.entries, ∀ k, (e.1 == k) = true →
    (exec config ops).state.map.find k = some e.2
  hit : ¬ config.disabled → ∀ k k' value now, (k == k') = true →
    (get config k' now (exec config (ops ++ [(now, .put k value none)])).state).1 = some value
  leaves : ∀ a now op, Resident a (exec config ops).state →
    (¬ Resident a (exec config (ops ++ [(now, op)])).state ↔
      Removal config (exec config ops).state a now op)
  kept : ∀ a after, Resident a (exec config ops).state →
    (∀ before time op rest, after = before ++ (time, op) :: rest →
      ¬ Removal config (exec config (ops ++ before)).state a time op) →
    Resident a (exec config (ops ++ after)).state
  erased : ∀ a ∈ (exec config ops).state.order.values,
    ((exec config ops).state.map.erase a).size + 1 = (exec config ops).state.map.size
  evictable : ∀ k (later : List (Int × K × V)), config.maxEntries ≤ later.length →
    (later.map fun l => l.2.1).Pairwise (fun a b => (a == b) = false) →
      (∀ l ∈ later, (l.2.1 == k) = false) →
        ¬ Resident k (exec config (ops ++ putAll later)).state

variable {config : Config} {st : State K V} {ops : List (Int × Op K V)} {a key : K}

section Leaving

theorem evict_of_le {maxEntries : Nat} (h : st.map.size ≤ maxEntries) (fuel : Nat) :
    evict maxEntries fuel st = st := by
  cases fuel with
  | zero => rfl
  | succ fuel => rw [evict, if_neg (not_lt.mpr h)]

theorem not_resident_of_size (h : st.map.size = 0) (a : K) : ¬ Resident a st := by
  rw [Resident, KeyMap.eq_empty_of_size h, KeyMap.find_empty]
  exact Bool.noConfusion

theorem exec_putAll (config : Config) (ops : List (Int × Op K V)) (later : List (Int × K × V))
    (l : Int × K × V) :
    exec config (ops ++ putAll (later ++ [l])) =
      (exec config (ops ++ putAll later)).call config l.1 (.put l.2.1 l.2.2 none) := by
  rw [putAll, List.map_append, ← List.append_assoc]
  exact exec_append config _ _

variable [EquivBEq K] [LawfulHashable K]

theorem resident_erase (order : NodeList K) (key : K) :
    Resident a ⟨order, st.map.erase key⟩ ↔ Resident a st ∧ (key == a) = false := by
  rw [Resident, Resident, KeyMap.find_erase]
  cases key == a <;> simp

theorem Linked.size_erase (h : Linked st) (ha : a ∈ st.order.values) :
    (st.map.erase a).size + 1 = st.map.size := by
  obtain ⟨entry, hf⟩ := Option.isSome_iff_exists.mp ((h.resident_iff a).mpr ⟨a, ha, BEq.rfl⟩)
  exact KeyMap.size_erase hf

theorem leaves_get (ha : Resident a st) (time : Int) :
    ¬ Resident a (get config key time st).2 ↔ Removal config st a time (.get key) := by
  have hiff : Removal config st a time (.get key) ↔ ∃ entry, st.map.find key = some entry ∧
      config.ttlNanos < time - entry.insertedAt ∧ (key == a) = true := by
    constructor
    · intro h
      cases h with
      | expired hka hf hage => exact ⟨_, KeyMap.find_congr hka _ ▸ hf, hage, hka⟩
    · rintro ⟨entry, hf, hage, hka⟩
      exact .expired hka (KeyMap.find_congr hka _ ▸ hf) hage
  rw [hiff, get]
  cases hf : st.map.find key with
  | none => simp [ha]
  | some entry =>
    simp only [Option.some.injEq, exists_eq_left']
    by_cases hage : config.ttlNanos < time - entry.insertedAt
    · rw [if_pos hage, resident_erase]
      simp [ha, hage]
    · rw [if_neg hage]
      simp only [hage, false_and, iff_false, not_not]
      exact ha

theorem leaves_invalidate (ha : Resident a st) (time : Int) :
    ¬ Resident a (invalidate key st) ↔ Removal config st a time (.invalidate key) := by
  have hiff : Removal config st a time (.invalidate key) ↔ (key == a) = true :=
    ⟨fun h => by cases h; assumption, .invalidated⟩
  rw [hiff, invalidate]
  cases hf : st.map.find key with
  | none =>
    have hka : ¬ (key == a) = true := fun hka => by
      rw [Resident, ← KeyMap.find_congr hka, hf] at ha
      exact Bool.noConfusion ha
    simp [ha, hka]
  | some entry =>
    simp only
    rw [resident_erase]
    simp [ha]

/-- The eviction loop takes one turn, which drops the last key. -/
theorem resident_evict {maxEntries : Nat} {last : K} (h : Linked st)
    (hsize : st.map.size = maxEntries + 1) (hlast : st.order.back = some last) (fuel : Nat) :
    Resident a (evict maxEntries (fuel + 1) st) ↔ Resident a st ∧ (last == a) = false := by
  have herase := h.size_erase (NodeList.mem_of_back hlast)
  rw [evict, if_pos (by omega), hlast]
  simp only
  rw [evict_of_le (by simp only; omega), resident_erase]

theorem leaves_insert (h : Linked st) (hbound : st.map.size ≤ config.maxEntries)
    (ha : Resident a st) (hf : st.map.find key = none) (value : V) (now : Int) :
    ¬ Resident a (evict config.maxEntries (st.order.pushFront key).nodes.length
        { order := st.order.pushFront key
          map := st.map.emplace key ⟨value, now, (st.order.pushFront key).begin⟩ }) ↔
      st.map.size = config.maxEntries ∧
        ∃ last, st.order.back = some last ∧ (last == a) = true := by
  have hinsert := h.insert hf value now
  have hsize := KeyMap.size_emplace hf ⟨value, now, (st.order.pushFront key).begin⟩
  have hstays : Resident a ⟨st.order.pushFront key,
      st.map.emplace key ⟨value, now, (st.order.pushFront key).begin⟩⟩ := by
    rw [Resident, KeyMap.find_emplace hf]
    split_ifs
    · rfl
    · exact ha
  by_cases hfull : st.map.size = config.maxEntries
  · have hnodes : st.order.nodes ≠ [] := fun hnil =>
      not_resident_of_size (by rw [h.size, hnil]; rfl) a ha
    obtain ⟨last, hlast⟩ := NodeList.exists_back hnodes
    rw [NodeList.nodes_pushFront, List.length_cons,
      resident_evict hinsert (by rw [hsize, hfull]) (NodeList.back_pushFront hlast key), not_and,
      Bool.not_eq_false]
    constructor
    · exact fun hleaves => ⟨hfull, last, hlast, hleaves hstays⟩
    · rintro ⟨-, b, hb, hba⟩ -
      rwa [Option.some.inj (hlast.symm.trans hb)]
  · rw [evict_of_le (by simp only; omega)]
    exact iff_of_false (not_not.mpr hstays) fun hgone => hfull hgone.1

theorem leaves_put (h : Linked st) (hbound : st.map.size ≤ config.maxEntries)
    (hdisabled : config.disabled → st.map.size = 0) (ha : Resident a st) (time : Int) (value : V)
    (failure : Option Failure) :
    ¬ Resident a (put config key value failure time st).2 ↔
      Removal config st a time (.put key value failure) := by
  have hd : ¬ config.disabled := fun hd => not_resident_of_size (hdisabled hd) a ha
  rw [put, if_neg hd]
  cases hf : st.map.find key with
  | some entry =>
    have hstays : Resident a ⟨st.order.splice entry.listIt,
        st.map.assign key { entry with value, insertedAt := time }⟩ := by
      rw [Resident, KeyMap.find_assign hf]
      split_ifs
      · rfl
      · exact ha
    refine iff_of_false (not_not.mpr hstays) fun hgone => ?_
    cases hgone with
    | evicted hnew => exact hnew (by rw [Resident, hf]; rfl)
  | none =>
    cases failure with
    | some failure =>
      refine iff_of_false (not_not.mpr ?_) (by rintro ⟨⟩)
      cases failure <;> exact ha
    | none =>
      refine (leaves_insert h hbound ha hf value time).trans ⟨?_, fun hgone => ?_⟩
      · rintro ⟨hfull, last, hlast, hla⟩
        exact .evicted (by simp [Resident, hf]) hfull hlast hla
      · cases hgone with
        | evicted _ hfull hlast hla => exact ⟨hfull, _, hlast, hla⟩

end Leaving

section Runs

variable [EquivBEq K] [LawfulHashable K]

theorem leaves_call {run : Run K V} (h : Inv config run) (ha : Resident a run.state) (time : Int)
    (op : Op K V) :
    ¬ Resident a (run.call config time op).state ↔ Removal config run.state a time op := by
  cases op with
  | get key => exact leaves_get ha time
  | put key value failure =>
    exact leaves_put h.linked h.bounded h.disabled ha time value failure
  | invalidate key => exact leaves_invalidate ha time
  | clear => exact iff_of_true (not_resident_of_size rfl a) .cleared

theorem resident_of_kept {after : List (Int × Op K V)} (ha : Resident a (exec config ops).state)
    (hkept : ∀ before time op rest, after = before ++ (time, op) :: rest →
      ¬ Removal config (exec config (ops ++ before)).state a time op) :
    Resident a (exec config (ops ++ after)).state := by
  induction after using List.reverseRecOn with
  | nil => rwa [List.append_nil]
  | append_singleton after timed ih =>
    have hin := ih fun before time op rest hsplit =>
      hkept before time op (rest ++ [timed]) (by simp [hsplit])
    have hstep := leaves_call (inv_exec config (ops ++ after)) hin timed.1 timed.2
    rw [← List.append_assoc, exec_append]
    exact not_not.mp fun hgone => hkept after timed.1 timed.2 [] rfl (hstep.mp hgone)

theorem ordered_putAll (hd : ¬ config.disabled) (later : List (Int × K × V)) :
    Ordered config ((later.map fun l => l.2.1).reverse ++ (exec config ops).state.order.values)
      (exec config (ops ++ putAll later)).state := by
  induction later using List.reverseRecOn with
  | nil =>
    have h := inv_exec config ops
    simpa [putAll] using h.linked.ordered_values h.bounded
  | append_singleton later l ih =>
    have h := inv_exec config (ops ++ putAll later)
    have hput := h.linked.put_order h.bounded hd ih (put_completed l.2.1 l.2.2 l.1 _)
    rw [exec_putAll, List.map_append, List.reverse_append]
    exact hput

theorem hit_of_put (hd : ¬ config.disabled) {k k' : K} (value : V) (now : Int)
    (hk : (k == k') = true) :
    (get config k' now (exec config (ops ++ [(now, .put k value none)])).state).1 = some value := by
  have hafter := inv_exec config (ops ++ [(now, .put k value none)])
  have horder : Ordered config ([k] ++ _) (exec config (ops ++ putAll [(now, k, value)])).state :=
    ordered_putAll hd [(now, k, value)]
  refine (get_hit_iff hafter k' now value).mpr ⟨?_, now, ?_, ?_⟩
  · refine (hafter.linked.resident_iff_distance horder k').mpr ⟨⟨k, by simp, hk⟩, ?_⟩
    rw [List.singleton_append, distance_cons_of_beq hk]
    exact Nat.pos_of_ne_zero fun hzero => hd (.inl hzero)
  · rw [exec_append]
    simp only [Run.call, step, put_completed, lastPut, hk, if_true]
  · have httl : 0 < config.ttl := not_le.mp fun hle => hd (.inr hle)
    rw [Config.ttlNanos]
    omega

theorem accessible_exec (config : Config) (ops : List (Int × Op K V)) : Accessible config ops where
  found e he k hk := KeyMap.find_of_mem _ he hk
  hit hd k k' value now hk := hit_of_put hd value now hk
  leaves a now op ha := by
    rw [exec_append]
    exact leaves_call (inv_exec config ops) ha now op
  kept a after ha hkept := resident_of_kept ha hkept
  erased a ha := (inv_exec config ops).linked.size_erase ha
  evictable k later hlen hdistinct hk := by
    have h := inv_exec config (ops ++ putAll later)
    by_cases hd : config.disabled
    · exact not_resident_of_size (h.disabled hd) k
    · rw [h.linked.resident_iff_distance (ordered_putAll hd later)]
      refine fun hin => hin.2.not_ge (hlen.trans ?_)
      have hfar := length_le_distance_append (k := k) (l := (later.map fun l => l.2.1).reverse)
        ?_ ?_ (exec config ops).state.order.values
      · simpa using hfar
      · rw [List.pairwise_reverse]
        exact hdistinct.imp fun {a b} hab => by rwa [BEq.comm]
      · intro b hb
        obtain ⟨l, hl, rfl⟩ := List.mem_map.mp (List.mem_reverse.mp hb)
        exact hk l hl

end Runs

end LruCache

end NwsCpp
