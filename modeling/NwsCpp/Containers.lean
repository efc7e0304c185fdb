import Mathlib

/-! The two containers of a keyed cache: a hash map as its list of entries, and
a doubly linked list whose iterators are the identities of its nodes. -/

namespace Containers

section Keys

variable {K V : Type*} [BEq K] [Hashable K]

/-- How a hash container compares keys: equal hashes, then `==`. -/
def sameKey (a b : K) : Bool := hash a == hash b && a == b

theorem sameKey_eq [LawfulHashable K] (a b : K) : sameKey a b = (a == b) := by
  cases hab : a == b with
  | false => simp [sameKey, hab]
  | true => simp [sameKey, hab, hash_eq hab]

/-- A hash map; no two entries have the same key. -/
structure KeyMap (K V : Type*) [BEq K] [Hashable K] where
  entries : List (K × V)
  distinct : (entries.map Prod.fst).Pairwise fun a b => sameKey a b = false

namespace KeyMap

def empty : KeyMap K V := ⟨[], List.Pairwise.nil⟩

def size (m : KeyMap K V) : Nat := m.entries.length

def find (m : KeyMap K V) (k : K) : Option V :=
  (m.entries.find? (sameKey ·.1 k)).map Prod.snd

def assignFirst (k : K) (v : V) : List (K × V) → List (K × V)
  | [] => []
  | e :: es => if sameKey e.1 k then (e.1, v) :: es else e :: assignFirst k v es

theorem keys_assignFirst (k : K) (v : V) (es : List (K × V)) :
    (assignFirst k v es).map Prod.fst = es.map Prod.fst := by
  induction es with
  | nil => rfl
  | cons e es ih =>
    rw [assignFirst]
    split_ifs <;> simp [ih]

def assign (m : KeyMap K V) (k : K) (v : V) : KeyMap K V :=
  ⟨assignFirst k v m.entries, by rw [keys_assignFirst]; exact m.distinct⟩

def erase (m : KeyMap K V) (k : K) : KeyMap K V :=
  ⟨m.entries.eraseP (sameKey ·.1 k), m.distinct.sublist (List.eraseP_sublist.map Prod.fst)⟩

theorem find_eq_none_iff {m : KeyMap K V} {k : K} :
    m.find k = none ↔ ∀ e ∈ m.entries, sameKey e.1 k = false := by
  simp [find]

/-- An insertion, without effect where the key is present. -/
def emplace (m : KeyMap K V) (k : K) (v : V) : KeyMap K V :=
  if h : m.find k = none then
    ⟨m.entries ++ [(k, v)], by
      rw [List.map_append, List.pairwise_append]
      refine ⟨m.distinct, by simp, fun a ha b hb => ?_⟩
      obtain ⟨e, he, rfl⟩ := List.mem_map.mp ha
      obtain rfl := List.mem_singleton.mp hb
      exact find_eq_none_iff.mp h e he⟩
  else m

@[simp] theorem find_empty (k : K) : (empty : KeyMap K V).find k = none := rfl

@[simp] theorem size_empty : (empty : KeyMap K V).size = 0 := rfl

theorem size_emplace {m : KeyMap K V} {k : K} (h : m.find k = none) (v : V) :
    (m.emplace k v).size = m.size + 1 := by
  simp [emplace, h, size]

@[simp] theorem size_assign (m : KeyMap K V) (k : K) (v : V) : (m.assign k v).size = m.size := by
  have h := congrArg List.length (keys_assignFirst k v m.entries)
  simpa [assign, size] using h

theorem size_erase {m : KeyMap K V} {k : K} {v : V} (h : m.find k = some v) :
    (m.erase k).size + 1 = m.size := by
  obtain ⟨e, he, -⟩ := Option.map_eq_some_iff.mp h
  have hmem := List.mem_of_find?_eq_some he
  have hpos : 0 < m.entries.length := List.length_pos_of_mem hmem
  have hlen := List.length_eraseP_of_mem hmem (List.find?_some he)
  simp only [erase, size]
  omega

theorem size_erase_le {m : KeyMap K V} {k : K} {v : V} (h : m.find k = some v) :
    (m.erase k).size ≤ m.size := by
  have := size_erase h
  omega

theorem eq_empty_of_size {m : KeyMap K V} (h : m.size = 0) : m = empty := by
  obtain ⟨entries, distinct⟩ := m
  obtain rfl := List.length_eq_zero_iff.mp h
  rfl

section Lawful

variable [EquivBEq K] [LawfulHashable K]

theorem find_congr {a b : K} (hab : (a == b) = true) (m : KeyMap K V) : m.find a = m.find b := by
  have hp : (fun e : K × V => sameKey e.1 a) = fun e => sameKey e.1 b := funext fun e => by
    rw [sameKey_eq, sameKey_eq, BEq.congr_right hab]
  rw [find, find, hp]

theorem find_of_mem (m : KeyMap K V) {e : K × V} (he : e ∈ m.entries) {k : K}
    (hk : (e.1 == k) = true) : m.find k = some e.2 := by
  rw [← find_congr hk]
  obtain ⟨es, distinct⟩ := m
  simp only [find, sameKey_eq] at he distinct ⊢
  induction es with
  | nil => cases he
  | cons d es ih =>
    rw [List.map_cons, List.pairwise_cons] at distinct
    rcases List.mem_cons.mp he with rfl | he
    · rw [List.find?_cons, BEq.rfl]
      rfl
    · have hde := distinct.1 e.1 (List.mem_map_of_mem he)
      rw [List.find?_cons, hde]
      exact ih he distinct.2

theorem find_emplace {m : KeyMap K V} {k : K} (h : m.find k = none) (v : V) (a : K) :
    (m.emplace k v).find a = if k == a then some v else m.find a := by
  rw [emplace, dif_pos h, find, List.find?_append]
  by_cases hka : (k == a) = true
  · have hnone : m.find a = none := find_congr hka m ▸ h
    rw [find, Option.map_eq_none_iff] at hnone
    rw [hnone, Option.none_or]
    simp [hka, sameKey_eq]
  · have hcons : List.find? (fun e : K × V => sameKey e.1 a) [(k, v)] = none := by
      simpa [sameKey_eq] using hka
    rw [hcons, Option.or_none, if_neg hka, find]

theorem find_assign {m : KeyMap K V} {k : K} {old : V} (h : m.find k = some old) (v : V) (a : K) :
    (m.assign k v).find a = if k == a then some v else m.find a := by
  obtain ⟨es, distinct⟩ := m
  simp only [assign, find] at h ⊢
  clear distinct
  induction es with
  | nil => simp at h
  | cons e es ih =>
    rw [assignFirst]
    by_cases hek : (e.1 == k) = true
    · simp only [sameKey_eq, hek, if_true, List.find?_cons, BEq.congr_left hek]
      cases k == a <;> simp
    · have hrest : (es.find? (sameKey ·.1 k)).map Prod.snd = some old := by
        simpa [sameKey_eq, List.find?_cons, hek] using h
      simp only [sameKey_eq, hek, Bool.false_eq_true, if_false, List.find?_cons]
      simp only [sameKey_eq] at ih hrest
      cases hea : e.1 == a with
      | false => exact ih hrest
      | true =>
        have hka : (k == a) = false := by
          by_contra hka
          exact hek (BEq.trans hea (BEq.symm (by simpa using hka)))
        simp [hka]

theorem find_erase (m : KeyMap K V) (k a : K) :
    (m.erase k).find a = if k == a then none else m.find a := by
  obtain ⟨es, distinct⟩ := m
  simp only [erase, find, sameKey_eq] at distinct ⊢
  induction es with
  | nil => simp
  | cons e es ih =>
    rw [List.map_cons, List.pairwise_cons] at distinct
    by_cases hek : (e.1 == k) = true
    · simp only [List.eraseP_cons, hek, cond_true, List.find?_cons, BEq.congr_left hek]
      cases hka : k == a with
      | false => simp
      | true =>
        have hnone : es.find? (·.1 == a) = none := by
          rw [List.find?_eq_none]
          intro x hx hxa
          have hne := distinct.1 x.1 (List.mem_map_of_mem hx)
          rw [BEq.trans hek (BEq.trans hka (BEq.symm hxa))] at hne
          exact Bool.noConfusion hne
        simp [hnone]
    · simp only [List.eraseP_cons, hek, cond_false, List.find?_cons]
      cases hea : e.1 == a with
      | false => exact ih distinct.2
      | true =>
        have hka : (k == a) = false := by
          by_contra hka
          exact hek (BEq.trans hea (BEq.symm (by simpa using hka)))
        simp [hka]

end Lawful

end KeyMap

end Keys

/-- A linked list; a node keeps its identity wherever it moves. -/
structure NodeList (α : Type*) where
  nodes : List (Nat × α)
  next : Nat
  nodup : (nodes.map Prod.fst).Nodup
  fresh : ∀ n ∈ nodes, n.1 < next

namespace NodeList

variable {α : Type*}

def empty : NodeList α := ⟨[], 0, List.nodup_nil, by simp⟩

def values (l : NodeList α) : List α := l.nodes.map Prod.snd

def begin (l : NodeList α) : Nat := (l.nodes.head?.map Prod.fst).getD l.next

def back (l : NodeList α) : Option α := l.nodes.getLast?.map Prod.snd

def pushFront (l : NodeList α) (a : α) : NodeList α where
  nodes := (l.next, a) :: l.nodes
  next := l.next + 1
  nodup := by
    rw [List.map_cons, List.nodup_cons]
    refine ⟨fun h => ?_, l.nodup⟩
    obtain ⟨n, hn, he⟩ := List.mem_map.mp h
    exact absurd he (l.fresh n hn).ne
  fresh n hn := by
    rcases List.mem_cons.mp hn with rfl | hn
    · exact Nat.lt_succ_self _
    · exact (l.fresh n hn).trans (Nat.lt_succ_self _)

def restrict (l : NodeList α) (nodes : List (Nat × α)) (h : nodes.Sublist l.nodes) : NodeList α where
  nodes := nodes
  next := l.next
  nodup := l.nodup.sublist (h.map Prod.fst)
  fresh n hn := l.fresh n (h.subset hn)

def popFront (l : NodeList α) : NodeList α := l.restrict l.nodes.tail (List.tail_sublist _)

def popBack (l : NodeList α) : NodeList α := l.restrict l.nodes.dropLast (List.dropLast_sublist _)

def eraseAt (l : NodeList α) (it : Nat) : NodeList α :=
  l.restrict (l.nodes.eraseP (·.1 == it)) List.eraseP_sublist

theorem splice_perm (it : Nat) (nodes : List (Nat × α)) :
    ((nodes.find? (·.1 == it)).toList ++ nodes.eraseP (·.1 == it)).Perm nodes := by
  induction nodes with
  | nil => simp
  | cons n nodes ih =>
    by_cases hn : (n.1 == it) = true
    · simp [hn]
    · simp only [List.find?_cons, List.eraseP_cons, hn, cond_false]
      exact List.perm_middle.trans (ih.cons n)

/-- The node that `it` designates moved to the front. -/
def splice (l : NodeList α) (it : Nat) : NodeList α where
  nodes := (l.nodes.find? (·.1 == it)).toList ++ l.nodes.eraseP (·.1 == it)
  next := l.next
  nodup := ((splice_perm it l.nodes).map Prod.fst).nodup_iff.mpr l.nodup
  fresh n hn := l.fresh n ((splice_perm it l.nodes).mem_iff.mp hn)

variable {l : NodeList α} {it : Nat} {n : Nat × α}

@[simp] theorem nodes_empty : (empty : NodeList α).nodes = [] := rfl

@[simp] theorem nodes_pushFront (a : α) : (l.pushFront a).nodes = (l.next, a) :: l.nodes := rfl

@[simp] theorem begin_pushFront (a : α) : (l.pushFront a).begin = l.next := rfl

theorem back_pushFront {b : α} (h : l.back = some b) (a : α) : (l.pushFront a).back = some b := by
  obtain ⟨n, hlast, rfl⟩ := Option.map_eq_some_iff.mp h
  rw [back, nodes_pushFront, List.getLast?_cons, hlast]
  rfl

theorem mem_of_back {b : α} (h : l.back = some b) : b ∈ l.values := by
  obtain ⟨n, hlast, rfl⟩ := Option.map_eq_some_iff.mp h
  exact List.mem_map_of_mem (List.mem_of_getLast? hlast)

theorem exists_back (h : l.nodes ≠ []) : ∃ b, l.back = some b :=
  ⟨_, by rw [back, List.getLast?_eq_some_getLast h, Option.map_some]⟩

@[simp] theorem popFront_pushFront (a : α) : (l.pushFront a).popFront.nodes = l.nodes := rfl

theorem eq_of_mem {m : Nat × α} (hn : n ∈ l.nodes) (hm : m ∈ l.nodes) (h : n.1 = m.1) : n = m :=
  List.inj_on_of_nodup_map l.nodup hn hm h

theorem nodes_splice :
    (l.splice it).nodes = (l.nodes.find? (·.1 == it)).toList ++ l.nodes.eraseP (·.1 == it) := rfl

@[simp] theorem mem_splice : n ∈ (l.splice it).nodes ↔ n ∈ l.nodes :=
  (splice_perm it l.nodes).mem_iff

@[simp] theorem length_splice : (l.splice it).nodes.length = l.nodes.length :=
  (splice_perm it l.nodes).length_eq

theorem eraseAt_eq_filter : (l.eraseAt it).nodes = l.nodes.filter (·.1 != it) := by
  obtain ⟨nodes, next, nodup, fresh⟩ := l
  simp only [eraseAt, restrict]
  clear fresh
  induction nodes with
  | nil => rfl
  | cons n nodes ih =>
    rw [List.map_cons, List.nodup_cons] at nodup
    by_cases hn : (n.1 == it) = true
    · have hall : ∀ m ∈ nodes, (m.1 != it) = true := by
        intro m hm
        rw [bne_iff_ne]
        exact fun he => nodup.1 ((beq_iff_eq.mp hn).trans he.symm ▸ List.mem_map_of_mem hm)
      have hne : (n.1 != it) = false := by simpa using hn
      simp only [List.eraseP_cons, hn, cond_true, List.filter_cons, hne, Bool.false_eq_true,
        if_false, List.filter_eq_self.mpr hall]
    · have hne : (n.1 != it) = true := by simpa using hn
      simp only [List.eraseP_cons, hn, cond_false, List.filter_cons, hne, if_true, ih nodup.2]

theorem popBack_eq_eraseAt {k : α} (h : l.nodes.getLast? = some (it, k)) :
    l.popBack.nodes = (l.eraseAt it).nodes := by
  have hsplit := List.dropLast_append_getLast? _ h
  have hnodup := l.nodup
  rw [← hsplit, List.map_append, List.nodup_append] at hnodup
  have hall : ∀ m ∈ l.nodes.dropLast, (m.1 != it) = true := by
    intro m hm
    exact bne_iff_ne.mpr (hnodup.2.2 m.1 (List.mem_map_of_mem hm) it (by simp))
  rw [eraseAt_eq_filter]
  conv_rhs => rw [← hsplit]
  rw [List.filter_append, List.filter_eq_self.mpr hall]
  simp [popBack, restrict]

theorem length_popBack (h : l.nodes.getLast? = some n) :
    l.popBack.nodes.length + 1 = l.nodes.length := by
  have hpos := List.length_pos_of_mem (List.mem_of_getLast? h)
  simp only [popBack, restrict, List.length_dropLast]
  omega

theorem mem_eraseAt : n ∈ (l.eraseAt it).nodes ↔ n ∈ l.nodes ∧ n.1 ≠ it := by
  rw [eraseAt_eq_filter, List.mem_filter, bne_iff_ne]

theorem length_eraseAt (hn : n ∈ l.nodes) : (l.eraseAt n.1).nodes.length + 1 = l.nodes.length := by
  have hpos : 0 < l.nodes.length := List.length_pos_of_mem hn
  have hlen := List.length_eraseP_of_mem (p := (·.1 == n.1)) hn (by simp)
  simp only [eraseAt, restrict]
  omega

end NodeList

end Containers
