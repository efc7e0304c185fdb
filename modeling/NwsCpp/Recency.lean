import Mathlib

/-! Keys ordered by their latest use, and how far back a use lies: the number of
distinct keys used since. Uses are listed with the latest first. -/

namespace Recency

variable {K : Type*} [BEq K]

def touch (k : K) (l : List K) : List K := k :: l.filter fun a => !(a == k)

/-- The distinct keys of a list of uses, in the order of their latest uses. -/
def recency : List K → List K
  | [] => []
  | k :: uses => touch k (recency uses)

/-- The keys used since the latest use of `k`. -/
def since (k : K) (uses : List K) : List K := uses.takeWhile fun a => !(a == k)

/-- The number of distinct keys used since the latest use of `k`. -/
def distance (k : K) (uses : List K) : Nat := (recency (since k uses)).length

def Used (k : K) (uses : List K) : Prop := ∃ a ∈ uses, (a == k) = true

variable {k : K} {l m uses : List K}

theorem mem_of_mem_recency {a : K} (h : a ∈ recency uses) : a ∈ uses := by
  induction uses with
  | nil => exact h
  | cons u uses ih =>
    rw [recency, touch, List.mem_cons, List.mem_filter] at h
    exact List.mem_cons.mpr (h.imp_right fun hf => ih hf.1)

theorem recency_append (l m : List K) :
    recency (l ++ m) = recency l ++ (recency m).filter fun a => l.all fun u => !(a == u) := by
  induction l with
  | nil => simp [recency]
  | cons u l ih =>
    rw [List.cons_append, recency, touch, ih, List.filter_append, List.filter_filter, recency,
      touch, List.cons_append]
    simp only [List.all_cons]

theorem since_mem {a : K} (h : a ∈ since k uses) : (a == k) = false := by
  simpa using List.mem_takeWhile_imp h

theorem distance_cons_of_beq {a : K} (h : (a == k) = true) (m : List K) : distance k (a :: m) = 0 := by
  rw [distance, since, List.takeWhile_cons_of_neg (by simp [h])]
  rfl

theorem exists_since_append (h : Used k uses) :
    ∃ a rest, uses = since k uses ++ a :: rest ∧ (a == k) = true := by
  obtain ⟨b, hb, hbk⟩ := h
  cases hd : uses.dropWhile fun a => !(a == k) with
  | nil =>
    rw [List.dropWhile_eq_nil_iff] at hd
    simpa [hbk] using hd b hb
  | cons a rest =>
    have hhead := List.head?_dropWhile_not (fun a => !(a == k)) uses
    rw [hd] at hhead
    refine ⟨a, rest, ?_, by simpa using hhead⟩
    rw [since, ← hd, List.takeWhile_append_dropWhile]

/-- A key used since the latest use of another one is at no greater distance. -/
theorem distance_le_of_used_since {e : K} (h : Used e (since k uses)) :
    distance e uses ≤ distance k uses := by
  obtain ⟨a, rest, hsplit, hae⟩ := exists_since_append h
  have hshort : (since e (since k uses)).length ≠ (since k uses).length := by
    have hlen := congrArg List.length hsplit
    rw [List.length_append, List.length_cons] at hlen
    omega
  have hprefix : since e uses = since e (since k uses) := by
    conv_lhs => rw [since, ← List.takeWhile_append_dropWhile (p := fun a => !(a == k)) (l := uses)]
    rw [List.takeWhile_append]
    exact if_neg hshort
  rw [distance, distance, hprefix]
  conv_rhs => rw [hsplit]
  rw [recency_append, List.length_append]
  exact Nat.le_add_right _ _

variable [EquivBEq K]

theorem recency_pairwise (uses : List K) : (recency uses).Pairwise fun a b => (a == b) = false := by
  induction uses with
  | nil => exact List.Pairwise.nil
  | cons u uses ih =>
    refine List.pairwise_cons.mpr ⟨fun a ha => ?_, ih.filter _⟩
    have hau : (a == u) = false := by simpa using (List.mem_filter.mp ha).2
    rwa [BEq.comm]

theorem recency_eq_self (h : l.Pairwise fun a b => (a == b) = false) : recency l = l := by
  induction l with
  | nil => rfl
  | cons a l ih =>
    rw [List.pairwise_cons] at h
    have hall : ∀ b ∈ l, (!(b == a)) = true := fun b hb => by rw [BEq.comm, h.1 b hb]; rfl
    rw [recency, ih h.2, touch, List.filter_eq_self.mpr hall]

/-- Keys used after every use of `k` lie between it and now. -/
theorem length_le_distance_append (hl : l.Pairwise fun a b => (a == b) = false)
    (hk : ∀ a ∈ l, (a == k) = false) (m : List K) : l.length ≤ distance k (l ++ m) := by
  have hsince : since k (l ++ m) = l ++ since k m :=
    List.takeWhile_append_of_pos fun a ha => by rw [hk a ha]; rfl
  rw [distance, hsince, recency_append, recency_eq_self hl, List.length_append]
  exact Nat.le_add_right _ _

/-- The first keys by recency are those used, with few distinct keys since. -/
theorem mem_take_recency {n : Nat} :
    (∃ a ∈ (recency uses).take n, (a == k) = true) ↔ Used k uses ∧ distance k uses < n := by
  by_cases hused : Used k uses
  · obtain ⟨a, rest, hsplit, hak⟩ := exists_since_append hused
    have hfresh : ((since k uses).all fun u => !(a == u)) = true := by
      refine List.all_eq_true.mpr fun u hu => ?_
      have huk := since_mem hu
      rw [BEq.congr_left hak, BEq.comm, huk]
      rfl
    have hrec : recency uses = recency (since k uses) ++
        a :: ((recency rest).filter fun b => !(b == a)).filter
          fun b => (since k uses).all fun u => !(b == u) := by
      conv_lhs => rw [hsplit]
      rw [recency_append, recency, touch, List.filter_cons, if_pos hfresh]
    simp only [hused, true_and, distance]
    constructor
    · rintro ⟨b, hb, hbk⟩
      by_contra hge
      rw [hrec, List.take_append_of_le_length (not_lt.mp hge)] at hb
      have hsince := mem_of_mem_recency (List.mem_of_mem_take hb)
      rw [since_mem hsince] at hbk
      exact absurd hbk (by simp)
    · intro hlt
      refine ⟨a, List.mem_take_iff_getElem.mpr ⟨(recency (since k uses)).length, ?_, ?_⟩, hak⟩
      · have hlen := congrArg List.length hrec
        simp only [List.length_append, List.length_cons] at hlen
        omega
      · simp [hrec]
  · simp only [hused, false_and, iff_false]
    rintro ⟨a, ha, hak⟩
    exact hused ⟨a, mem_of_mem_recency (List.mem_of_mem_take ha), hak⟩

/-- Cutting a list of distinct keys to `n + 1` and then removing one key loses
nothing of the first `n` others. -/
theorem take_filter_take (hl : l.Pairwise fun a b => (a == b) = false) (n : Nat) :
    ((l.take (n + 1)).filter fun a => !(a == k)).take n =
      (l.filter fun a => !(a == k)).take n := by
  induction l generalizing n with
  | nil => simp
  | cons a l ih =>
    rw [List.pairwise_cons] at hl
    cases hak : a == k with
    | true =>
      have hall : ∀ b ∈ l, (!(b == k)) = true := fun b hb => by
        have hab := hl.1 b hb
        rw [BEq.congr_left hak, BEq.comm] at hab
        simp [hab]
      have htake : ∀ b ∈ l.take n, (!(b == k)) = true := fun b hb => hall b (List.mem_of_mem_take hb)
      simp [hak, List.filter_eq_self.mpr hall, List.filter_eq_self.mpr htake]
    | false =>
      cases n with
      | zero => simp
      | succ n => simpa [hak] using ih hl.2 n

theorem forall₂_filter (h : List.Forall₂ (fun a b => (a == b) = true) l m) (k : K) :
    List.Forall₂ (fun a b => (a == b) = true) (l.filter fun a => !(a == k))
      (m.filter fun a => !(a == k)) := by
  induction h with
  | nil => exact .nil
  | @cons a b l m hab _ ih =>
    rw [List.filter_cons, List.filter_cons, BEq.congr_left hab]
    split_ifs
    · exact .cons hab ih
    · exact ih

theorem forall₂_exists_iff (h : List.Forall₂ (fun a b => (a == b) = true) l m) (k : K) :
    (∃ a ∈ l, (a == k) = true) ↔ ∃ b ∈ m, (b == k) = true := by
  induction h with
  | nil => simp
  | cons hab _ ih => simp [BEq.congr_left hab, ih]

theorem touch_take {n : Nat} (h : List.Forall₂ (fun a b => (a == b) = true) l ((recency uses).take n))
    (hn : 0 < n) {a : K} (ha : (a == k) = true) :
    List.Forall₂ (fun a b => (a == b) = true) ((a :: l.filter fun b => !(b == k)).take n)
      ((recency (k :: uses)).take n) := by
  obtain ⟨n, rfl⟩ := Nat.exists_eq_add_of_lt hn
  simp only [Nat.zero_add, recency, touch, List.take_succ_cons] at h ⊢
  refine .cons ha ?_
  rw [← take_filter_take (recency_pairwise uses)]
  exact List.forall₂_take n (forall₂_filter h k)

end Recency
