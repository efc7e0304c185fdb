import Mathlib

/-! A keyed store as a list of timed rows in the order of their latest use. -/

namespace TimedRows

structure Row (K V : Type*) where
  key : K
  value : V
  time : Int

variable {K V : Type*} [BEq K]

def row (k : K) (rows : List (Row K V)) : Option (Row K V) := rows.find? (·.key == k)

def without (k : K) (rows : List (Row K V)) : List (Row K V) := rows.filter fun r => !(r.key == k)

/-- The value of the key unless its row is older than `age`, and the rows after the use. -/
def lookup (age : Int) (k : K) (now : Int) (rows : List (Row K V)) : Option V × List (Row K V) :=
  match row k rows with
  | none => (none, rows)
  | some r =>
    if age < now - r.time then (none, without k rows) else (some r.value, r :: without k rows)

/-- The value in front of the other rows, of which at most `limit` stay with it. -/
def store (limit : Nat) (k : K) (value : V) (now : Int) (rows : List (Row K V)) :
    List (Row K V) :=
  (⟨((row k rows).map Row.key).getD k, value, now⟩ :: without k rows).take limit

variable {k : K} {rows : List (Row K V)} {f : K → Option (Row K V)}

theorem without_eq_self (h : row k rows = none) : without k rows = rows := by
  rw [row, List.find?_eq_none] at h
  exact List.filter_eq_self.mpr fun r hr => by simpa using h r hr

theorem row_filterMap_of_none {keys : List K} (hf : ∀ a ∈ keys, ∀ r, f a = some r → r.key = a)
    (h : ∀ a ∈ keys, (a == k) = false) : row k (keys.filterMap f) = none := by
  rw [row, List.find?_eq_none]
  intro r hr
  obtain ⟨a, ha, har⟩ := List.mem_filterMap.mp hr
  rw [hf a ha r har, h a ha]
  simp

theorem row_filterMap_of_mem {keys : List K} (hf : ∀ a ∈ keys, ∀ r, f a = some r → r.key = a)
    (hkeys : keys.Pairwise fun a b => (a == b) = false) [EquivBEq K] {a : K} {r : Row K V}
    (ha : a ∈ keys) (hak : (a == k) = true) (har : f a = some r) :
    row k (keys.filterMap f) = some r := by
  induction keys with
  | nil => simp at ha
  | cons b keys ih =>
    rw [List.pairwise_cons] at hkeys
    rcases List.mem_cons.mp ha with rfl | ha
    · rw [List.filterMap_cons_some har, row, List.find?_cons, hf a (by simp) r har, hak]
    · have hbk : (b == k) = false := by
        by_contra hbk
        have hab := hkeys.1 a ha
        rw [BEq.trans (Bool.of_not_eq_false hbk) (BEq.symm hak)] at hab
        exact Bool.noConfusion hab
      have hrest := ih (fun c hc => hf c (List.mem_cons_of_mem b hc)) hkeys.2 ha
      cases hb : f b with
      | none => rwa [List.filterMap_cons_none hb]
      | some s =>
        rw [List.filterMap_cons_some hb, row, List.find?_cons, hf b (by simp) s hb, hbk]
        exact hrest

theorem without_filterMap {keys : List K} (hf : ∀ a ∈ keys, ∀ r, f a = some r → r.key = a) :
    without k (keys.filterMap f) = (keys.filter fun a => !(a == k)).filterMap f := by
  induction keys with
  | nil => rfl
  | cons a keys ih =>
    have hrest := ih fun b hb => hf b (List.mem_cons_of_mem a hb)
    rw [without] at hrest ⊢
    cases ha : f a with
    | none =>
      rw [List.filterMap_cons_none ha, hrest, List.filter_cons]
      split_ifs
      · rw [List.filterMap_cons_none ha]
      · rfl
    | some r =>
      rw [List.filterMap_cons_some ha, List.filter_cons, List.filter_cons, hf a (by simp) r ha,
        hrest]
      split_ifs
      · rw [List.filterMap_cons_some ha]
      · rfl

omit [BEq K] in
theorem filterMap_take {keys : List K} (h : ∀ a ∈ keys, (f a).isSome) (n : Nat) :
    (keys.take n).filterMap f = (keys.filterMap f).take n := by
  induction keys generalizing n with
  | nil => simp
  | cons a keys ih =>
    obtain ⟨r, hr⟩ := Option.isSome_iff_exists.mp (h a List.mem_cons_self)
    cases n with
    | zero => rfl
    | succ n =>
      rw [List.take_succ_cons, List.filterMap_cons_some hr, List.filterMap_cons_some hr,
        List.take_succ_cons, ih fun b hb => h b (List.mem_cons_of_mem a hb)]

end TimedRows
