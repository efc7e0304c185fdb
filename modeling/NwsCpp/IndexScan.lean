import NwsCpp.CheckedInt
import NwsCpp.Runs

/-! Loops over the positions of a list that stop at the first access out of range, or when
their fuel ends, and what they compute when neither happens. -/

namespace Scan

open Runs

inductive Fault where
  | outOfRange
  | unfinished
  | truncated
  deriving DecidableEq

variable {α : Type}

def get (s : List α) (i : Nat) : Except Fault α :=
  match s[i]? with
  | some c => .ok c
  | none => .error .outOfRange

/-- At most `len` elements from a position that is not past the end. -/
def substr (s : List α) (pos len : Nat) : Except Fault (List α) :=
  if pos ≤ s.length then .ok ((s.drop pos).take len) else .error .outOfRange

def substrFrom (s : List α) (pos : Nat) : Except Fault (List α) := substr s pos s.length

/-- The elements from one position to another. -/
def between (s : List α) (first last : Nat) : Except Fault (List α) :=
  if first ≤ last ∧ last ≤ s.length then .ok ((s.drop first).take (last - first))
  else .error .outOfRange

section Access

variable {s : List α} {i j : Nat}

theorem get_ok (h : i < s.length) : get s i = .ok s[i] := by
  rw [get, List.getElem?_eq_getElem h]

/-- At a position the list ends, or has an element and goes on. -/
theorem drop_cases (s : List α) (i : Nat) : (s.length ≤ i ∧ s.drop i = []) ∨
    (i < s.length ∧ ∃ c, get s i = .ok c ∧ s.drop i = c :: s.drop (i + 1)) := by
  by_cases h : i < s.length
  · exact .inr ⟨h, s[i], get_ok h, List.drop_eq_getElem_cons h⟩
  · exact .inl ⟨not_lt.mp h, List.drop_eq_nil_of_le (not_lt.mp h)⟩

theorem substr_ok (h : i ≤ s.length) (len : Nat) : substr s i len = .ok ((s.drop i).take len) := if_pos h

theorem substrFrom_ok (h : i ≤ s.length) : substrFrom s i = .ok (s.drop i) := by
  rw [substrFrom, substr_ok h, List.take_of_length_le (by simp)]

end Access

section Loops

/-- `while (i < s.size() && p(s[i])) ++i`. -/
def skipWhile (p : α → Bool) (s : List α) : Nat → Nat → Except Fault Nat
  | 0, _ => .error .unfinished
  | fuel + 1, i =>
    if i < s.length then do
      let c ← get s i
      if p c then skipWhile p s fuel (i + 1) else .ok i
    else .ok i

/-- `for (; i < s.size() && ok; ++i) if (!p(s[i])) ok = false`. -/
def allFrom (p : α → Bool) (s : List α) : Nat → Nat → Except Fault Bool
  | 0, _ => .error .unfinished
  | fuel + 1, i =>
    if i < s.length then do
      let c ← get s i
      if p c then allFrom p s fuel (i + 1) else .ok false
    else .ok true

/-- Skips to a run of `p`, to its end, passes both ends to the body when they differ, and
goes on `step` elements after the end; the flag of the body is `break`. -/
def forRuns {σ : Type} (p : α → Bool) (step : Nat) (s : List α)
    (body : Nat → Nat → σ → Except Fault (σ × Bool)) : Nat → Nat → σ → Except Fault σ
  | 0, _, _ => .error .unfinished
  | fuel + 1, i, st =>
    if i < s.length then do
      let i ← skipWhile (fun c => !p c) s (s.length + 1) i
      let j ← skipWhile p s (s.length + 1) i
      if i < j then do
        let next ← body i j st
        if next.2 then .ok next.1 else forRuns p step s body fuel (j + step) next.1
      else forRuns p step s body fuel (j + step) st
    else .ok st

variable {p : α → Bool} {s : List α} {fuel i : Nat}

theorem skipWhile_eq (hi : i ≤ s.length) (hfuel : s.length - i < fuel) :
    skipWhile p s fuel i = .ok (i + ((s.drop i).takeWhile p).length) := by
  induction fuel generalizing i with
  | zero => omega
  | succ fuel ih =>
    rw [skipWhile]
    rcases drop_cases s i with ⟨hend, hdrop⟩ | ⟨hlt, c, hget, hdrop⟩
    · rw [if_neg (by omega), hdrop]
      rfl
    · rw [if_pos hlt, hget, Checked.ok_bind, hdrop]
      by_cases hc : p c = true
      · rw [if_pos hc, ih (by omega) (by omega), List.takeWhile_cons_of_pos hc, List.length_cons]
        congr 1
        omega
      · rw [if_neg hc, List.takeWhile_cons_of_neg hc]
        rfl

theorem allFrom_eq (hfuel : s.length - i < fuel) : allFrom p s fuel i = .ok ((s.drop i).all p) := by
  induction fuel generalizing i with
  | zero => omega
  | succ fuel ih =>
    rw [allFrom]
    rcases drop_cases s i with ⟨hend, hdrop⟩ | ⟨hlt, c, hget, hdrop⟩
    · rw [if_neg (by omega), hdrop]
      rfl
    · rw [if_pos hlt, hget, Checked.ok_bind, hdrop, List.all_cons]
      by_cases hc : p c = true
      · rw [if_pos hc, ih (by omega), hc, Bool.true_and]
      · rw [if_neg hc, Bool.eq_false_iff.mpr hc, Bool.false_and]

theorem drop_skip (p : α → Bool) (s : List α) (i : Nat) :
    s.drop (i + ((s.drop i).takeWhile p).length) = (s.drop i).dropWhile p := by
  have htake := List.prefix_iff_eq_append.mp (List.takeWhile_prefix p (l := s.drop i))
  rw [← List.drop_drop]
  exact List.append_cancel_left (htake.trans List.takeWhile_append_dropWhile.symm)

end Loops

section Folds

variable {σ β : Type}

/-- A fold that its step may end. -/
def foldUntil (f : σ → β → σ × Bool) : σ → List β → σ
  | st, [] => st
  | st, b :: bs => if (f st b).2 then (f st b).1 else foldUntil f (f st b).1 bs

theorem foldUntil_never {f : σ → β → σ × Bool} {g : σ → β → σ} (h : ∀ st b, f st b = (g st b, false))
    (st : σ) (bs : List β) : foldUntil f st bs = bs.foldl g st := by
  induction bs generalizing st with
  | nil => rfl
  | cons b bs ih =>
    rw [foldUntil, h, List.foldl_cons, ← ih]
    rfl

/-- A fold that ends at the first hit and does nothing before it is a search. -/
theorem foldUntil_find {f : σ → β → σ × Bool} {st : σ} {hit : β → Bool} {value : β → σ}
    (h : ∀ b, f st b = if hit b then (value b, true) else (st, false)) (bs : List β) :
    foldUntil f st bs = ((bs.find? hit).map value).getD st := by
  induction bs with
  | nil => rfl
  | cons b bs ih =>
    rw [foldUntil, h]
    by_cases hb : hit b = true
    · rw [if_pos hb, List.find?_cons_of_pos hb]
      rfl
    · rw [if_neg hb, List.find?_cons_of_neg hb, ← ih]
      rfl

theorem foldlM_ok {f : σ → β → Except Fault σ} {g : σ → β → σ} (h : ∀ st b, f st b = .ok (g st b))
    (st : σ) (bs : List β) : bs.foldlM f st = .ok (bs.foldl g st) := by
  induction bs generalizing st with
  | nil => rfl
  | cons b bs ih => rw [List.foldlM_cons, h, Checked.ok_bind, ih, List.foldl_cons]

end Folds

section RunLoop

variable {p : α → Bool} {s w rest : List α} {i k : Nat}

theorem drop_append (h : s.drop i = w ++ rest) (hne : w ≠ []) :
    i + w.length ≤ s.length ∧ s.drop (i + w.length) = rest := by
  have hlength := congrArg List.length h
  have hpos := List.length_pos_iff.mpr hne
  rw [List.length_drop, List.length_append] at hlength
  refine ⟨by omega, ?_⟩
  rw [← List.drop_drop, h, List.drop_left]

theorem get_append (h : s.drop i = w ++ rest) (hk : k < w.length) : get s (i + k) = .ok w[k] := by
  rw [get, ← List.getElem?_drop, h, List.getElem?_append_left hk, List.getElem?_eq_getElem hk]

theorem between_append (h : s.drop i = w ++ rest) (hne : w ≠ []) :
    between s i (i + w.length) = .ok w := by
  rw [between, if_pos ⟨by omega, (drop_append h hne).1⟩, h, Nat.add_sub_cancel_left, List.take_left]

/-- One more position after a run, or after the end, skips no other run. -/
theorem runs_drop_step {step j : Nat} (hstep : step ≤ 1)
    (hstop : ∀ c, (s.drop j).head? = some c → p c = false) :
    runs p (s.drop (j + step)) = runs p (s.drop j) := by
  rcases Nat.le_one_iff_eq_zero_or_eq_one.mp hstep with rfl | rfl
  · rfl
  · rw [← List.drop_drop]
    cases hdrop : s.drop j with
    | nil => rfl
    | cons c t =>
      rw [hdrop] at hstop
      rw [List.drop_one, List.tail_cons, runs_cons_of_not (hstop c rfl)]

theorem forRuns_ok {σ : Type} {step : Nat} {body : Nat → Nat → σ → Except Fault (σ × Bool)}
    {f : σ → List α × List α → σ × Bool} (hstep : step ≤ 1)
    (hbody : ∀ i w rest st, s.drop i = w ++ rest → w ≠ [] →
      body i (i + w.length) st = .ok (f st (w, rest)))
    {fuel i : Nat} (hfuel : s.length - i < fuel) (st : σ) :
    forRuns p step s body fuel i st = .ok (foldUntil f st (runs p (s.drop i))) := by
  induction fuel generalizing i st with
  | zero => omega
  | succ fuel ih =>
    rw [forRuns]
    by_cases hi : i < s.length
    · have hskip := drop_skip (fun c => !p c) s i
      have hle := (List.takeWhile_prefix (fun c => !p c) (l := s.drop i)).length_le
      rw [List.length_drop] at hle
      have hfirst : i ≤ i + ((s.drop i).takeWhile fun c => !p c).length ∧
          i + ((s.drop i).takeWhile fun c => !p c).length ≤ s.length := by omega
      rw [if_pos hi, skipWhile_eq hi.le (by omega), Checked.ok_bind]
      generalize i + ((s.drop i).takeWhile fun c => !p c).length = first at hskip hfirst ⊢
      rw [skipWhile_eq hfirst.2 (by omega), Checked.ok_bind]
      by_cases hnil : s.drop first = []
      · have hend : s.length ≤ first := List.drop_eq_nil_iff.mp hnil
        rw [hnil, List.takeWhile_nil, List.length_nil, Nat.add_zero, if_neg (lt_irrefl _),
          ih (by omega), List.drop_eq_nil_of_le (by omega), runs_of_skip_nil (hskip.symm.trans hnil)]
        rfl
      · obtain ⟨hne, hruns⟩ := runs_of_skip (p := p) (hskip ▸ hnil)
        have hsplit := List.takeWhile_append_dropWhile (p := p) (l := s.drop first)
        rw [← hskip] at hne hruns
        have hpos := List.length_pos_iff.mpr hne
        have hnext := drop_skip p s first
        have hstop : ∀ c, (s.drop (first + ((s.drop first).takeWhile p).length)).head? = some c →
            p c = false := by
          intro c hc
          have hhead := List.head?_dropWhile_not p (s.drop first)
          rw [hnext] at hc
          rw [hc] at hhead
          simpa using hhead
        rw [if_pos (by omega), hbody _ _ _ st hsplit.symm hne, Checked.ok_bind, hruns, foldUntil,
          ← hnext]
        by_cases hbreak : (f st ((s.drop first).takeWhile p,
            s.drop (first + ((s.drop first).takeWhile p).length))).2 = true
        · rw [if_pos hbreak, if_pos hbreak]
        · rw [if_neg hbreak, if_neg hbreak, ih (by omega), runs_drop_step hstep hstop]
    · rw [if_neg hi, List.drop_eq_nil_of_le (by omega)]
      rfl

end RunLoop

end Scan
