import Mathlib.Data.List.Induction

/-! Flags that a fold raises, and values that it takes from the first element to give one. -/

namespace Folds

variable {σ α β : Type*} {step : σ → α → σ} {inv : σ → Prop} {raises : σ → α → Prop}

/-- A flag is up after a fold when it was up before or one of the steps raised it. -/
theorem foldl_flag_iff (flag : σ → Prop) (hinv : ∀ s a, inv s → inv (step s a))
    (hstep : ∀ s a, inv s → (flag (step s a) ↔ flag s ∨ raises s a)) {s : σ} (hs : inv s)
    (as : List α) :
    flag (as.foldl step s) ↔ flag s ∨
      ∃ pre a post, as = pre ++ a :: post ∧ raises (pre.foldl step s) a := by
  induction as generalizing s with
  | nil => simp
  | cons a as ih =>
    rw [List.foldl_cons, ih (hinv s a hs), hstep s a hs]
    constructor
    · rintro ((hflag | hraise) | ⟨pre, b, post, rfl, hraise⟩)
      · exact .inl hflag
      · exact .inr ⟨[], a, as, rfl, hraise⟩
      · exact .inr ⟨a :: pre, b, post, rfl, hraise⟩
    · rintro (hflag | ⟨pre, b, post, heq, hraise⟩)
      · exact .inl (.inl hflag)
      · cases pre with
        | nil =>
          obtain ⟨rfl, rfl⟩ := List.cons.inj heq
          exact .inl (.inr hraise)
        | cons c pre =>
          obtain ⟨rfl, rfl⟩ := List.cons.inj heq
          exact .inr ⟨pre, b, post, rfl, hraise⟩

section First

variable {reads : List α → α → β → Prop}

/-- No element gives anything, given those before it. -/
def Silent (reads : List α → α → β → Prop) (as : List α) : Prop :=
  ∀ front a rest, as = front ++ a :: rest → ∀ b, ¬reads front a b

/-- What the first element to give anything gives. -/
inductive FirstRead (reads : List α → α → β → Prop) (as : List α) : Option β → Prop
  | found {before after : List α} {a : α} {b : β} : as = before ++ a :: after →
      reads before a b → Silent reads before → FirstRead reads as (some b)
  | nothing : Silent reads as → FirstRead reads as none

theorem silent_nil : Silent reads [] := fun front a rest h => by simp at h

theorem silent_concat {as : List α} {a : α} :
    Silent reads (as ++ [a]) ↔ Silent reads as ∧ ∀ b, ¬reads as a b := by
  constructor
  · intro h
    refine ⟨fun front c rest hsplit => ?_, h as a [] rfl⟩
    exact h front c (rest ++ [a]) (by rw [hsplit, List.append_assoc, List.cons_append])
  · rintro ⟨has, ha⟩ front c rest hsplit
    cases rest using List.reverseRecOn with
    | nil =>
      obtain ⟨rfl, hlast⟩ := List.append_inj' hsplit rfl
      exact List.singleton_inj.mp hlast ▸ ha
    | append_singleton rest d =>
      have hassoc : as ++ [a] = (front ++ c :: rest) ++ [d] := by simpa using hsplit
      exact has front c rest (List.append_inj' hassoc rfl).1

theorem FirstRead.unique (hreads : ∀ before a b c, reads before a b → reads before a c → b = c)
    {as : List α} {x y : Option β} (hx : FirstRead reads as x) (hy : FirstRead reads as y) :
    x = y := by
  cases hx with
  | nothing hnone =>
    cases hy with
    | nothing => rfl
    | found hsplit hread _ => exact (hnone _ _ _ hsplit _ hread).elim
  | @found before after a b hsplit hread hbefore =>
    cases hy with
    | nothing hnone => exact (hnone _ _ _ hsplit _ hread).elim
    | @found before' after' a' b' hsplit' hread' hbefore' =>
      rcases List.append_eq_append_iff.mp (hsplit.symm.trans hsplit') with
        ⟨between, hfirst, hrest⟩ | ⟨between, hfirst, hrest⟩
      · cases between with
        | nil =>
          obtain rfl : before' = before := by simpa using hfirst
          obtain rfl := (List.cons.inj hrest).1
          rw [hreads _ _ _ _ hread hread']
        | cons c between =>
          obtain rfl := (List.cons.inj hrest).1
          exact (hbefore' _ _ _ hfirst _ hread).elim
      · cases between with
        | nil =>
          obtain rfl : before = before' := by simpa using hfirst
          obtain rfl := (List.cons.inj hrest).1
          rw [hreads _ _ _ _ hread hread']
        | cons c between =>
          obtain rfl := (List.cons.inj hrest).1
          exact (hbefore _ _ _ hfirst _ hread').elim

theorem FirstRead.eq_none_iff {as : List α} {x : Option β} (h : FirstRead reads as x) :
    x = none ↔ Silent reads as := by
  cases h with
  | nothing hsilent => exact iff_of_true rfl hsilent
  | found hsplit hread _ =>
    exact iff_of_false (Option.some_ne_none _) fun hsilent => hsilent _ _ _ hsplit _ hread

/-- A field that each step fills while it is empty holds what is read first. -/
theorem foldl_firstRead (field : σ → Option β) {s : σ} (hs : field s = none)
    (hstep : ∀ before a b, field ((before ++ [a]).foldl step s) = some b ↔
      field (before.foldl step s) = some b ∨
        field (before.foldl step s) = none ∧ reads before a b) (as : List α) :
    FirstRead reads as (field (as.foldl step s)) := by
  induction as using List.reverseRecOn with
  | nil => exact hs ▸ .nothing silent_nil
  | append_singleton as a ih =>
    cases hlast : field ((as ++ [a]).foldl step s) with
    | none =>
      have hnone : field (as.foldl step s) = none := by
        rw [Option.eq_none_iff_forall_ne_some]
        exact fun b hb => Option.some_ne_none b
          (((hstep as a b).mpr (Or.inl hb)).symm.trans hlast)
      rw [hnone] at ih
      obtain ⟨-⟩ | ⟨hsilent⟩ := ih
      refine .nothing (silent_concat.mpr ⟨hsilent, fun b hb => ?_⟩)
      exact Option.some_ne_none b (((hstep as a b).mpr (Or.inr ⟨hnone, hb⟩)).symm.trans hlast)
    | some b =>
      rcases (hstep as a b).mp hlast with hkept | ⟨hnone, hread⟩
      · rw [hkept] at ih
        obtain ⟨rfl, hread, hbefore⟩ | ⟨-⟩ := ih
        exact .found (by rw [List.append_assoc, List.cons_append]) hread hbefore
      · rw [hnone] at ih
        obtain ⟨-⟩ | ⟨hsilent⟩ := ih
        exact .found rfl hread hsilent

end First

end Folds
