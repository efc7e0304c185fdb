import Mathlib

/-! The first element of a list with the greatest key, as `List.argmax` finds it. -/

namespace FirstMax

variable {α κ : Type*} [LinearOrder κ] {f : α → κ} {l l' : List α} {m : α}

def IsFirstMax (f : α → κ) (l : List α) (m : α) : Prop :=
  ∃ before after, l = before ++ m :: after ∧ (∀ x ∈ before, f x < f m) ∧ ∀ x ∈ after, f x ≤ f m

theorem IsFirstMax.mem (h : IsFirstMax f l m) : m ∈ l := by
  obtain ⟨before, after, rfl, -⟩ := h
  simp

theorem IsFirstMax.le (h : IsFirstMax f l m) {x : α} (hx : x ∈ l) : f x ≤ f m := by
  obtain ⟨before, after, rfl, hbefore, hafter⟩ := h
  rcases List.mem_append.mp hx with hx | hx
  · exact (hbefore x hx).le
  · rcases List.mem_cons.mp hx with rfl | hx
    · exact le_rfl
    · exact hafter x hx

theorem isFirstMax_concat {a : α} : IsFirstMax f (l ++ [a]) m ↔
    (IsFirstMax f l m ∧ f a ≤ f m) ∨ (m = a ∧ ∀ x ∈ l, f x < f a) := by
  constructor
  · rintro ⟨before, after, hsplit, hbefore, hafter⟩
    cases after using List.reverseRecOn with
    | nil =>
      obtain ⟨rfl, hlast⟩ := List.append_inj' hsplit rfl
      obtain rfl : a = m := by simpa using hlast
      exact Or.inr ⟨rfl, hbefore⟩
    | append_singleton after b =>
      have hassoc : l ++ [a] = (before ++ m :: after) ++ [b] := by simpa using hsplit
      obtain ⟨rfl, hlast⟩ := List.append_inj' hassoc rfl
      obtain rfl : a = b := by simpa using hlast
      exact Or.inl ⟨⟨before, after, rfl, hbefore, fun x hx => hafter x (List.mem_append_left _ hx)⟩,
        hafter a (by simp)⟩
  · rintro (⟨⟨before, after, rfl, hbefore, hafter⟩, ha⟩ | ⟨rfl, hall⟩)
    · refine ⟨before, after ++ [a], by simp, hbefore, fun x hx => ?_⟩
      rcases List.mem_append.mp hx with hx | hx
      · exact hafter x hx
      · exact List.mem_singleton.mp hx ▸ ha
    · exact ⟨l, [], rfl, hall, by simp⟩

theorem argmax_eq_some_iff : l.argmax f = some m ↔ IsFirstMax f l m := by
  induction l using List.reverseRecOn generalizing m with
  | nil =>
    refine iff_of_false (by simp) fun h => ?_
    simpa using h.mem
  | append_singleton l a ih =>
    rw [List.argmax_concat, isFirstMax_concat]
    cases hl : l.argmax f with
    | none =>
      obtain rfl := List.argmax_eq_none.mp hl
      have hnil : ¬ IsFirstMax f [] m := fun h => by simpa using h.mem
      simp [hnil, eq_comm]
    | some c =>
      have hc : IsFirstMax f l c := ih.mp hl
      have hm : IsFirstMax f l m → m = c := fun h =>
        Option.some.inj ((ih.mpr h).symm.trans hl)
      by_cases hlt : f c < f a
      · simp only [if_pos hlt, Option.some.injEq]
        constructor
        · rintro rfl
          exact Or.inr ⟨rfl, fun x hx => (hc.le hx).trans_lt hlt⟩
        · rintro (⟨h, hle⟩ | ⟨rfl, -⟩)
          · exact absurd (hm h ▸ hle) (not_le.mpr hlt)
          · rfl
      · simp only [if_neg hlt, Option.some.injEq]
        constructor
        · rintro rfl
          exact Or.inl ⟨hc, not_lt.mp hlt⟩
        · rintro (⟨h, -⟩ | ⟨rfl, hall⟩)
          · exact (hm h).symm
          · exact absurd (hall c hc.mem) hlt

theorem argmax_congr (h : ∀ k, l.filter (f · = k) = l'.filter (f · = k)) :
    l.argmax f = l'.argmax f := by
  have hmem : ∀ {x}, x ∈ l ↔ x ∈ l' := fun {x} => by
    have := congrArg (x ∈ ·) (h (f x))
    simpa using this
  have hone : ∀ {l₁ l₂ : List α} {m : α}, (∀ k, l₁.filter (f · = k) = l₂.filter (f · = k)) →
      (∀ {x}, x ∈ l₁ ↔ x ∈ l₂) → IsFirstMax f l₁ m → IsFirstMax f l₂ m := by
    intro l₁ l₂ m hf hx hmax
    obtain ⟨before, after, rfl, hbefore, -⟩ := id hmax
    have hnone : before.filter (f · = f m) = [] := by
      refine List.filter_eq_nil_iff.mpr fun x hxb => ?_
      simpa using (hbefore x hxb).ne
    have hfirst := hf (f m)
    rw [List.filter_append, hnone, List.nil_append, List.filter_cons_of_pos (by simp)] at hfirst
    obtain ⟨before', after', rfl, hbefore', -⟩ := List.filter_eq_cons_iff.mp hfirst.symm
    refine ⟨before', after', rfl, fun x hxb => ?_, fun x hxa => ?_⟩
    · exact lt_of_le_of_ne (hmax.le (hx.mpr (by simp [hxb]))) (by simpa using hbefore' x hxb)
    · exact hmax.le (hx.mpr (by simp [hxa]))
  refine Option.ext fun m => ?_
  rw [argmax_eq_some_iff, argmax_eq_some_iff]
  exact ⟨hone h hmem, hone (fun k => (h k).symm) hmem.symm⟩

end FirstMax
