import Mathlib

/-! Maximal runs of a class of letters: the skip-then-take loops of a scanner. -/

namespace Runs

variable {α : Type*} {p : α → Bool}

/-- Reads the rest of a list with the run `cur` already open. -/
def runsFrom (p : α → Bool) (cur : List α) : List α → List (List α × List α)
  | [] => if cur.isEmpty then [] else [(cur, [])]
  | c :: cs =>
    if p c then runsFrom p (cur ++ [c]) cs
    else if cur.isEmpty then runsFrom p [] cs
    else (cur, c :: cs) :: runsFrom p [] cs

/-- The maximal runs of `p` in order, each with the text that follows it. -/
def runs (p : α → Bool) (s : List α) : List (List α × List α) := runsFrom p [] s

def words (p : α → Bool) (s : List α) : List (List α) := (runs p s).map Prod.fst

@[simp] theorem runs_nil : runs p [] = [] := rfl

@[simp] theorem words_nil : words p [] = [] := rfl

theorem runsFrom_map {β : Type*} (f : β → α) (cur s : List β) :
    runsFrom p (cur.map f) (s.map f) =
      (runsFrom (p ∘ f) cur s).map (Prod.map (List.map f) (List.map f)) := by
  induction s generalizing cur with
  | nil =>
    simp only [List.map_nil, runsFrom, List.isEmpty_map]
    split_ifs <;> rfl
  | cons c s ih =>
    have hnil := ih []
    have hnext := ih (cur ++ [c])
    rw [List.map_append] at hnext
    simp only [List.map_cons, List.map_nil, runsFrom, List.isEmpty_map, Function.comp_apply]
      at hnil hnext ⊢
    split_ifs
    · exact hnext
    · exact hnil
    · rw [hnil]
      rfl

theorem runs_map {β : Type*} (f : β → α) (s : List β) :
    runs p (s.map f) = (runs (p ∘ f) s).map (Prod.map (List.map f) (List.map f)) :=
  runsFrom_map f [] s

theorem words_map {β : Type*} (f : β → α) (s : List β) :
    words p (s.map f) = (words (p ∘ f) s).map (List.map f) := by
  rw [words, runs_map, List.map_map, words, List.map_map]
  rfl

theorem runs_cons_of_not {c : α} (hc : p c = false) (s : List α) : runs p (c :: s) = runs p s := by
  simp [runs, runsFrom, hc]

theorem runs_append_of_none {s : List α} (hs : ∀ c ∈ s, p c = false) (t : List α) :
    runs p (s ++ t) = runs p t := by
  induction s with
  | nil => rfl
  | cons c s ih =>
    rw [List.cons_append, runs_cons_of_not (hs c (by simp)), ih fun d hd => hs d (by simp [hd])]

theorem runs_eq_nil_of_none {s : List α} (hs : ∀ c ∈ s, p c = false) : runs p s = [] := by
  simpa using runs_append_of_none hs []

theorem runsFrom_append_run {w : List α} (hw : ∀ c ∈ w, p c = true) (cur rest : List α) :
    runsFrom p cur (w ++ rest) = runsFrom p (cur ++ w) rest := by
  induction w generalizing cur with
  | nil => simp
  | cons c w ih =>
    simp only [List.cons_append, runsFrom, hw c (by simp), if_true]
    rw [ih (fun d hd => hw d (by simp [hd])), List.append_assoc, List.singleton_append]

theorem runs_append_run {w rest : List α} (hne : w ≠ []) (hw : ∀ c ∈ w, p c = true)
    (hrest : ∀ c, rest.head? = some c → p c = false) :
    runs p (w ++ rest) = (w, rest) :: runs p rest := by
  rw [runs, runsFrom_append_run hw, List.nil_append]
  cases rest with
  | nil => simp [runsFrom, hne]
  | cons c rest => simp [runs, runsFrom, hrest c rfl, hne]

theorem runs_of_skip {s : List α} (h : s.dropWhile (fun c => !p c) ≠ []) :
    (s.dropWhile fun c => !p c).takeWhile p ≠ [] ∧
      runs p s = ((s.dropWhile fun c => !p c).takeWhile p, (s.dropWhile fun c => !p c).dropWhile p) ::
        runs p ((s.dropWhile fun c => !p c).dropWhile p) := by
  have hskip : ∀ c ∈ s.takeWhile (fun c => !p c), p c = false := fun c hc => by
    simpa using List.mem_takeWhile_imp hc
  have hruns : runs p s = runs p (s.dropWhile fun c => !p c) := by
    conv_lhs => rw [← List.takeWhile_append_dropWhile (p := fun c => !p c) (l := s)]
    exact runs_append_of_none hskip _
  have hhead := List.head?_dropWhile_not (fun c => !p c) s
  rw [hruns]
  generalize s.dropWhile (fun c => !p c) = t at h hhead
  cases t with
  | nil => exact (h rfl).elim
  | cons c t =>
    have hc : p c = true := by simpa using hhead
    have hne : (c :: t).takeWhile p ≠ [] := by
      rw [List.takeWhile_cons_of_pos hc]
      exact List.cons_ne_nil _ _
    refine ⟨hne, ?_⟩
    have hstop : ∀ d, ((c :: t).dropWhile p).head? = some d → p d = false := by
      intro d hd
      have hnot := List.head?_dropWhile_not p (c :: t)
      rw [hd] at hnot
      simpa using hnot
    have hrun := runs_append_run hne (fun d hd => List.mem_takeWhile_imp hd) hstop
    rwa [List.takeWhile_append_dropWhile] at hrun

theorem runs_of_skip_nil {s : List α} (h : s.dropWhile (fun c => !p c) = []) : runs p s = [] := by
  refine runs_eq_nil_of_none fun c hc => ?_
  simpa using List.dropWhile_eq_nil_iff.mp h c hc

theorem runs_of_all {w : List α} (hne : w ≠ []) (hw : ∀ c ∈ w, p c = true) :
    runs p w = [(w, [])] := by
  have h := @runs_append_run α p w [] hne hw (by simp)
  rwa [List.append_nil] at h

theorem runsFrom_append_sep {c : α} (hc : p c = false) (cur s t : List α) :
    runsFrom p cur (s ++ c :: t) =
      (runsFrom p cur s).map (fun r => (r.1, r.2 ++ c :: t)) ++ runsFrom p [] t := by
  induction s generalizing cur with
  | nil => cases cur <;> simp [runsFrom, hc]
  | cons d s ih =>
    by_cases hd : p d = true
    · simpa only [List.cons_append, runsFrom, hd, if_true] using ih (cur ++ [d])
    · cases cur with
      | nil => simpa [runsFrom, hd] using ih []
      | cons e cur => simpa [runsFrom, hd] using ih []

theorem runs_append_sep {c : α} (hc : p c = false) (s t : List α) :
    runs p (s ++ c :: t) = (runs p s).map (fun r => (r.1, r.2 ++ c :: t)) ++ runs p t :=
  runsFrom_append_sep hc [] s t

theorem runs_append_of_last {s : List α} (hs : ∀ c, s.getLast? = some c → p c = false)
    (t : List α) :
    runs p (s ++ t) = (runs p s).map (fun r => (r.1, r.2 ++ t)) ++ runs p t := by
  cases s using List.reverseRecOn with
  | nil => rfl
  | append_singleton s c =>
    have hc := hs c (by simp)
    rw [List.append_assoc, List.singleton_append, runs_append_sep hc, runs_append_sep hc]
    simp [Function.comp_def]

theorem words_append_of_none {s : List α} (hs : ∀ c ∈ s, p c = false) (t : List α) :
    words p (s ++ t) = words p t := by
  rw [words, runs_append_of_none hs, words]

theorem words_append_run {w rest : List α} (hne : w ≠ []) (hw : ∀ c ∈ w, p c = true)
    (hrest : ∀ c, rest.head? = some c → p c = false) :
    words p (w ++ rest) = w :: words p rest := by
  rw [words, runs_append_run hne hw hrest, List.map_cons, words]

theorem words_append_sep {c : α} (hc : p c = false) (s t : List α) :
    words p (s ++ c :: t) = words p s ++ words p t := by
  simp [words, runs_append_sep hc, Function.comp_def]

theorem words_append_none_right (s : List α) {t : List α} (ht : ∀ c ∈ t, p c = false) :
    words p (s ++ t) = words p s := by
  cases t with
  | nil => simp
  | cons c t =>
    rw [words_append_sep (ht c (by simp))]
    have h := words_append_of_none (fun d hd => ht d (List.mem_cons_of_mem c hd)) []
    rw [List.append_nil] at h
    simp [h]

theorem words_cons_of_mem {c : α} (hc : p c = true) (s : List α) :
    ∃ ws, words p (c :: s) = (c :: s.takeWhile p) :: ws := by
  have hsplit : c :: s = (c :: s.takeWhile p) ++ s.dropWhile p := by simp
  refine ⟨words p (s.dropWhile p), ?_⟩
  conv_lhs => rw [hsplit]
  refine words_append_run (by simp) (fun d hd => ?_) (fun d hd => ?_)
  · rcases List.mem_cons.mp hd with rfl | hd
    · exact hc
    · exact List.mem_takeWhile_imp hd
  · have h := List.head?_dropWhile_not p s
    simpa [hd] using h

theorem mem_runsFrom {cur s : List α} (hcur : ∀ c ∈ cur, p c = true) {r : List α × List α}
    (h : r ∈ runsFrom p cur s) : r.1 ≠ [] ∧ ∀ c ∈ r.1, p c = true := by
  induction s generalizing cur with
  | nil =>
    cases cur with
    | nil => simp [runsFrom] at h
    | cons d cur =>
      obtain rfl : r = (d :: cur, []) := by simpa [runsFrom] using h
      exact ⟨List.cons_ne_nil _ _, hcur⟩
  | cons c s ih =>
    rw [runsFrom] at h
    by_cases hc : p c = true
    · rw [if_pos hc] at h
      refine ih (fun d hd => ?_) h
      rcases List.mem_append.mp hd with hd | hd
      · exact hcur d hd
      · exact List.mem_singleton.mp hd ▸ hc
    · rw [if_neg hc] at h
      cases cur with
      | nil => exact ih hcur (by simpa using h)
      | cons d cur =>
        rcases List.mem_cons.mp h with rfl | h
        · exact ⟨List.cons_ne_nil _ _, hcur⟩
        · exact ih (List.forall_mem_nil _) h

theorem runsFrom_suffix {cur s : List α} {r : List α × List α} (h : r ∈ runsFrom p cur s) :
    r.2 <:+ s := by
  induction s generalizing cur with
  | nil =>
    rw [runsFrom] at h
    split_ifs at h
    · cases h
    · rw [List.mem_singleton.mp h]
  | cons c s ih =>
    rw [runsFrom] at h
    split_ifs at h
    · exact (ih h).trans (List.suffix_cons c s)
    · exact (ih h).trans (List.suffix_cons c s)
    · rcases List.mem_cons.mp h with rfl | h
      · exact List.suffix_rfl
      · exact (ih h).trans (List.suffix_cons c s)

/-- The text that follows a run is what is left from the end of the run on. -/
theorem drop_of_mem_runs {s : List α} {r : List α × List α} (h : r ∈ runs p s) :
    s.drop (s.length - r.2.length) = r.2 :=
  (List.suffix_iff_eq_drop.mp (runsFrom_suffix h)).symm

theorem mem_words {w s : List α} (h : w ∈ words p s) : w ≠ [] ∧ ∀ c ∈ w, p c = true := by
  obtain ⟨r, hr, rfl⟩ := List.mem_map.mp h
  exact mem_runsFrom (List.forall_mem_nil _) hr

/-- Every list ends in a run of the class, possibly empty, that nothing extends. -/
theorem exists_last_run (p : α → Bool) (s : List α) :
    ∃ pre w, s = pre ++ w ∧ (∀ c ∈ w, p c = true) ∧
      ∀ c, pre.getLast? = some c → p c = false := by
  refine ⟨s.rdropWhile p, s.rtakeWhile p, List.rdropWhile_append_rtakeWhile.symm,
    fun c hc => List.mem_rtakeWhile_imp hc, fun c hc => ?_⟩
  have hne : s.rdropWhile p ≠ [] := by
    rintro he
    simp [he] at hc
  have hlast := List.rdropWhile_last_not p s hne
  rw [List.getLast?_eq_some_getLast hne, Option.some.injEq] at hc
  simpa [hc] using hlast

/-- A non-empty block inside the class lies within one maximal run. -/
theorem exists_word_of_block {n s : List α} (hne : n ≠ []) (hn : ∀ c ∈ n, p c = true)
    (h : n <:+: s) : ∃ w ∈ words p s, n <:+: w := by
  obtain ⟨a, b, rfl⟩ := h
  obtain ⟨pre, v, rfl, hv, hpre⟩ := exists_last_run p a
  have hsplit : pre ++ v ++ n ++ b = pre ++ ((v ++ n ++ b.takeWhile p) ++ b.dropWhile p) := by
    simp
  have hword : words p ((v ++ n ++ b.takeWhile p) ++ b.dropWhile p) =
      (v ++ n ++ b.takeWhile p) :: words p (b.dropWhile p) := by
    refine words_append_run (by simp [hne]) (fun c hc => ?_) (fun c hc => ?_)
    · simp only [List.mem_append] at hc
      rcases hc with (hc | hc) | hc
      · exact hv c hc
      · exact hn c hc
      · exact List.mem_takeWhile_imp hc
    · have hd := List.head?_dropWhile_not p b
      simpa [hc] using hd
  refine ⟨v ++ n ++ b.takeWhile p, ?_, List.infix_append v n _⟩
  rw [hsplit, words, runs_append_of_last hpre, List.map_append, ← words, hword]
  simp

end Runs
