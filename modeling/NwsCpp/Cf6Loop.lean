import NwsCpp.CliReport

/-! The CF6 line loop: one step, when it breaks, and what it never undoes. -/

namespace NwsCpp

open Bytes Lines

/-- The state after a line, whether or not the loop breaks there. -/
def cf6Step (st : Cf6State) (ln : Text) : Cf6State := (cf6Table (cf6Metadata st ln) ln).1

def endsTable (ln : Text) : Bool :=
  let body := ln.dropWhile isspace
  !(body.isEmpty || body.head? == some 61) && isSummary body

@[simp] theorem cf6Metadata_pastDataHeader (st : Cf6State) (ln : Text) :
    (cf6Metadata st ln).pastDataHeader = st.pastDataHeader := by
  simp only [cf6Metadata]
  split_ifs <;> rfl

@[simp] theorem cf6Metadata_bestDay (st : Cf6State) (ln : Text) :
    (cf6Metadata st ln).bestDay = st.bestDay := by
  simp only [cf6Metadata]
  split_ifs <;> rfl

theorem cf6Table_snd (st : Cf6State) (ln : Text) :
    (cf6Table st ln).2 = (st.pastDataHeader && endsTable ln) := by
  simp only [cf6Table, endsTable]
  generalize ln.dropWhile isspace = body
  cases st.pastDataHeader
  · rfl
  · cases body.isEmpty || body.head? == some 61
    · cases isSummary body <;> rfl
    · rfl

theorem cf6Loop_cons_of_continue {st : Cf6State} {ln : Text} (ls : List Text)
    (h : (st.pastDataHeader && endsTable ln) = false) :
    cf6Loop st (ln :: ls) = cf6Loop (cf6Step st ln) ls := by
  have hsnd : (cf6Table (cf6Metadata st ln) ln).2 = false := by
    rw [cf6Table_snd, cf6Metadata_pastDataHeader, h]
  rw [cf6Loop, cf6Step]
  cases hb : cf6Table (cf6Metadata st ln) ln with
  | mk st' brk =>
    rw [hb] at hsnd
    cases hsnd
    rfl

/-- What every line preserves holds when the loop ends, by break or at the last line. -/
theorem cf6Loop_invariant {P : Cf6State → Prop} (hstep : ∀ st ln, P st → P (cf6Step st ln))
    {st : Cf6State} (h : P st) (ls : List Text) : P (cf6Loop st ls) := by
  induction ls generalizing st with
  | nil => exact h
  | cons ln ls ih =>
    have hs := hstep st ln h
    rw [cf6Loop]
    rw [cf6Step] at hs
    cases hb : cf6Table (cf6Metadata st ln) ln with
    | mk st' brk =>
      rw [hb] at hs
      cases brk with
      | true => exact hs
      | false => exact ih hs

theorem cf6Loop_append {st : Cf6State} {ls : List Text} (rest : List Text)
    (h : ∀ pre ln, pre ++ [ln] <+: ls →
      ((pre.foldl cf6Step st).pastDataHeader && endsTable ln) = false) :
    cf6Loop st (ls ++ rest) = cf6Loop (ls.foldl cf6Step st) rest := by
  induction ls generalizing st with
  | nil => rfl
  | cons ln ls ih =>
    have hfirst : (st.pastDataHeader && endsTable ln) = false := h [] ln (by simp)
    rw [List.cons_append, cf6Loop_cons_of_continue _ hfirst, List.foldl_cons]
    refine ih fun pre l hl => ?_
    simpa using h (ln :: pre) l (by simpa using hl)

section Fields

theorem cf6Row_station (st : Cf6State) (toks : List Text) :
    (cf6Row st toks).station3letter = st.station3letter ∧ (cf6Row st toks).month = st.month ∧
      (cf6Row st toks).year = st.year ∧ (cf6Row st toks).pastDataHeader = st.pastDataHeader := by
  simp only [cf6Row]
  split
  · split
    · split_ifs <;> simp
    · simp
  · simp

theorem cf6Row_bestDay_le (st : Cf6State) (toks : List Text) :
    st.bestDay ≤ (cf6Row st toks).bestDay := by
  simp only [cf6Row]
  split
  · split
    · split_ifs with h1 h2
      · exact le_rfl
      · simp only [Bool.and_eq_true, decide_eq_true_eq] at h2
        exact h2.2.le
      · exact le_rfl
    · exact le_rfl
  · exact le_rfl

theorem cf6Table_metadata (st : Cf6State) (ln : Text) :
    (cf6Table st ln).1.station3letter = st.station3letter ∧
      (cf6Table st ln).1.month = st.month ∧ (cf6Table st ln).1.year = st.year := by
  obtain ⟨h1, h2, h3, -⟩ := cf6Row_station st (Runs.words (fun c => !isspace c)
    (ln.dropWhile isspace))
  simp only [cf6Table]
  split_ifs <;> simp [h1, h2, h3]

theorem cf6Step_station (st : Cf6State) (ln : Text) :
    (cf6Step st ln).station3letter =
      if st.station3letter.isEmpty then cf6Station ln else st.station3letter := by
  rw [cf6Step, (cf6Table_metadata _ _).1, cf6Metadata]
  split_ifs <;> simp_all

theorem cf6Step_month (st : Cf6State) (ln : Text) :
    (cf6Step st ln).month =
      if st.month = 0 ∧ icontains ln (ascii "MONTH:") = true then (monthNum ln).1
      else st.month := by
  have hm : (cf6Metadata st ln).month =
      if st.month = 0 ∧ icontains ln (ascii "MONTH:") = true then (monthNum ln).1
      else st.month := by
    simp only [cf6Metadata]
    split_ifs <;> simp_all
  rw [cf6Step, (cf6Table_metadata _ _).2.1, hm]

theorem cf6Step_year (st : Cf6State) (ln : Text) :
    (cf6Step st ln).year =
      if st.year = 0 ∧ icontains ln (ascii "YEAR:") = true then cf6Year ln else st.year := by
  have hy : (cf6Metadata st ln).year =
      if st.year = 0 ∧ icontains ln (ascii "YEAR:") = true then cf6Year ln else st.year := by
    simp only [cf6Metadata]
    split_ifs <;> simp_all
  rw [cf6Step, (cf6Table_metadata _ _).2.2, hy]

theorem cf6Step_pastDataHeader (st : Cf6State) (ln : Text) :
    (cf6Step st ln).pastDataHeader = (st.pastDataHeader || isDataHeader ln) := by
  have hrow := (cf6Row_station (cf6Metadata st ln) (Runs.words (fun c => !isspace c)
    (ln.dropWhile isspace))).2.2.2
  rw [cf6Step, cf6Table]
  cases hp : st.pastDataHeader
  · cases isDataHeader ln <;> simp [hp]
  · simp only [cf6Metadata_pastDataHeader, hp, Bool.not_true, Bool.false_eq_true, if_false,
      Bool.true_or]
    split_ifs <;> simp [hp, hrow]

theorem cf6Step_bestDay_le (st : Cf6State) (ln : Text) :
    st.bestDay ≤ (cf6Step st ln).bestDay := by
  have hrow := cf6Row_bestDay_le (cf6Metadata st ln) (Runs.words (fun c => !isspace c)
    (ln.dropWhile isspace))
  rw [cf6Metadata_bestDay] at hrow
  simp only [cf6Step, cf6Table]
  split_ifs <;> simp [hrow]

theorem foldl_cf6Step_station (st : Cf6State) (ls : List Text) :
    (ls.foldl cf6Step st).station3letter =
      if st.station3letter.isEmpty then firstNonempty (ls.map cf6Station)
      else st.station3letter :=
  foldl_settled Cf6State.station3letter cf6Step_station st ls

theorem foldl_cf6Step_pastDataHeader (st : Cf6State) (ls : List Text) :
    (ls.foldl cf6Step st).pastDataHeader = (st.pastDataHeader || ls.any isDataHeader) := by
  induction ls generalizing st with
  | nil => simp
  | cons ln ls ih => rw [List.foldl_cons, ih, cf6Step_pastDataHeader, List.any_cons, Bool.or_assoc]

theorem cf6Loop_metadata {st : Cf6State} {ls : List Text} (rest : List Text)
    (hst : st.pastDataHeader = false) (hls : ∀ ln ∈ ls, isDataHeader ln = false) :
    cf6Loop st (ls ++ rest) = cf6Loop (ls.foldl cf6Step st) rest := by
  refine cf6Loop_append rest fun pre ln hpre => ?_
  have hany : pre.any isDataHeader = false := by
    refine List.any_eq_false.mpr fun l hl => ?_
    simp [hls l (hpre.subset (by simp [hl]))]
  rw [foldl_cf6Step_pastDataHeader, hst, hany]
  rfl

theorem cf6Loop_rows {st : Cf6State} {ls : List Text} (rest : List Text)
    (hls : ∀ ln ∈ ls, endsTable ln = false) :
    cf6Loop st (ls ++ rest) = cf6Loop (ls.foldl cf6Step st) rest := by
  refine cf6Loop_append rest fun pre ln hpre => ?_
  rw [hls ln (hpre.subset (by simp)), Bool.and_false]

end Fields

end NwsCpp
