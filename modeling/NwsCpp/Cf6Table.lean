import NwsCpp.Cf6Loop

/-! The rows of a CF6 table, and the best row that the loop keeps of them. -/

namespace NwsCpp

open Bytes Runs Lines Decimal

section Rows

/-- A row of the table as it is written; a temperature may be missing. -/
structure DayRow where
  day : Nat
  tmax : Option Int
  tmin : Option Int
  inMonth : 1 ≤ day ∧ day ≤ 31

structure Reading where
  day : Nat
  tmax : Int
  tmin : Int

def fitsInt (v : Int) : Bool := decide (intMin ≤ v) && decide (v ≤ intMax)

theorem fitsInt_iff {v : Int} : fitsInt v = true ↔ intMin ≤ v ∧ v ≤ intMax := by
  simp [fitsInt]

def DayRow.reading (row : DayRow) : Option Reading :=
  match row.tmax.filter fitsInt, row.tmin.filter fitsInt with
  | some tmax, some tmin => some ⟨row.day, tmax, tmin⟩
  | _, _ => none

def readings (rows : List DayRow) : List Reading := rows.filterMap DayRow.reading

inductive TempColumn : Text → Option Int → Prop
  | missing : TempColumn (ascii "M") none
  | positive {digits : Text} {n : Nat} : IsDecimal digits n → TempColumn digits (some n)
  | negative {digits : Text} {n : Nat} : IsDecimal digits n → TempColumn (45 :: digits) (some (-n))

/-- A line of the table: blank, a separator, or a row with day, maximum and minimum in
its first columns. -/
inductive TableLine : Text → Option DayRow → Prop
  | blank {ln : Text} : (∀ c ∈ ln, isspace c = true) → TableLine ln none
  | separator {gap rest : Text} : (∀ c ∈ gap, isspace c = true) →
      TableLine (gap ++ 61 :: rest) none
  | row {ln t0 t1 t2 : Text} {more : List Text} {row : DayRow} :
      words (fun c => !isspace c) ln = t0 :: t1 :: t2 :: more → IsDecimal t0 row.day →
      TempColumn t1 row.tmax → TempColumn t2 row.tmin → TableLine ln (some row)

end Rows

section Columns

theorem parseTemp_read {t : Text} {v : Int} {fits : Prop} [Decidable fits]
    (hread : fromChars t = if fits then .ok v [] else .outOfRange [])
    (hfits : fits ↔ fitsInt v = true) : parseTemp t = (some v).filter fitsInt := by
  have hvalid : fromChars t ≠ .invalid := by
    rw [hread]
    split_ifs <;> simp
  have hM : t ≠ ascii "M" := by
    rintro rfl
    exact hvalid (by decide)
  have hT : t ≠ ascii "T" := by
    rintro rfl
    exact hvalid (by decide)
  by_cases h : fits
  · simp [parseTemp, hM, hT, hread, h, Option.filter, hfits.mp h]
  · simp [parseTemp, hM, hT, hread, h, Option.filter, mt hfits.mpr h]

theorem parseTemp_column {t : Text} {v : Option Int} (h : TempColumn t v) :
    parseTemp t = v.filter fitsInt := by
  cases h with
  | missing => rfl
  | @positive _ n hdigits =>
    obtain ⟨hne, hall, rfl⟩ := hdigits
    have hread := fromChars_run [] hne hall (by simp)
    rw [List.append_nil] at hread
    refine parseTemp_read hread ?_
    rw [fitsInt_iff, intMin, intMax]
    omega
  | @negative _ n hdigits =>
    obtain ⟨hne, hall, rfl⟩ := hdigits
    have hread := fromChars_neg_run [] hne hall (by simp)
    rw [List.append_nil] at hread
    refine parseTemp_read hread ?_
    rw [fitsInt_iff, intMin, intMax]
    omega

theorem tempColumn_intText (v : Int) : TempColumn (intText v) (some v) := by
  have hdecimal : IsDecimal (natText v.natAbs) v.natAbs :=
    ⟨natText_ne_nil _, natText_isdigit _, digitsVal_natText _⟩
  rw [intText]
  split_ifs with hv
  · rw [show v = -(v.natAbs : Int) by omega, Int.natAbs_neg, Int.natAbs_natCast]
    exact .negative hdecimal
  · rw [show v = (v.natAbs : Int) by omega, Int.natAbs_natCast]
    exact .positive hdecimal

theorem isSummary_head {c : Byte} {s : Text} (h : isSummary (c :: s) = true) :
    isupper c = true ∨ c = 36 := by
  obtain ⟨w, hw, hprefix⟩ := List.any_eq_true.mp h
  have hstart : ∀ w ∈ ["SM ", "AV ", "NOTES", "$$", "MAX(", "MISC"],
      ((ascii w).head?.map fun c => isupper c || c == 36) = some true := by decide
  have hw := hstart w hw
  cases hd : ascii w with
  | nil => simp [hd] at hw
  | cons d ds =>
    rw [hd, List.isPrefixOf_iff_prefix, List.cons_prefix_cons] at hprefix
    simpa [hd, hprefix.1] using hw

theorem isSummary_digit {c : Byte} (hc : isdigit c = true) (s : Text) : isSummary (c :: s) = false := by
  refine Bool.eq_false_iff.mpr fun h => ?_
  rcases isSummary_head h with hupper | rfl
  · have halpha := isdigit_not_isalpha hc
    simp [isalpha, hupper] at halpha
  · exact absurd hc (by decide)

theorem words_dropWhile_space (ln : Text) :
    words (fun c => !isspace c) (ln.dropWhile isspace) = words (fun c => !isspace c) ln := by
  conv_rhs => rw [← List.takeWhile_append_dropWhile (p := isspace) (l := ln)]
  refine (words_append_of_none (fun c hc => ?_) _).symm
  simp [List.mem_takeWhile_imp hc]

theorem body_of_words {ln t : Text} {ts : List Text}
    (h : words (fun c => !isspace c) ln = t :: ts) :
    ∃ c s, ln.dropWhile isspace = c :: s ∧ c ∈ t ∧
      words (fun c => !isspace c) (c :: s) = t :: ts := by
  have hwords := (words_dropWhile_space ln).trans h
  cases hbody : ln.dropWhile isspace with
  | nil => simp [hbody] at hwords
  | cons c s =>
    have hspace := List.head?_dropWhile_not isspace ln
    rw [hbody, List.head?_cons] at hspace
    obtain ⟨ws, hws⟩ := words_cons_of_mem (p := fun c => !isspace c) (by simpa using hspace) s
    rw [hbody] at hwords
    refine ⟨c, s, rfl, ?_, hwords⟩
    rw [hws] at hwords
    rw [← (List.cons.inj hwords).1]
    exact List.mem_cons_self

end Columns

section Table

def Best (st : Cf6State) : Option Reading → Prop
  | none => st.bestDay = 0
  | some r => st.bestDay = r.day ∧ st.bestTmax = some r.tmax ∧ st.bestTmin = some r.tmin

/-- The later of two readings, the first of two of one day. -/
def later (best : Option Reading) (r : Reading) : Option Reading :=
  List.argAux (fun a b => b.day < a.day) best r

variable {st : Cf6State} {best : Option Reading} {ln : Text} {entry : Option DayRow}

theorem Best.metadata (h : Best st best) (ln : Text) : Best (cf6Metadata st ln) best := by
  have hfields : (cf6Metadata st ln).bestDay = st.bestDay ∧
      (cf6Metadata st ln).bestTmax = st.bestTmax ∧ (cf6Metadata st ln).bestTmin = st.bestTmin := by
    simp only [cf6Metadata]
    split_ifs <;> simp
  cases best <;> simpa only [Best, hfields] using h

theorem Best.row (h : Best st best) {t0 t1 t2 : Text} (more : List Text) {row : DayRow}
    (hday : IsDecimal t0 row.day) (hmax : TempColumn t1 row.tmax) (hmin : TempColumn t2 row.tmin) :
    Best (cf6Row st (t0 :: t1 :: t2 :: more)) (row.reading.toList.foldl later best) := by
  obtain ⟨h1, h31⟩ := row.inMonth
  have hread : fromChars t0 = .ok row.day [] := by
    obtain ⟨hne, hall, hval⟩ := hday
    have hle : (digitsVal t0 : Int) ≤ intMax := by rw [hval, intMax]; omega
    have hdigits := fromChars_digits [] hne hall (by simp) hle
    rwa [List.append_nil, hval] at hdigits
  simp only [cf6Row, hread, parseTemp_column hmax, parseTemp_column hmin]
  rw [if_neg (by omega), DayRow.reading]
  cases row.tmax.filter fitsInt with
  | none => exact h
  | some tmax =>
    cases row.tmin.filter fitsInt with
    | none => exact h
    | some tmin =>
      simp only [Option.isSome_some, Bool.and_self, Bool.true_and, decide_eq_true_eq,
        Option.toList_some, List.foldl_cons, List.foldl_nil]
      cases best with
      | none =>
        have hgt : (row.day : Int) > st.bestDay := by
          have hzero : st.bestDay = 0 := h
          omega
        rw [if_pos hgt]
        exact ⟨rfl, rfl, rfl⟩
      | some b =>
        obtain ⟨hbest, -, -⟩ := id h
        by_cases hlt : b.day < row.day
        · rw [if_pos (by omega), later, List.argAux]
          simp only [if_pos hlt]
          exact ⟨rfl, rfl, rfl⟩
        · rw [if_neg (by omega), later, List.argAux]
          simp only [if_neg hlt]
          exact h

theorem separator_body {gap : Text} (h : ∀ c ∈ gap, isspace c = true) (rest : Text) :
    (gap ++ 61 :: rest).dropWhile isspace = 61 :: rest := by
  rw [List.dropWhile_append_of_pos h, List.dropWhile_cons_of_neg (by decide)]

theorem TableLine.table (h : TableLine ln entry) (hpast : st.pastDataHeader = true)
    (hbest : Best st best) :
    (cf6Table st ln).2 = false ∧
      Best (cf6Table st ln).1 ((entry.bind DayRow.reading).toList.foldl later best) := by
  simp only [cf6Table, hpast, Bool.not_true, Bool.false_eq_true, if_false]
  cases h with
  | blank hblank =>
    rw [List.dropWhile_eq_nil_iff.mpr hblank]
    exact ⟨rfl, hbest⟩
  | separator hgap =>
    rw [separator_body hgap]
    exact ⟨rfl, hbest⟩
  | @row _ t0 _ _ more _ hwords hday hmax hmin =>
    obtain ⟨c, s, hbody, hc, hcolumns⟩ := body_of_words hwords
    have hdigit : isdigit c = true := hday.2.1 c hc
    have hsep : c ≠ 61 := by
      rintro rfl
      exact absurd hdigit (by decide)
    rw [hbody, hcolumns, isSummary_digit hdigit, if_neg (by simp [hsep]), if_neg (by simp)]
    exact ⟨rfl, hbest.row more hday hmax hmin⟩

theorem TableLine.step (h : TableLine ln entry) (hpast : st.pastDataHeader = true)
    (hbest : Best st best) :
    Best (cf6Step st ln) ((entry.bind DayRow.reading).toList.foldl later best) :=
  (h.table (by rw [cf6Metadata_pastDataHeader, hpast]) (hbest.metadata ln)).2

theorem TableLine.not_ends (h : TableLine ln entry) : endsTable ln = false := by
  have hbest : Best { pastDataHeader := true } none := rfl
  have hsnd := (h.table rfl hbest).1
  rwa [cf6Table_snd, Bool.true_and] at hsnd

theorem best_table {table : List Text} {entries : List (Option DayRow)}
    (h : List.Forall₂ TableLine table entries) (hpast : st.pastDataHeader = true)
    (hbest : Best st best) :
    Best (table.foldl cf6Step st) ((readings entries.reduceOption).foldl later best) := by
  induction h generalizing st best with
  | nil => exact hbest
  | @cons ln entry table entries hline _ ih =>
    have hstep := ih (by rw [cf6Step_pastDataHeader, hpast, Bool.true_or]) (hline.step hpast hbest)
    rw [List.foldl_cons]
    cases entry with
    | none => exact hstep
    | some row =>
      rw [List.reduceOption_cons_of_some, readings]
      rw [Option.bind_some] at hstep
      cases hrow : row.reading with
      | none =>
        rw [List.filterMap_cons_none hrow]
        rwa [hrow] at hstep
      | some r =>
        rw [List.filterMap_cons_some hrow, List.foldl_cons]
        rwa [hrow] at hstep

end Table

end NwsCpp
