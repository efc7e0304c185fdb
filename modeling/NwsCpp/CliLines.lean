import NwsCpp.CliReport

/-! What one line does to each field of a CLI report, and what the whole line
loop leaves in it. -/

namespace NwsCpp

open Bytes Lines

section Search

theorem imatch_iff {needle hay : Text} : imatch needle hay = true ↔
    ∃ w post, hay = w ++ post ∧ w.map toupper = needle.map toupper := by
  induction needle generalizing hay with
  | nil =>
    rw [imatch, eq_self_iff_true, true_iff]
    exact ⟨[], hay, rfl, rfl⟩
  | cons n needle ih =>
    cases hay with
    | nil => simp [imatch]
    | cons h hay =>
      rw [imatch, Bool.and_eq_true, beq_iff_eq, ih]
      constructor
      · rintro ⟨hn, w, post, rfl, hw⟩
        exact ⟨h :: w, post, rfl, by rw [List.map_cons, List.map_cons, hn, hw]⟩
      · rintro ⟨w, post, hsplit, hw⟩
        cases w with
        | nil => cases hw
        | cons c w =>
          obtain ⟨rfl, rfl⟩ := List.cons.inj hsplit
          obtain ⟨hn, hw⟩ := List.cons.inj hw
          exact ⟨hn, w, post, rfl, hw⟩

theorem imatch_append {needle w : Text} (h : w.map toupper = needle.map toupper) (post : Text) :
    imatch needle (w ++ post) = true := imatch_iff.mpr ⟨w, post, rfl, h⟩

theorem icontains_iff {hay needle : Text} : icontains hay needle = true ↔
    ∃ pre w post, hay = pre ++ (w ++ post) ∧ w.map toupper = needle.map toupper := by
  rw [icontains, ifind, search_isSome_iff]
  constructor
  · rintro ⟨t, ⟨pre, rfl⟩, ht⟩
    obtain ⟨w, post, rfl, hw⟩ := imatch_iff.mp ht
    exact ⟨pre, w, post, rfl, hw⟩
  · rintro ⟨pre, w, post, rfl, hw⟩
    exact ⟨w ++ post, List.suffix_append _ _, imatch_append hw post⟩

theorem icontains_of_append {needle w : Text} (h : w.map toupper = needle.map toupper)
    (pre post : Text) : icontains (pre ++ (w ++ post)) needle = true :=
  icontains_iff.mpr ⟨pre, w, post, rfl, h⟩

end Search

theorem linesOf_cons {ln : Text} (h : (10 : Byte) ∉ ln) (text : Text) :
    linesOf (ln ++ 10 :: text) = stripCr ln :: linesOf text := by
  rw [linesOf, lines_append_newline h]
  cases hlines : lines text with
  | nil => exact absurd hlines (lines_ne_nil text)
  | cons l ls =>
    rw [stripEnded, linesOf, hlines]
    exact List.cons_ne_nil l ls

theorem linesOf_append_newline {ln : Text} (h : ∀ c ∈ ln, c ≠ 10 ∧ c ≠ 13) (text : Text) :
    linesOf (ln ++ 10 :: text) = ln :: linesOf text := by
  have hcr : ln.getLast? ≠ some 13 := fun hc => (h 13 (List.mem_of_getLast? hc)).2 rfl
  rw [linesOf_cons fun hc => (h 10 hc).1 rfl, stripCr_of_getLast hcr]

@[simp] theorem cliTemperature_station (st : CliState) (ln : Text) :
    (cliTemperature st ln).report.station = st.report.station := by
  simp only [cliTemperature]
  split_ifs <;> rfl

@[simp] theorem cliTemperature_date (st : CliState) (ln : Text) :
    (cliTemperature st ln).report.date = st.report.date := by
  simp only [cliTemperature]
  split_ifs <;> rfl

theorem cliLine_station (st : CliState) (ln : Text) :
    (cliLine st ln).report.station =
      if st.report.station.isEmpty then cliStation ln else st.report.station := by
  simp only [cliLine, cliTemperature_station, cliHeading]
  split_ifs <;> rfl

theorem cliLine_date (st : CliState) (ln : Text) :
    (cliLine st ln).report.date =
      if st.report.date.isEmpty then cliDate ln else st.report.date := by
  simp only [cliLine, cliTemperature_date, cliHeading]
  split_ifs <;> simp_all

theorem foldl_cliLine_station (st : CliState) (ls : List Text) :
    (ls.foldl cliLine st).report.station =
      if st.report.station.isEmpty then firstNonempty (ls.map cliStation)
      else st.report.station :=
  foldl_settled (fun st : CliState => st.report.station) cliLine_station st ls

theorem foldl_cliLine_date (st : CliState) (ls : List Text) :
    (ls.foldl cliLine st).report.date =
      if st.report.date.isEmpty then firstNonempty (ls.map cliDate) else st.report.date :=
  foldl_settled (fun st : CliState => st.report.date) cliLine_date st ls

/-- The report that the line loop leaves. -/
def cliReport (text : Text) : CliReport := ((linesOf text).foldl cliLine (cliStart text)).report

theorem cliReport_station (text : Text) :
    (cliReport text).station = firstNonempty ((linesOf text).map cliStation) :=
  foldl_cliLine_station (cliStart text) (linesOf text)

theorem cliReport_date (text : Text) :
    (cliReport text).date = firstNonempty ((linesOf text).map cliDate) :=
  foldl_cliLine_date (cliStart text) (linesOf text)

/-- Some field is set. -/
def CliReport.Informative (r : CliReport) : Prop :=
  r.station ≠ [] ∨ r.date ≠ [] ∨ r.tmaxF ≠ none ∨ r.tminF ≠ none

theorem CliReport.informative_iff {r : CliReport} : r.Informative ↔
    (r.station.isEmpty && r.date.isEmpty && r.tmaxF.isNone && r.tminF.isNone) = false := by
  simp only [CliReport.Informative, Bool.and_eq_false_iff, Option.isNone_eq_false_iff,
    Option.isSome_iff_ne_none, List.isEmpty_eq_false_iff, or_assoc]

theorem parseCli_eq_ok_iff {text : Text} {r : CliReport} (hcli : hasF6Banner text = false) :
    parseCliProductText text = .ok r ↔ r = cliReport text ∧ r.Informative := by
  rw [CliReport.informative_iff]
  cases text with
  | nil =>
    have hempty : parseCliProductText [] ≠ .ok r := by
      rw [parseCliProductText, List.isEmpty_nil, if_pos rfl]
      exact fun h => by cases h
    refine iff_of_false hempty ?_
    rintro ⟨rfl, h⟩
    revert h
    decide
  | cons c text =>
    have hparse : parseCliProductText (c :: text) =
        if (cliReport (c :: text)).station.isEmpty && (cliReport (c :: text)).date.isEmpty &&
            (cliReport (c :: text)).tmaxF.isNone && (cliReport (c :: text)).tminF.isNone then
          .error unrecognizedLayout
        else .ok (cliReport (c :: text)) := by
      rw [parseCliProductText, hcli]
      rfl
    rw [hparse]
    generalize cliReport (c :: text) = report
    split_ifs with hset
    · refine iff_of_false (fun h => by cases h) ?_
      rintro ⟨rfl, h⟩
      rw [hset] at h
      cases h
    · rw [Except.ok.injEq]
      constructor
      · rintro rfl
        exact ⟨rfl, Bool.eq_false_iff.mpr hset⟩
      · exact fun h => h.1.symm

/-- A CLI product parses as soon as some line yields a station or a date, and
both fields come from the first line that yields them. -/
theorem parseCli_heading {text : Text} (hcli : hasF6Banner text = false)
    (hne : firstNonempty ((linesOf text).map cliStation) ≠ [] ∨
      firstNonempty ((linesOf text).map cliDate) ≠ []) :
    ∃ r, parseCliProductText text = .ok r ∧
      r.station = firstNonempty ((linesOf text).map cliStation) ∧
      r.date = firstNonempty ((linesOf text).map cliDate) := by
  have hinformative : (cliReport text).Informative := by
    rw [CliReport.Informative, cliReport_station, cliReport_date]
    rcases hne with hstation | hdate
    · exact .inl hstation
    · exact .inr (.inl hdate)
  exact ⟨cliReport text, (parseCli_eq_ok_iff hcli).mpr ⟨rfl, hinformative⟩, cliReport_station text,
    cliReport_date text⟩

end NwsCpp
