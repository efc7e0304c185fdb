import NwsCpp.Cf6Table
import NwsCpp.FirstMax

/-! Which day a CF6 report is of: the latest complete row of the table decides the date
and both temperatures, and nothing else in the product does. -/

namespace NwsCpp

open Bytes Runs Lines Decimal FirstMax

section Products

/-- Just one of the lines has the label, and it meets the condition. -/
def OnlyLine (label : Text) (meets : Text → Prop) (ls : List Text) : Prop :=
  ∃ before ln after, ls = before ++ ln :: after ∧ icontains ln label = true ∧ meets ln ∧
    ∀ l ∈ before ++ after, icontains l label = false

/-- A word of the line begins like the month, and none like another one. -/
def SaysMonth (month : Nat) (ln : Text) : Prop :=
  month ≠ 0 ∧ (∃ w ∈ words isalpha ln, wordMonth w = month) ∧
    ∀ w ∈ words isalpha ln, wordMonth w ≠ 0 → wordMonth w = month

def SaysYear (year : Nat) (ln : Text) : Prop :=
  1900 ≤ year ∧ year ≤ 2200 ∧ ∃ digits, words isdigit ln = [digits] ∧ IsDecimal digits year

/-- A CF6 product: lines with the month and the year, the first header of the data, the
table, and a summary line with anything after it. -/
def Cf6MonthTable (text : Text) (year month : Nat) (rows : List DayRow) : Prop :=
  hasF6Banner text = true ∧ ∃ metadata header table entries tail,
    linesOf text = metadata ++ header :: (table ++ tail) ∧
    OnlyLine (ascii "MONTH:") (SaysMonth month) metadata ∧
    OnlyLine (ascii "YEAR:") (SaysYear year) metadata ∧
    (∀ ln ∈ metadata, isDataHeader ln = false) ∧ isDataHeader header = true ∧
    List.Forall₂ TableLine table entries ∧ entries.reduceOption = rows ∧
    (tail = [] ∨ ∃ summary rest, tail = summary :: rest ∧
      isSummary (summary.dropWhile isspace) = true)

def latestDay (text : Text) : Option (Text × Option Int × Option Int) :=
  (parseCliProductText text).toOption.map fun r => (r.date, r.tmaxF, r.tminF)

end Products

section Metadata

theorem monthNum_of_names {month : Nat} {ln : Text} (h : SaysMonth month ln) :
    (monthNum ln).1 = month := by
  obtain ⟨hne, ⟨w, hw, hmonth⟩, hall⟩ := h
  obtain ⟨r, hr, rfl⟩ := List.mem_map.mp hw
  cases hfind : (runs isalpha ln).find? (fun r => wordMonth r.1 != 0) with
  | none =>
    have hzero := List.find?_eq_none.mp hfind r hr
    simp [hmonth, hne] at hzero
  | some r' =>
    have hnamed : wordMonth r'.1 ≠ 0 := by simpa using List.find?_some hfind
    rw [monthNum, hfind]
    exact hall r'.1 (List.mem_map_of_mem (List.mem_of_find?_eq_some hfind)) hnamed

theorem cf6Year_of_names {year : Nat} {ln : Text} (h : SaysYear year ln) : cf6Year ln = year := by
  obtain ⟨hge, hle, digits, hwords, hdigits⟩ := h
  have hread : readInt digits = year := hdigits.readInt_eq (by rw [intMax]; omega)
  rw [cf6Year, hwords, List.map_singleton, hread, List.find?_cons_of_pos, Option.getD_some]
  simp only [Bool.and_eq_true, decide_eq_true_eq]
  omega

theorem foldl_onlyLine {β : Type*} {field : Cf6State → β} {unset value : β} {label : Text}
    {meets : Text → Prop} {read : Text → β} [DecidableEq β]
    (hstep : ∀ st ln, field (cf6Step st ln) =
      if field st = unset ∧ icontains ln label = true then read ln else field st)
    (hread : ∀ ln, meets ln → read ln = value) (hvalue : value ≠ unset) {ls : List Text}
    (h : OnlyLine label meets ls) {st : Cf6State} (hst : field st = unset) :
    field (ls.foldl cf6Step st) = value := by
  obtain ⟨before, ln, after, rfl, hlabel, hmeets, hothers⟩ := h
  have hbefore : field (before.foldl cf6Step st) = unset :=
    List.foldlRecOn (motive := fun st => field st = unset) before cf6Step hst fun st hst l hl => by
      rw [hstep, if_neg (by simp [hothers l (List.mem_append_left _ hl)]), hst]
  rw [List.foldl_append, List.foldl_cons]
  refine List.foldlRecOn (motive := fun st => field st = value) after cf6Step ?_ fun st hst l _ => ?_
  · rw [hstep, if_pos ⟨hbefore, hlabel⟩, hread ln hmeets]
  · rw [hstep, if_neg (fun h => hvalue (hst.symm.trans h.1)), hst]

end Metadata

section Loop

variable {st : Cf6State} {best : Option Reading}

theorem Best.before (h : Best st best) (hpast : st.pastDataHeader = false) (ln : Text) :
    Best (cf6Step st ln) best := by
  have hmetadata := h.metadata ln
  simp only [cf6Step, cf6Table, cf6Metadata_pastDataHeader, hpast, Bool.not_false, if_true]
  split_ifs
  · cases best <;> exact hmetadata
  · exact hmetadata

theorem cf6Loop_summary (hpast : st.pastDataHeader = true) {summary : Text}
    (h : isSummary (summary.dropWhile isspace) = true) (rest : List Text) :
    cf6Loop st (summary :: rest) = cf6Metadata st summary := by
  have hbody : ((summary.dropWhile isspace).isEmpty ||
      (summary.dropWhile isspace).head? == some 61) = false := by
    cases hb : summary.dropWhile isspace with
    | nil =>
      rw [hb] at h
      exact absurd h (by decide)
    | cons c s =>
      have hc : c ≠ 61 := by
        rintro rfl
        rw [hb] at h
        exact absurd (isSummary_head h) (by decide)
      simp [hc]
  have htable : cf6Table (cf6Metadata st summary) summary = (cf6Metadata st summary, true) := by
    simp [cf6Table, hpast, hbody, h]
  rw [cf6Loop, htable]

end Loop

section Month

variable {text : Text} {year month : Nat} {rows : List DayRow}

theorem Cf6MonthTable.named (h : Cf6MonthTable text year month rows) :
    month ≠ 0 ∧ (year : Int) ≠ 0 := by
  obtain ⟨-, _, _, _, _, _, -, ⟨_, _, _, -, -, hmonth, -⟩, ⟨_, _, _, -, -, hyear, -⟩, -⟩ := h
  have := hyear.1
  exact ⟨hmonth.1, by omega⟩

theorem Cf6MonthTable.loop (h : Cf6MonthTable text year month rows) :
    (cf6Loop {} (linesOf text)).month = month ∧ (cf6Loop {} (linesOf text)).year = year ∧
      Best (cf6Loop {} (linesOf text)) ((readings rows).argmax Reading.day) := by
  obtain ⟨hm0, hy0⟩ := h.named
  obtain ⟨-, metadata, header, table, entries, tail, hlines, hmonth, hyear, hplain, hheader, htable,
    rfl, htail⟩ := h
  have hmonth' : (metadata.foldl cf6Step {}).month = month :=
    foldl_onlyLine cf6Step_month (fun _ => monthNum_of_names) hm0 hmonth rfl
  have hyear' : (metadata.foldl cf6Step {}).year = year :=
    foldl_onlyLine cf6Step_year (fun _ => cf6Year_of_names) hy0 hyear rfl
  obtain ⟨hpast, hbest⟩ : (metadata.foldl cf6Step {}).pastDataHeader = false ∧
      Best (metadata.foldl cf6Step {}) none := by
    refine List.foldlRecOn (motive := fun st : Cf6State => st.pastDataHeader = false ∧ Best st none)
      metadata cf6Step ⟨rfl, rfl⟩ fun st hst ln hln => ⟨?_, hst.2.before hst.1 ln⟩
    rw [cf6Step_pastDataHeader, hst.1, hplain ln hln, Bool.or_false]
  rw [hlines, cf6Loop_metadata _ rfl hplain]
  generalize metadata.foldl cf6Step {} = st at hmonth' hyear' hpast hbest
  have hkept := cf6Loop_invariant (P := fun st => st.month = month ∧ st.year = year)
    (fun st ln hst => ⟨by rw [cf6Step_month, if_neg (fun h => hm0 (hst.1.symm.trans h.1)), hst.1],
      by rw [cf6Step_year, if_neg (fun h => hy0 (hst.2.symm.trans h.1)), hst.2]⟩)
    ⟨hmonth', hyear'⟩ (header :: (table ++ tail))
  refine ⟨hkept.1, hkept.2, ?_⟩
  have hpast' : (cf6Step st header).pastDataHeader = true := by
    rw [cf6Step_pastDataHeader, hheader, Bool.or_true]
  have hrows : ∀ ln ∈ table, endsTable ln = false :=
    (List.forall₂_and_left _ _ |>.mp (htable.imp fun _ _ h => ⟨h.not_ends, h⟩)).1
  have hbest' := best_table htable hpast' (hbest.before hpast header)
  rw [cf6Loop_cons_of_continue _ (by rw [hpast, Bool.false_and]), cf6Loop_rows _ hrows]
  rcases htail with rfl | ⟨summary, rest, rfl, hsummary⟩
  · exact hbest'
  · have hended : (table.foldl cf6Step (cf6Step st header)).pastDataHeader = true := by
      rw [foldl_cf6Step_pastDataHeader, hpast', Bool.true_or]
    rw [cf6Loop_summary hended hsummary]
    exact hbest'.metadata summary

theorem day_pos {r : Reading} (h : r ∈ readings rows) : 1 ≤ r.day := by
  obtain ⟨row, -, hrow⟩ := List.mem_filterMap.mp h
  rw [DayRow.reading] at hrow
  split at hrow
  · obtain rfl := Option.some.inj hrow
    exact row.inMonth.1
  · simp at hrow

theorem Cf6MonthTable.latestDay_eq (h : Cf6MonthTable text year month rows) :
    latestDay text = ((readings rows).argmax Reading.day).map fun r =>
      (isoDate year month r.day, some r.tmax, some r.tmin) := by
  obtain ⟨hmonth, hyear, hbest⟩ := h.loop
  obtain ⟨hm0, hy0⟩ := h.named
  obtain ⟨hbanner, -⟩ := h
  have htext : text.isEmpty = false := by
    cases text with
    | nil => exact absurd hbanner (by decide)
    | cons c text => rfl
  rw [latestDay, parseCliProductText, if_neg (by simp [htext]), if_pos hbanner, parseCf6ProductText]
  cases hmax : (readings rows).argmax Reading.day with
  | none =>
    rw [hmax] at hbest
    have hzero : (cf6Loop {} (linesOf text)).bestDay = 0 := hbest
    simp only [hzero, or_true, if_true]
    rfl
  | some r =>
    rw [hmax] at hbest
    obtain ⟨hday, htmax, htmin⟩ := hbest
    have hpos := day_pos (List.argmax_mem (Option.mem_def.mpr hmax))
    simp only [hmonth, hyear, hday, htmax, htmin]
    rw [if_neg (by simp only [hm0, hy0, false_or]; omega)]
    rfl

theorem latestDay_isSome : (latestDay text).isSome = true ↔ ∃ r, parseCliProductText text = .ok r := by
  rw [latestDay, Option.isSome_map]
  cases parseCliProductText text <;> simp [Except.toOption]

/-- A product with a table of one month parses when a row has both temperatures in the
range of `int`; its day is the greatest of these, its temperatures are from the first such
row of that day, and no other row, nor the order of the days, matters. -/
theorem cf6_latest_complete_day (h : Cf6MonthTable text year month rows) :
    ((∃ r, parseCliProductText text = .ok r) ↔ ∃ row ∈ rows, row.reading.isSome = true) ∧
    (∀ r, parseCliProductText text = .ok r → ∃ best, IsFirstMax Reading.day (readings rows) best ∧
      r.date = isoDate year month best.day ∧ r.tmaxF = some best.tmax ∧ r.tminF = some best.tmin) ∧
    ∀ text' rows', Cf6MonthTable text' year month rows' →
      (∀ day, (readings rows).filter (·.day = day) = (readings rows').filter (·.day = day)) →
        latestDay text = latestDay text' := by
  have hlatest := h.latestDay_eq
  refine ⟨?_, fun r hr => ?_, fun text' rows' h' hsame => ?_⟩
  · have hcomplete : readings rows = [] ↔ ¬ ∃ row ∈ rows, row.reading.isSome = true := by
      simp [readings, List.filterMap_eq_nil_iff]
    rw [← latestDay_isSome, hlatest, Option.isSome_map, ← not_iff_not, ← hcomplete,
      Bool.not_eq_true, Option.isSome_eq_false_iff, Option.isNone_iff_eq_none, List.argmax_eq_none]
  · rw [latestDay, hr] at hlatest
    obtain ⟨best, hbest, heq⟩ := Option.map_eq_some_iff.mp hlatest.symm
    simp only [Prod.mk.injEq] at heq
    exact ⟨best, argmax_eq_some_iff.mp hbest, heq.1.symm, heq.2.1.symm, heq.2.2.symm⟩
  · rw [hlatest, h'.latestDay_eq, argmax_congr hsame]

end Month

section Samples

def mayMetadata : List Text := [ascii "WS FORM: F-6", ascii "MONTH: MAY", ascii "YEAR: 2026"]

def mayProduct (table : List Text) : Text :=
  [10].intercalate (mayMetadata ++ ascii "DY MAX MIN" :: table)

theorem mayTable {text : Text} {table tail : List Text} {entries : List (Option DayRow)}
    (hbanner : hasF6Banner text = true)
    (hlines : linesOf text = mayMetadata ++ ascii "DY MAX MIN" :: (table ++ tail))
    (htable : List.Forall₂ TableLine table entries)
    (htail : tail = [] ∨ ∃ summary rest, tail = summary :: rest ∧
      isSummary (summary.dropWhile isspace) = true) :
    Cf6MonthTable text 2026 5 entries.reduceOption := by
  refine ⟨hbanner, mayMetadata, _, table, entries, tail, hlines, ?_, ?_, by decide,
    by decide, htable, rfl, htail⟩
  · exact ⟨[ascii "WS FORM: F-6"], ascii "MONTH: MAY", [ascii "YEAR: 2026"], rfl, by decide,
      ⟨by decide, by decide, by decide⟩, by decide⟩
  · exact ⟨[ascii "WS FORM: F-6", ascii "MONTH: MAY"], ascii "YEAR: 2026", [], rfl,
      by decide, ⟨by decide, by decide, ascii "2026", by decide, by decide,
        by decide, by decide⟩, by decide⟩

/-- Three days out of order; the one in the first row has no maximum. -/
def threeRows : List Text :=
  [ascii "3 M 40", ascii " 2  70 -5 62", ascii "1 66 57", ascii "SM 136"]

theorem mayTable_three_rows : Cf6MonthTable (mayProduct threeRows) 2026 5
    [⟨3, none, some 40, by decide⟩, ⟨2, some 70, some (-5), by decide⟩,
      ⟨1, some 66, some 57, by decide⟩] := by
  have hrows : List.Forall₂ TableLine [ascii "3 M 40", ascii " 2  70 -5 62", ascii "1 66 57"]
      [some ⟨3, none, some 40, by decide⟩, some ⟨2, some 70, some (-5), by decide⟩,
        some ⟨1, some 66, some 57, by decide⟩] := by
    refine .cons ?_ (.cons ?_ (.cons ?_ .nil))
    · have hwords : words (fun c => !isspace c) (ascii "3 M 40") =
          [ascii "3", ascii "M", ascii "40"] := by decide
      have hmin : IsDecimal (ascii "40") 40 := by decide
      exact .row hwords (by decide) .missing (.positive hmin)
    · have hwords : words (fun c => !isspace c) (ascii " 2  70 -5 62") =
          [ascii "2", ascii "70", 45 :: ascii "5", ascii "62"] := by decide
      have hmax : IsDecimal (ascii "70") 70 := by decide
      have hmin : IsDecimal (ascii "5") 5 := by decide
      exact .row hwords (by decide) (.positive hmax) (.negative hmin)
    · have hwords : words (fun c => !isspace c) (ascii "1 66 57") =
          [ascii "1", ascii "66", ascii "57"] := by decide
      have hmax : IsDecimal (ascii "66") 66 := by decide
      have hmin : IsDecimal (ascii "57") 57 := by decide
      exact .row hwords (by decide) (.positive hmax) (.positive hmin)
  exact mayTable (by decide) (by decide) hrows
    (Or.inr ⟨ascii "SM 136", [], rfl, by decide⟩)

theorem cf6_latest_second_of_may :
    ∃ r, parseCliProductText (mayProduct threeRows) = .ok r ∧
      r.date = ascii "2026-05-02" ∧ r.tmaxF = some 70 ∧ r.tminF = some (-5) := by
  obtain ⟨hparse, hreport, -⟩ := cf6_latest_complete_day mayTable_three_rows
  obtain ⟨r, hr⟩ := hparse.mpr ⟨⟨2, some 70, some (-5), by decide⟩, by simp, by decide⟩
  obtain ⟨best, hbest, hdate, hmax, hmin⟩ := hreport r hr
  obtain rfl : best = ⟨2, 70, -5⟩ :=
    Option.some.inj ((argmax_eq_some_iff.mpr hbest).symm.trans rfl)
  exact ⟨r, hr, hdate.trans (by decide +kernel), hmax, hmin⟩

/-- A maximum beyond the range of `int` counts as missing. -/
theorem cf6_wide_temperature_is_missing :
    Cf6MonthTable (mayProduct [ascii "1 99999999999 50"]) 2026 5
        [⟨1, some 99999999999, some 50, by decide⟩] ∧
      parseCliProductText (mayProduct [ascii "1 99999999999 50"]) = .error unrecognizedLayout := by
  have hwords : words (fun c => !isspace c) (ascii "1 99999999999 50") =
      [ascii "1", ascii "99999999999", ascii "50"] := by decide
  have hmax : IsDecimal (ascii "99999999999") 99999999999 := by decide
  have hmin : IsDecimal (ascii "50") 50 := by decide
  have hrow : TableLine (ascii "1 99999999999 50")
      (some ⟨1, some 99999999999, some 50, by decide⟩) :=
    .row hwords (by decide) (.positive hmax) (.positive hmin)
  have htable : List.Forall₂ TableLine [ascii "1 99999999999 50"] [some _] := .cons hrow .nil
  exact ⟨mayTable (by decide) (by decide) htable (Or.inl rfl), by decide⟩

end Samples

end NwsCpp
