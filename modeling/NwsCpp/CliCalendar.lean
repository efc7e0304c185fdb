import NwsCpp.Cf6Loop
import NwsCpp.CliDate

/-! The dates that the two parsers can print. -/

namespace NwsCpp

open Bytes Runs Lines Decimal

section Dates

/-- A number from `lo` to `hi` in `width` digits. -/
def Numeral (width lo hi : Nat) (w : Text) : Prop :=
  w.length = width ∧ ∃ n, IsDecimal w n ∧ lo ≤ n ∧ n ≤ hi

/-- Ten characters `dddd-dd-dd` that name a year, a month and a day in range. -/
def IsCalendarDate (date : Text) : Prop :=
  ∃ year month day, date = year ++ 45 :: month ++ 45 :: day ∧
    Numeral 4 1900 2200 year ∧ Numeral 2 1 12 month ∧ Numeral 2 1 31 day

structure InRange (year : Int) (month : Nat) (day : Int) : Prop where
  year : 1900 ≤ year ∧ year ≤ 2200
  month : 1 ≤ month ∧ month ≤ 12
  day : 1 ≤ day ∧ day ≤ 31

variable {year day : Int} {month n lo hi : Nat}

theorem numeral_two (hlo : lo ≤ n) (hhi : n ≤ hi) (hn : n < 100) : Numeral 2 lo hi (zeroPad 2 n) := by
  rw [zeroPad_two hn]
  refine ⟨rfl, n, ⟨List.cons_ne_nil _ _, ?_, ?_⟩, hlo, hhi⟩
  · simp [digit_isdigit (show n / 10 < 10 by omega), digit_isdigit (show n % 10 < 10 by omega)]
  · simp only [digitsVal, List.foldl_cons, List.foldl_nil,
      digitVal_digit (show n / 10 < 10 by omega), digitVal_digit (show n % 10 < 10 by omega)]
    omega

theorem numeral_four (hlo : 1900 ≤ n) (hhi : n ≤ 2200) : Numeral 4 1900 2200 (zeroPad 4 n) := by
  have h1 : n / 1000 < 10 := by omega
  have h2 : n / 100 % 10 < 10 := by omega
  have h3 : n / 10 % 10 < 10 := by omega
  have h4 : n % 10 < 10 := by omega
  rw [zeroPad_four hlo hhi]
  refine ⟨rfl, n, ⟨List.cons_ne_nil _ _, ?_, ?_⟩, hlo, hhi⟩
  · simp [digit_isdigit, h1, h2, h3, h4]
  · simp only [digitsVal, List.foldl_cons, List.foldl_nil, digitVal_digit h1, digitVal_digit h2,
      digitVal_digit h3, digitVal_digit h4]
    omega

/-- Numbers in range print to ten characters, which leaves room for the terminator. -/
theorem InRange.printed (h : InRange year month day) :
    (zeroPad 4 year ++ 45 :: zeroPad 2 month ++ 45 :: zeroPad 2 day).length = 10 ∧
      IsCalendarDate (zeroPad 4 year ++ 45 :: zeroPad 2 month ++ 45 :: zeroPad 2 day) := by
  obtain ⟨hyear, hmonth, hday⟩ := h
  obtain ⟨y, rfl⟩ := Int.eq_ofNat_of_zero_le (show 0 ≤ year by omega)
  obtain ⟨d, rfl⟩ := Int.eq_ofNat_of_zero_le (show 0 ≤ day by omega)
  have hy := numeral_four (n := y) (by omega) (by omega)
  have hm := numeral_two hmonth.1 hmonth.2 (by omega)
  have hd := numeral_two (show 1 ≤ d by omega) (show d ≤ 31 by omega) (by omega)
  refine ⟨?_, _, _, _, rfl, hy, hm, hd⟩
  simp only [List.length_append, List.length_cons, hy.1, hm.1, hd.1]

theorem InRange.isCalendarDate (h : InRange year month day) : IsCalendarDate (isoDate year month day) := by
  obtain ⟨hlength, hdate⟩ := h.printed
  rwa [isoDate, List.take_of_length_le hlength.le]

theorem inRange_of_dayAndYear {ln : Text} (hmonth : (monthNum ln).1 ≠ 0)
    (h : dayAndYear (monthNum ln).2 = (some day, some year)) : InRange year (monthNum ln).1 day := by
  rw [dayAndYear_eq, Prod.mk.injEq] at h
  exact ⟨firstNumber_bounds h.2, ⟨Nat.pos_of_ne_zero hmonth, monthNum_le ln⟩, firstNumber_bounds h.1⟩

theorem cliDate_empty_or_calendar (ln : Text) : cliDate ln = [] ∨ IsCalendarDate (cliDate ln) := by
  rw [cliDate]
  by_cases hnamed : (icontains ln (ascii "FOR ") && (monthNum ln).1 != 0) = true
  · rw [if_pos hnamed]
    simp only [Bool.and_eq_true, bne_iff_ne] at hnamed
    cases hnumbers : dayAndYear (monthNum ln).2 with
    | mk dd yyyy =>
      cases dd with
      | none => exact .inl rfl
      | some dd =>
        cases yyyy with
        | none => exact .inl rfl
        | some yyyy => exact .inr (inRange_of_dayAndYear hnamed.2 hnumbers).isCalendarDate
  · rw [if_neg hnamed]
    exact .inl rfl

end Dates

section Days

/-- What the CF6 loop has read so far is unset or in range, and a best day has both
temperatures. -/
structure Cf6State.Valid (st : Cf6State) : Prop where
  month : st.month ≤ 12
  year : st.year = 0 ∨ (1900 ≤ st.year ∧ st.year ≤ 2200)
  day : 0 ≤ st.bestDay ∧ st.bestDay ≤ 31
  temperatures : st.bestDay ≠ 0 → st.bestTmax.isSome = true ∧ st.bestTmin.isSome = true

variable {st : Cf6State}

theorem cf6Year_bounds (ln : Text) : cf6Year ln = 0 ∨ (1900 ≤ cf6Year ln ∧ cf6Year ln ≤ 2200) := by
  rw [cf6Year]
  cases hfind : ((words isdigit ln).map readInt).find? fun v => 1900 ≤ v && v ≤ 2200 with
  | none => exact .inl rfl
  | some v =>
    have hv := List.find?_some hfind
    simp only [Bool.and_eq_true, decide_eq_true_eq] at hv
    exact .inr hv

theorem Cf6State.Valid.metadata (h : st.Valid) (ln : Text) : (cf6Metadata st ln).Valid := by
  obtain ⟨hmonth, hyear, hday, htemps⟩ := h
  have hm := monthNum_le ln
  have hy := cf6Year_bounds ln
  simp only [cf6Metadata]
  split_ifs <;> constructor <;> assumption

theorem Cf6State.Valid.row (h : st.Valid) (toks : List Text) : (cf6Row st toks).Valid := by
  obtain ⟨hmonth, hyear, hday, htemps⟩ := h
  simp only [cf6Row]
  split
  · split
    · split_ifs with hout hbest
      · exact ⟨hmonth, hyear, hday, htemps⟩
      · simp only [Bool.and_eq_true, decide_eq_true_eq] at hbest
        exact ⟨hmonth, hyear, by simp only; omega, fun _ => hbest.1⟩
      · exact ⟨hmonth, hyear, hday, htemps⟩
    · exact ⟨hmonth, hyear, hday, htemps⟩
  · exact ⟨hmonth, hyear, hday, htemps⟩

theorem Cf6State.Valid.step (h : st.Valid) (ln : Text) : (cf6Step st ln).Valid := by
  have hmetadata := h.metadata ln
  have hrow := hmetadata.row (words (fun c => !isspace c) (ln.dropWhile isspace))
  rw [cf6Step, cf6Table]
  split_ifs
  · exact ⟨hmetadata.month, hmetadata.year, hmetadata.day, hmetadata.temperatures⟩
  · exact hmetadata
  · simp only
    split_ifs
    · exact hmetadata
    · exact hmetadata
    · exact hrow

theorem cf6Loop_valid (ls : List Text) : (cf6Loop {} ls).Valid := by
  refine cf6Loop_invariant (fun st ln h => h.step ln) ?_ ls
  exact ⟨Nat.zero_le _, .inl rfl, ⟨le_rfl, by decide⟩, fun h => absurd rfl h⟩

theorem Cf6State.Valid.inRange (h : st.Valid) (hset : ¬ (st.month = 0 ∨ st.year = 0 ∨ st.bestDay = 0)) :
    InRange st.year st.month st.bestDay := by
  obtain ⟨hmonth, hyear, hday, -⟩ := h
  exact ⟨by omega, by omega, by omega⟩

end Days

section Reports

variable {text : Text} {r : CliReport}

theorem parseCf6_report (h : parseCf6ProductText text = .ok r) :
    IsCalendarDate r.date ∧ r.tmaxF.isSome = true ∧ r.tminF.isSome = true := by
  have hvalid := cf6Loop_valid (linesOf text)
  rw [parseCf6ProductText] at h
  generalize cf6Loop {} (linesOf text) = st at hvalid h
  by_cases hunset : st.month = 0 ∨ st.year = 0 ∨ st.bestDay = 0
  · rw [if_pos hunset] at h
    cases h
  · rw [if_neg hunset, Except.ok.injEq] at h
    subst h
    exact ⟨(hvalid.inRange hunset).isCalendarDate, hvalid.temperatures fun h => hunset (.inr (.inr h))⟩

theorem firstNonempty_cases {P : Text → Prop} {ts : List Text} (h : ∀ t ∈ ts, t = [] ∨ P t) :
    firstNonempty ts = [] ∨ P (firstNonempty ts) := by
  induction ts with
  | nil => exact .inl rfl
  | cons t ts ih =>
    rw [firstNonempty]
    by_cases hempty : t.isEmpty = true
    · rw [if_pos hempty]
      exact ih fun u hu => h u (List.mem_cons_of_mem t hu)
    · rw [if_neg hempty]
      exact h t List.mem_cons_self

theorem cliReport_date_empty_or_calendar (text : Text) :
    (cliReport text).date = [] ∨ IsCalendarDate (cliReport text).date := by
  rw [cliReport_date]
  refine firstNonempty_cases fun t ht => ?_
  obtain ⟨ln, -, rfl⟩ := List.mem_map.mp ht
  exact cliDate_empty_or_calendar ln

end Reports

end NwsCpp
