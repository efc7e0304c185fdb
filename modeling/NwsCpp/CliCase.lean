import NwsCpp.CliTemperature
import NwsCpp.MonthScan

/-! What a CLI report keeps when letters of the product change their case. -/

namespace NwsCpp

open Bytes Runs Lines Decimal

/-- The text in upper case. -/
def upper (s : Text) : Text := s.map toupper

section Letters

theorem toupper_class (c : Byte) : toupper (toupper c) = toupper c ∧
    isalpha (toupper c) = isalpha c ∧ isdigit (toupper c) = isdigit c ∧
      (isdigit c = true → toupper c = c) ∧ ∀ e ∈ [10, 13, 45], (toupper c == e) = (c == e) := by
  have h := forall_byte (p := fun c => toupper (toupper c) == toupper c &&
    isalpha (toupper c) == isalpha c && isdigit (toupper c) == isdigit c &&
    (!isdigit c || toupper c == c) && [10, 13, 45].all fun e => (toupper c == e) == (c == e))
    (by decide +kernel) c
  simp only [Bool.and_eq_true, beq_iff_eq, List.all_eq_true, Bool.or_eq_true, Bool.not_eq_true'] at h
  obtain ⟨⟨⟨⟨h1, h2⟩, h3⟩, h4⟩, h5⟩ := h
  refine ⟨h1, h2, h3, fun hd => h4.resolve_left (by simp [hd]), h5⟩

theorem isalpha_comp_toupper : isalpha ∘ toupper = isalpha := funext fun c => (toupper_class c).2.1

theorem isdigit_comp_toupper : isdigit ∘ toupper = isdigit := funext fun c => (toupper_class c).2.2.1

theorem upper_upper (s : Text) : upper (upper s) = upper s := by
  simp [upper, (toupper_class _).1]

theorem upper_digits {w : Text} (h : ∀ c ∈ w, isdigit c = true) : upper w = w :=
  (List.map_congr_left fun c hc => (toupper_class c).2.2.2.1 (h c hc)).trans (List.map_id w)

end Letters

section Scans

theorem imatch_upper (needle hay : Text) : imatch needle (upper hay) = imatch needle hay := by
  rw [Bool.eq_iff_iff, imatch_iff, imatch_iff]
  constructor
  · rintro ⟨w, post, hsplit, hw⟩
    obtain ⟨v, rest, rfl, rfl, rfl⟩ := List.map_eq_append_iff.mp hsplit
    exact ⟨v, rest, rfl, by rw [← hw]; exact (upper_upper v).symm⟩
  · rintro ⟨w, post, rfl, hw⟩
    exact ⟨upper w, upper post, List.map_append, by rw [← hw]; exact upper_upper w⟩

theorem ifind_upper (hay needle : Text) : ifind (upper hay) needle = ifind hay needle := by
  rw [ifind, upper, search_map]
  exact congrArg (search · hay) (funext fun t => imatch_upper needle t)

theorem icontains_upper (hay needle : Text) : icontains (upper hay) needle = icontains hay needle := by
  rw [icontains, ifind_upper, icontains]

theorem lines_upper (text : Text) : lines (upper text) = (lines text).map upper := by
  have hline {ln : Text} (h : (10 : Byte) ∉ ln) : (10 : Byte) ∉ upper ln := by
    simp only [upper, List.mem_map, not_exists, not_and]
    intro c hc hten
    have hsame := (toupper_class c).2.2.2.2 10 (by simp)
    rw [beq_iff_eq.mpr hten] at hsame
    exact h (beq_iff_eq.mp hsame.symm ▸ hc)
  induction text using line_induction with
  | last ln hln => rw [lines_of_notMem hln, lines_of_notMem (hline hln), List.map_singleton]
  | line ln text hln ih =>
    have hsplit : upper (ln ++ 10 :: text) = upper ln ++ 10 :: upper text := List.map_append
    rw [hsplit, lines_append_newline (hline hln), lines_append_newline hln, ih, List.map_cons]

theorem stripCr_upper (ln : Text) : stripCr (upper ln) = upper (stripCr ln) := by
  have hlast : ((upper ln).getLast? == some 13) = (ln.getLast? == some 13) := by
    rw [upper, List.getLast?_map]
    cases ln.getLast? with
    | none => rfl
    | some c => exact (toupper_class c).2.2.2.2 13 (by simp)
  rw [stripCr, stripCr, hlast]
  split_ifs
  · exact (List.map_dropLast ..).symm
  · rfl

theorem stripEnded_upper (ls : List Text) :
    stripEnded (ls.map upper) = (stripEnded ls).map upper := by
  induction ls with
  | nil => rfl
  | cons ln ls ih =>
    cases ls with
    | nil => rfl
    | cons l ls => exact congrArg₂ List.cons (stripCr_upper ln) ih

theorem linesOf_upper (text : Text) : linesOf (upper text) = (linesOf text).map upper := by
  rw [linesOf, lines_upper, stripEnded_upper, linesOf]

theorem takeWhile_digits_upper (s : Text) :
    (upper s).takeWhile isdigit = s.takeWhile isdigit := by
  rw [upper, List.takeWhile_map, isdigit_comp_toupper]
  exact upper_digits fun c hc => List.mem_takeWhile_imp hc

theorem firstInt_upper (s : Text) : firstInt (upper s) = firstInt s := by
  induction s with
  | nil => rfl
  | cons c s ih =>
    obtain ⟨-, -, hdigit, hkeep, hsign⟩ := toupper_class c
    have hnext : (upper s).head?.map isdigit = s.head?.map isdigit := by
      rw [upper, List.head?_map, Option.map_map, isdigit_comp_toupper]
    have hsame : (isdigit c || (c == 45 && (s.head?.map isdigit).getD false)) = true →
        toupper c = c := by
      intro h
      rcases Bool.or_eq_true_iff.mp h with hd | hm
      · exact hkeep hd
      · rw [beq_iff_eq.mp (Bool.and_eq_true_iff.mp hm).1]
        decide
    rw [show upper (c :: s) = toupper c :: upper s from rfl, firstInt, firstInt, hdigit,
      hsign 45 (by simp), hnext, takeWhile_digits_upper, ih]
    split_ifs with hstart
    · rw [hsame hstart]
    · rfl

theorem monthNum_upper (ln : Text) :
    monthNum (upper ln) = ((monthNum ln).1, upper (monthNum ln).2) := by
  have hword : (fun r : Text × Text => wordMonth r.1 != 0) ∘ Prod.map (List.map toupper) (List.map toupper) =
      fun r => wordMonth r.1 != 0 :=
    funext fun r => congrArg (· != 0) (wordMonth_congr (upper_upper r.1))
  rw [monthNum, upper, runs_map, isalpha_comp_toupper, List.find?_map, hword, monthNum]
  cases (runs isalpha ln).find? (fun r => wordMonth r.1 != 0) with
  | none => rfl
  | some r => exact congrArg₂ Prod.mk (wordMonth_congr (upper_upper r.1)) rfl

theorem dayAndYear_upper (s : Text) : dayAndYear (upper s) = dayAndYear s := by
  have hwords : words isdigit (upper s) = words isdigit s := by
    rw [upper, words_map, isdigit_comp_toupper]
    exact (List.map_congr_left fun w hw => upper_digits (mem_words hw).2).trans (List.map_id _)
  rw [dayAndYear, hwords, dayAndYear]

theorem cliDate_upper (ln : Text) : cliDate (upper ln) = cliDate ln := by
  rw [cliDate, cliDate, icontains_upper, monthNum_upper, dayAndYear_upper]

theorem labelled_upper (ln label : Text) : labelled (upper ln) label = labelled ln label := by
  rw [labelled, labelled, ifind_upper]
  cases ifind ln label with
  | none => rfl
  | some pos => exact (congrArg firstInt (List.map_drop ..).symm).trans (firstInt_upper _)

end Scans

section Runs

/-- Two states of the line loop that differ at most in the station. -/
structure SameValues (st st' : CliState) : Prop where
  date : st'.report.date = st.report.date
  field (e : Extreme) : e.field st'.report = e.field st.report
  isCorrected : st'.report.isCorrected = st.report.isCorrected
  inTemperature : st'.inTemperature = st.inTemperature

theorem opensTemperature_upper (ln : Text) : opensTemperature (upper ln) = opensTemperature ln :=
  icontains_upper ln _

theorem closesTemperature_upper (ln : Text) :
    closesTemperature (upper ln) = closesTemperature ln := by
  simp only [closesTemperature, icontains_upper]

theorem cliLine_isCorrected (st : CliState) (ln : Text) :
    (cliLine st ln).report.isCorrected = st.report.isCorrected := by
  simp only [cliLine, cliTemperature, cliHeading]
  split_ifs <;> rfl

theorem SameValues.step {st st' : CliState} (h : SameValues st st') (ln : Text) :
    SameValues (cliLine st ln) (cliLine st' (upper ln)) where
  date := by rw [cliLine_date, cliLine_date, h.date, cliDate_upper]
  field e := by
    rw [cliLine_field, cliLine_field, h.field, h.inTemperature, opensTemperature_upper,
      closesTemperature_upper, icontains_upper, labelled_upper]
  isCorrected := by rw [cliLine_isCorrected, cliLine_isCorrected, h.isCorrected]
  inTemperature := by
    rw [cliLine_inTemperature, cliLine_inTemperature, h.inTemperature, temperatureFlag,
      temperatureFlag, opensTemperature_upper, closesTemperature_upper]

theorem SameValues.run {st st' : CliState} (h : SameValues st st') (ls : List Text) :
    SameValues (ls.foldl cliLine st) ((ls.map upper).foldl cliLine st') := by
  induction ls generalizing st st' with
  | nil => exact h
  | cons ln ls ih => exact ih (h.step ln)

end Runs

theorem sameValues_upper (text : Text) :
    (cliReport (upper text)).date = (cliReport text).date ∧
      (∀ e : Extreme, e.field (cliReport (upper text)) = e.field (cliReport text)) ∧
      (cliReport (upper text)).isCorrected = (cliReport text).isCorrected := by
  have hstart : SameValues (cliStart text) (cliStart (upper text)) := by
    refine ⟨rfl, fun e => by cases e <;> rfl, ?_, rfl⟩
    simp only [cliStart, corrected, icontains_upper]
  have hrun := hstart.run (linesOf text)
  rw [← linesOf_upper] at hrun
  exact ⟨hrun.date, hrun.field, hrun.isCorrected⟩

theorem hasF6Banner_upper (text : Text) : hasF6Banner (upper text) = hasF6Banner text := by
  simp only [hasF6Banner, icontains_upper]

/-- The values of a CLI report do not depend on the case of letters. -/
theorem parseCli_case {text text' : Text} (hcli : hasF6Banner text = false)
    (hcase : text'.map toupper = text.map toupper) :
    (∀ r r', parseCliProductText text = .ok r → parseCliProductText text' = .ok r' →
      r'.date = r.date ∧ r'.tmaxF = r.tmaxF ∧ r'.tminF = r.tminF ∧ r'.isCorrected = r.isCorrected) ∧
    ∀ r, parseCliProductText text = .ok r → r.date ≠ [] ∨ r.tmaxF ≠ none ∨ r.tminF ≠ none →
      ∃ r', parseCliProductText text' = .ok r' := by
  have hupper : upper text' = upper text := hcase
  have hcli' : hasF6Banner text' = false := by
    rw [← hasF6Banner_upper, hupper, hasF6Banner_upper, hcli]
  obtain ⟨hdate, hfield, hcorrected⟩ := sameValues_upper text
  obtain ⟨hdate', hfield', hcorrected'⟩ := sameValues_upper text'
  rw [hupper] at hdate' hfield' hcorrected'
  have hsamedate : (cliReport text').date = (cliReport text).date := hdate'.symm.trans hdate
  have hmax : (cliReport text').tmaxF = (cliReport text).tmaxF :=
    (hfield' .maximum).symm.trans (hfield .maximum)
  have hmin : (cliReport text').tminF = (cliReport text).tminF :=
    (hfield' .minimum).symm.trans (hfield .minimum)
  constructor
  · intro r r' hr hr'
    obtain ⟨rfl, -⟩ := (parseCli_eq_ok_iff hcli).mp hr
    obtain ⟨rfl, -⟩ := (parseCli_eq_ok_iff hcli').mp hr'
    exact ⟨hsamedate, hmax, hmin, hcorrected'.symm.trans hcorrected⟩
  · intro r hr hset
    obtain ⟨rfl, -⟩ := (parseCli_eq_ok_iff hcli).mp hr
    refine ⟨_, (parseCli_eq_ok_iff hcli').mpr ⟨rfl, .inr ?_⟩⟩
    rw [hsamedate, hmax, hmin]
    exact hset

theorem parseCli_case_may : ∃ r', parseCliProductText (ascii "clinyc
for may 16 2026
") = .ok r' := by
  have hdate : (cliReport (ascii "CLINYC
FOR MAY 16 2026
")).date ≠ [] := by decide +kernel
  have hcli : hasF6Banner (ascii "CLINYC
FOR MAY 16 2026
") = false := by decide
  exact (parseCli_case hcli (by decide)).2 _
    ((parseCli_eq_ok_iff hcli).mpr ⟨rfl, .inr (.inl hdate)⟩) (.inl hdate)

end NwsCpp
