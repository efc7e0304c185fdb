import NwsCpp.CliTemperature

/-! Text after a CLI product never changes a value that the product has set. -/

namespace NwsCpp

open Bytes Lines

theorem icontains_nil {needle : Text} (h : needle ≠ []) : icontains [] needle = false := by
  rw [Bool.eq_false_iff, Ne, icontains_iff]
  rintro ⟨pre, w, post, hsplit, hw⟩
  obtain ⟨rfl, rfl⟩ := List.append_eq_nil_iff.mp (List.append_eq_nil_iff.mp hsplit.symm).2
  exact h (List.map_eq_nil_iff.mp hw.symm)

theorem cliLine_nil (st : CliState) : cliLine st [] = st := by
  have hheading : cliHeading st.report [] = st.report := by
    have hstation : cliStation [] = [] := by decide
    have hdate : cliDate [] = [] := by decide
    obtain ⟨⟨station, date, tmaxF, tminF, preliminary, isCorrected, source, issuance⟩, flag⟩ := st
    rw [cliHeading, hstation, hdate]
    cases station <;> cases date <;> rfl
  rw [cliLine, hheading, cliTemperature, icontains_nil (by decide),
    icontains_nil (by decide), icontains_nil (by decide),
    icontains_nil (by decide), icontains_nil (by decide),
    icontains_nil (by decide)]
  simp

theorem linesOf_append {a : Text} (h : a.getLast? = some 10) :
    ∃ ls, linesOf a = ls ++ [[]] ∧ ∀ b, linesOf (a ++ b) = ls ++ linesOf b := by
  induction a using line_induction with
  | last ln hln => exact (hln (List.mem_of_getLast? h)).elim
  | line ln text hln ih =>
    by_cases hempty : text = []
    · subst hempty
      refine ⟨[stripCr ln], linesOf_cons hln [], fun b => ?_⟩
      rw [List.append_assoc]
      exact linesOf_cons hln b
    · have hlast : text.getLast? = some 10 := by
        have hsplit : ln ++ 10 :: text = (ln ++ [10]) ++ text := by rw [List.append_assoc]; rfl
        rw [← h, hsplit, List.getLast?_append_of_ne_nil _ hempty]
      obtain ⟨ls, hls, hrest⟩ := ih hlast
      refine ⟨stripCr ln :: ls, by rw [linesOf_cons hln, hls]; rfl, fun b => ?_⟩
      rw [List.append_assoc, List.cons_append, linesOf_cons hln, hrest, List.cons_append]

/-- A temperature depends on nothing else that the line loop starts with. -/
theorem foldl_field_congr (e : Extreme) {st st' : CliState}
    (hfield : e.field st'.report = e.field st.report) (hflag : st'.inTemperature = st.inTemperature)
    (ls : List Text) :
    e.field (ls.foldl cliLine st').report = e.field (ls.foldl cliLine st).report := by
  induction ls generalizing st st' with
  | nil => exact hfield
  | cons ln ls ih =>
    refine ih ?_ ?_
    · rw [cliLine_field, cliLine_field, hfield, hflag]
    · rw [cliLine_inTemperature, cliLine_inTemperature, hflag]

/-- The values of `r` that are set are those of `r'`. -/
structure Settles (r r' : CliReport) : Prop where
  station : r.station ≠ [] → r'.station = r.station
  date : r.date ≠ [] → r'.date = r.date
  field (e : Extreme) : e.field r ≠ none → e.field r' = e.field r

theorem settles_foldl (st : CliState) (ls : List Text) :
    Settles st.report (ls.foldl cliLine st).report where
  station h := by rw [foldl_cliLine_station, if_neg (by simpa using h)]
  date h := by rw [foldl_cliLine_date, if_neg (by simpa using h)]
  field e h := by
    refine List.foldlRecOn (motive := fun s => e.field s.report = e.field st.report) ls cliLine rfl ?_
    intro s hs ln _
    rw [cliLine_field, if_neg, hs]
    rw [hs]
    exact fun hnone => h hnone.2.2.2.1

theorem Settles.informative {r r' : CliReport} (h : Settles r r') (hr : r.Informative) :
    r'.Informative := by
  rcases hr with hset | hset | hset | hset
  · exact .inl (ne_of_eq_of_ne (h.station hset) hset)
  · exact .inr (.inl (ne_of_eq_of_ne (h.date hset) hset))
  · exact .inr (.inr (.inl (ne_of_eq_of_ne (h.field .maximum hset) hset)))
  · exact .inr (.inr (.inr (ne_of_eq_of_ne (h.field .minimum hset) hset)))

theorem hasF6Banner_of_append {a b : Text} (h : hasF6Banner (a ++ b) = false) :
    hasF6Banner a = false := by
  have hmono {needle : Text} (hab : icontains (a ++ b) needle = false) : icontains a needle = false := by
    rw [Bool.eq_false_iff, Ne, icontains_iff] at hab ⊢
    rintro ⟨pre, w, post, rfl, hw⟩
    exact hab ⟨pre, w, post ++ b, by simp, hw⟩
  simp only [hasF6Banner, Bool.or_eq_false_iff] at h ⊢
  exact ⟨⟨hmono h.1.1, hmono h.1.2⟩, hmono h.2⟩

theorem settles_append {a : Text} (h : a.getLast? = some 10) (b : Text) :
    Settles (cliReport a) (cliReport (a ++ b)) := by
  obtain ⟨ls, hls, hrest⟩ := linesOf_append h
  have hleft : cliReport a = (ls.foldl cliLine (cliStart a)).report := by
    rw [cliReport, hls, List.foldl_append, List.foldl_cons, List.foldl_nil, cliLine_nil]
  have hkeep := settles_foldl (ls.foldl cliLine (cliStart (a ++ b))) (linesOf b)
  rw [← List.foldl_append, ← hrest, ← cliReport] at hkeep
  have hstation : (ls.foldl cliLine (cliStart (a ++ b))).report.station = (cliReport a).station := by
    rw [hleft, foldl_cliLine_station, foldl_cliLine_station]
    rfl
  have hdate : (ls.foldl cliLine (cliStart (a ++ b))).report.date = (cliReport a).date := by
    rw [hleft, foldl_cliLine_date, foldl_cliLine_date]
    rfl
  have hfield (e : Extreme) :
      e.field (ls.foldl cliLine (cliStart (a ++ b))).report = e.field (cliReport a) := by
    have hstart : e.field (cliStart (a ++ b)).report = e.field (cliStart a).report := by
      cases e <;> rfl
    rw [hleft]
    exact foldl_field_congr e hstart rfl ls
  exact ⟨fun h => hstation ▸ hkeep.station (hstation ▸ h), fun h => hdate ▸ hkeep.date (hdate ▸ h),
    fun e h => hfield e ▸ hkeep.field e (hfield e ▸ h)⟩

/-- Appended text keeps a CLI product parsing and every value that was set. -/
theorem parseCli_append {a b : Text} (hend : a.getLast? = some 10)
    (hcli : hasF6Banner (a ++ b) = false) {r : CliReport} (hr : parseCliProductText a = .ok r) :
    ∃ r', parseCliProductText (a ++ b) = .ok r' ∧
      (r.station ≠ [] → r'.station = r.station) ∧ (r.date ≠ [] → r'.date = r.date) ∧
      (r.tmaxF ≠ none → r'.tmaxF = r.tmaxF) ∧ (r.tminF ≠ none → r'.tminF = r.tminF) := by
  obtain ⟨rfl, hinformative⟩ := (parseCli_eq_ok_iff (hasF6Banner_of_append hcli)).mp hr
  have hsettles := settles_append hend b
  exact ⟨_, (parseCli_eq_ok_iff hcli).mpr ⟨rfl, hsettles.informative hinformative⟩,
    hsettles.station, hsettles.date, hsettles.field .maximum, hsettles.field .minimum⟩

theorem parseCli_append_second_summary :
    ∃ r', parseCliProductText (ascii "FOR MAY 16 2026
" ++ ascii "FOR JUNE 1 2025") = .ok r' ∧
      r'.date = ascii "2026-05-16" := by
  have hcli : hasF6Banner (ascii "FOR MAY 16 2026
" ++ ascii "FOR JUNE 1 2025") = false := by
    decide
  have hdate : (cliReport (ascii "FOR MAY 16 2026
")).date = ascii "2026-05-16" := by decide +kernel
  have hne : (cliReport (ascii "FOR MAY 16 2026
")).date ≠ [] := by decide +kernel
  obtain ⟨r', hr', -, hkeep, -⟩ := parseCli_append (by decide +kernel) hcli
    ((parseCli_eq_ok_iff (hasF6Banner_of_append hcli)).mpr ⟨rfl, .inr (.inl hne)⟩)
  exact ⟨r', hr', (hkeep hne).trans hdate⟩

end NwsCpp
