import NwsCpp.CliReport

/-! Which word of a line `month_num` takes for the month. -/

namespace NwsCpp

open Bytes Runs Lines Decimal

section MonthWords

theorem wordMonth_congr {w v : Text} (h : w.map toupper = v.map toupper) :
    wordMonth w = wordMonth v := by
  have hlen : w.length = v.length := by simpa using congrArg List.length h
  simp only [wordMonth, hlen, List.map_take, h]

theorem wordMonth_of_take {w v : Text} (hw : 3 ≤ w.length) (hv : 3 ≤ v.length)
    (h : w.take 3 = v.take 3) : wordMonth w = wordMonth v := by
  simp [wordMonth, h, hw.not_gt, hv.not_gt]

theorem wordMonth_le (w : Text) : wordMonth w ≤ 12 := by
  rw [wordMonth]
  split
  · omega
  · cases h : kM.findIdx? (· == (w.take 3).map toupper) with
    | none => simp
    | some i =>
      have hi : i < kM.length := (List.findIdx?_eq_some_iff_findIdx_eq.mp h).1
      have : kM.length = 12 := rfl
      simp only [Option.map_some, Option.getD_some]
      omega

theorem wordMonth_eq_zero_of_letter {w : Text} {i : Nat} {c : Byte}
    (hi : ((w.take 3).map toupper)[i]? = some c) (hk : ∀ k ∈ kM, k[i]? ≠ some c) :
    wordMonth w = 0 := by
  have hnone : kM.findIdx? (· == (w.take 3).map toupper) = none := by
    rw [List.findIdx?_eq_none_iff]
    intro k hkm
    refine beq_eq_false_iff_ne.mpr fun he => hk k hkm ?_
    rw [he, hi]
  rw [wordMonth, hnone]
  simp

/-- No month word ends in the letters that open `FOR`. -/
theorem wordMonth_append_for {f : Text} (hf : f.map toupper = ascii "FOR") (w : Text) :
    wordMonth (w ++ f) = wordMonth w := by
  have hlen : f.length = 3 := by simpa [ascii] using congrArg List.length hf
  by_cases h3 : 3 ≤ w.length
  · exact wordMonth_of_take (by simp; omega) h3 (List.take_append_of_le_length h3)
  have hzero : wordMonth w = 0 := by simp [wordMonth, Nat.lt_of_not_le h3]
  rw [hzero]
  cases w with
  | nil => exact (wordMonth_congr (v := ascii "FOR") (hf.trans (by decide))).trans (by decide)
  | cons a w =>
    cases w with
    | nil =>
      refine wordMonth_eq_zero_of_letter (i := 1) (c := 70) ?_ (by decide)
      simp [List.map_take, hf, ascii]
    | cons b w =>
      cases w with
      | nil =>
        refine wordMonth_eq_zero_of_letter (i := 2) (c := 70) ?_ (by decide)
        simp [List.map_take, hf, ascii]
      | cons c w => exact absurd (by simp) h3

theorem isalpha_of_map_toupper {w v : Text} (h : w.map toupper = v)
    (hv : ∀ c ∈ v, isupper c = true) : ∀ c ∈ w, isalpha c = true := by
  intro c hc
  rw [← isupper_toupper_iff]
  exact hv _ (h ▸ List.mem_map_of_mem hc)

end MonthWords

section MonthScan

theorem monthNum_le (line : Text) : (monthNum line).1 ≤ 12 := by
  rw [monthNum]
  split
  · exact wordMonth_le _
  · omega

/-- Two scans side by side: the second counts only when the first finds nothing. -/
theorem monthNum_of_runs_append {s t t' u : Text}
    (h : runs isalpha u =
      (runs isalpha s).map (fun r : Text × Text => (r.1, r.2 ++ t)) ++ runs isalpha t') :
    monthNum u = if (monthNum s).1 = 0 then monthNum t'
      else ((monthNum s).1, (monthNum s).2 ++ t) := by
  have hu : (runs isalpha u).find? (fun r => wordMonth r.1 != 0) =
      (((runs isalpha s).find? fun r => wordMonth r.1 != 0).map fun r => (r.1, r.2 ++ t)).or
        ((runs isalpha t').find? fun r => wordMonth r.1 != 0) := by
    rw [h, List.find?_append, List.find?_map]
    rfl
  cases hs : (runs isalpha s).find? (fun r => wordMonth r.1 != 0) with
  | none =>
    simp only [if_true, monthNum, hu, hs, Option.map_none, Option.none_or]
  | some r =>
    have hr : wordMonth r.1 ≠ 0 := by simpa using List.find?_some hs
    simp only [hr, if_false, monthNum, hu, hs, Option.map_some, Option.some_or]

theorem monthNum_append_sep {c : Byte} (hc : isalpha c = false) (s t : Text) :
    monthNum (s ++ c :: t) = if (monthNum s).1 = 0 then monthNum t
      else ((monthNum s).1, (monthNum s).2 ++ c :: t) :=
  monthNum_of_runs_append (runs_append_sep hc s t)

theorem monthNum_append_of_last {s : Text} (hs : ∀ c, s.getLast? = some c → isalpha c = false)
    (t : Text) : monthNum (s ++ t) = if (monthNum s).1 = 0 then monthNum t
      else ((monthNum s).1, (monthNum s).2 ++ t) :=
  monthNum_of_runs_append (runs_append_of_last hs t)

theorem monthNum_word {w rest : Text} (hne : w ≠ []) (hw : ∀ c ∈ w, isalpha c = true)
    (hrest : ∀ c, rest.head? = some c → isalpha c = false) (hm : wordMonth w ≠ 0) :
    monthNum (w ++ rest) = (wordMonth w, rest) := by
  simp [monthNum, runs_append_run hne hw hrest, hm]

theorem monthNum_letters {w : Text} (hw : ∀ c ∈ w, isalpha c = true) :
    monthNum w = (wordMonth w, []) := by
  by_cases hne : w = []
  · subst hne
    rfl
  have hruns : runs isalpha w = [(w, [])] := runs_of_all hne hw
  by_cases hm : wordMonth w = 0
  · simp [monthNum, hruns, hm]
  · simp [monthNum, hruns, hm]

theorem monthNum_snd_of_zero {s : Text} (h : (monthNum s).1 = 0) : (monthNum s).2 = [] := by
  rw [monthNum] at h ⊢
  split at h
  · rename_i r hr
    have hne : wordMonth r.1 ≠ 0 := by simpa using List.find?_some hr
    exact absurd h hne
  · rfl

theorem monthNum_append_for {f : Text} (hf : f.map toupper = ascii "FOR") (s : Text) :
    (monthNum (s ++ f)).1 = (monthNum s).1 ∧
      words isdigit (monthNum (s ++ f)).2 = words isdigit (monthNum s).2 := by
  have hfa : ∀ c ∈ f, isalpha c = true := isalpha_of_map_toupper hf (by decide)
  have hfd : ∀ c ∈ f, isdigit c = false := by
    intro c hc
    cases hd : isdigit c with
    | false => rfl
    | true => exact absurd (hfa c hc) (by simp [isdigit_not_isalpha hd])
  obtain ⟨pre, w, rfl, hw, hpre⟩ := exists_last_run isalpha s
  rw [List.append_assoc, monthNum_append_of_last hpre, monthNum_append_of_last hpre]
  by_cases h0 : (monthNum pre).1 = 0
  · have hwf : ∀ c ∈ w ++ f, isalpha c = true := by
      intro c hc
      rcases List.mem_append.mp hc with hc | hc
      · exact hw c hc
      · exact hfa c hc
    simp only [h0, if_true, monthNum_letters hw, monthNum_letters hwf, wordMonth_append_for hf,
      and_self]
  · simp only [h0, if_false, ← List.append_assoc, words_append_none_right _ hfd, and_self]

end MonthScan

end NwsCpp
