import NwsCpp.CliCalendar
import NwsCpp.CliIndexed

/-! The loops over positions stay in range on every text, and compute what the parsers on
suffixes compute. -/

namespace NwsCpp

open Bytes Runs Lines Decimal Scan

namespace Indexed

section Scans

variable {text ln rest hay needle s : Text} {fuel start i j : Nat}

theorem findFrom_none (h : (10 : Byte) ∉ text.drop start) : findFrom text 10 start = none := by
  rw [findFrom, findIdx?_of_notMem h, Option.map_none]

theorem findFrom_some (h : text.drop start = ln ++ 10 :: rest) (hln : (10 : Byte) ∉ ln) :
    findFrom text 10 start = some (start + ln.length) := by
  rw [findFrom, h, findIdx?_append_of_notMem hln, Option.map_some]

theorem stripBack_ok (ln : Text) : stripBack ln = .ok (stripCr ln) := by
  rw [stripBack]
  by_cases hnil : ln = []
  · rw [hnil]
    rfl
  · have hpos := List.length_pos_iff.mpr hnil
    rw [if_neg (by simpa using hnil), get_ok (by omega), Checked.ok_bind, stripCr,
      List.getLast?_eq_some_getLast hnil, List.getLast_eq_getElem]
    rfl

theorem linesFrom_ok (hstart : start ≤ text.length) (hfuel : text.length - start < fuel)
    (out : List Text) :
    linesFrom text fuel start out = .ok (out ++ NwsCpp.linesOf (text.drop start)) := by
  induction fuel generalizing start out with
  | zero => omega
  | succ fuel ih =>
    rw [linesFrom, if_pos hstart]
    by_cases hmem : (10 : Byte) ∈ text.drop start
    · obtain ⟨ln, rest, hsplit, hln⟩ := List.eq_append_cons_of_mem hmem
      have hlength := congrArg List.length hsplit
      rw [List.length_drop, List.length_append, List.length_cons] at hlength
      have hrest : text.drop (start + ln.length + 1) = rest := by
        rw [Nat.add_assoc, ← List.drop_drop, hsplit, ← List.drop_drop, List.drop_left]
        rfl
      have hbetween : between text start (start + ln.length) = .ok ln := by
        rw [between, if_pos ⟨by omega, by omega⟩, hsplit, Nat.add_sub_cancel_left, List.take_left]
      rw [findFrom_some hsplit hln]
      simp only [hbetween, stripBack_ok, Checked.ok_bind]
      rw [ih (by omega) (by omega), hrest, hsplit, linesOf_cons hln, List.append_assoc,
        List.singleton_append]
    · rw [findFrom_none hmem]
      simp only [substrFrom_ok hstart, Checked.ok_bind]
      rw [NwsCpp.linesOf, lines_of_notMem hmem]
      rfl

theorem linesOf_ok (text : Text) : linesOf text = .ok (NwsCpp.linesOf text) :=
  linesFrom_ok (Nat.zero_le _) (by omega) []

theorem imatchFrom_ok (hi : i + needle.length ≤ hay.length) (hfuel : needle.length - j < fuel) :
    imatchFrom hay needle i fuel j = .ok (imatch (needle.drop j) (hay.drop (i + j))) := by
  induction fuel generalizing j with
  | zero => omega
  | succ fuel ih =>
    rw [imatchFrom]
    by_cases hj : j < needle.length
    · rw [if_pos hj, get_ok (by omega), Checked.ok_bind, get_ok hj, Checked.ok_bind,
        List.drop_eq_getElem_cons hj, List.drop_eq_getElem_cons (l := hay) (by omega), imatch]
      by_cases hc : (toupper hay[i + j] == toupper needle[j]) = true
      · rw [if_pos hc, ih (by omega), hc, Bool.true_and, Nat.add_assoc]
      · rw [if_neg hc, Bool.eq_false_iff.mpr hc, Bool.false_and]
    · rw [if_neg hj, List.drop_eq_nil_of_le (by omega), imatch]

theorem length_le_of_imatch (h : imatch needle hay = true) : needle.length ≤ hay.length := by
  obtain ⟨w, post, rfl, hw⟩ := imatch_iff.mp h
  have hlength := congrArg List.length hw
  rw [List.length_map, List.length_map] at hlength
  rw [List.length_append]
  omega

theorem search_imatch_of_lt (h : hay.length < needle.length) : search (imatch needle) hay = none := by
  rw [← Option.not_isSome_iff_eq_none, search_isSome_iff]
  rintro ⟨t, ht, hmatch⟩
  have hle := length_le_of_imatch hmatch
  have hsuffix := ht.length_le
  omega

theorem ifindFrom_ok (hi : i ≤ hay.length) (hfuel : hay.length - i < fuel) :
    ifindFrom hay needle fuel i = .ok ((search (imatch needle) (hay.drop i)).map (i + ·)) := by
  induction fuel generalizing i with
  | zero => omega
  | succ fuel ih =>
    rw [ifindFrom]
    by_cases hfits : i + needle.length ≤ hay.length
    · rw [if_pos hfits, imatchFrom_ok hfits (by omega), Checked.ok_bind, Nat.add_zero, List.drop_zero]
      by_cases hmatch : imatch needle (hay.drop i) = true
      · have hzero : search (imatch needle) (hay.drop i) = some 0 :=
          search_eq_some_iff.mpr ⟨Nat.zero_le _, hmatch, fun j hj => absurd hj (Nat.not_lt_zero j)⟩
        rw [if_pos hmatch, hzero]
        rfl
      · -- Only an empty needle could be sought at the end, and it matches there.
        have hne : needle ≠ [] := by
          rintro rfl
          exact hmatch rfl
        have hpos := List.length_pos_iff.mpr hne
        have hlt : i < hay.length := by omega
        rw [if_neg hmatch, ih (by omega) (by omega)]
        rw [List.drop_eq_getElem_cons hlt] at hmatch ⊢
        rw [search, if_neg hmatch, Option.map_map]
        congr 2
        funext k
        rw [Function.comp_apply]
        omega
    · rw [if_neg hfits, search_imatch_of_lt (by rw [List.length_drop]; omega), Option.map_none]

theorem ifind_ok (hay needle : Text) : ifind hay needle = .ok (NwsCpp.ifind hay needle) := by
  rw [ifind, NwsCpp.ifind]
  by_cases hlong : needle.length > hay.length
  · rw [if_pos hlong, search_imatch_of_lt hlong]
  · rw [if_neg hlong, ifindFrom_ok (Nat.zero_le _) (by omega), List.drop_zero]
    simp

theorem icontains_ok (hay needle : Text) : icontains hay needle = .ok (NwsCpp.icontains hay needle) := by
  rw [icontains, ifind_ok, Checked.ok_bind, NwsCpp.icontains]

theorem icontainsAny_ok (hay : Text) (needles : List Text) :
    icontainsAny hay needles = .ok (needles.any (NwsCpp.icontains hay)) := by
  induction needles with
  | nil => rfl
  | cons needle needles ih =>
    rw [icontainsAny, icontains_ok, Checked.ok_bind, ih, List.any_cons]
    cases NwsCpp.icontains hay needle <;> rfl

theorem startsInt_ok {c : Byte} (h : s.drop i = c :: rest) :
    startsInt s i = .ok (isdigit c || (c == 45 && (rest.head?.map isdigit).getD false)) := by
  have hc : get s i = .ok c := get_append (w := [c]) (k := 0) h Nat.zero_lt_one
  have hlength := congrArg List.length h
  rw [List.length_drop, List.length_cons] at hlength
  rw [startsInt, hc, Checked.ok_bind]
  by_cases hdigit : isdigit c = true
  · rw [if_pos hdigit, hdigit, Bool.true_or]
  · rw [if_neg hdigit, Bool.eq_false_iff.mpr hdigit, Bool.false_or]
    by_cases hminus : c = 45
    · cases rest with
      | nil =>
        rw [if_neg (by simp only [List.length_nil] at hlength; simp; omega)]
        simp
      | cons d rest =>
        have hd : get s (i + 1) = .ok d := get_append (w := [c, d]) (k := 1) h Nat.one_lt_two
        rw [List.length_cons] at hlength
        rw [if_pos (by simp [hminus]; omega), hd, hminus]
        rfl
    · rw [if_neg (by simp [hminus]), beq_eq_false_iff_ne.mpr hminus, Bool.false_and]

theorem firstIntFrom_ok (hfuel : s.length - i < fuel) :
    firstIntFrom s fuel i = .ok (NwsCpp.firstInt (s.drop i)) := by
  induction fuel generalizing i with
  | zero => omega
  | succ fuel ih =>
    rw [firstIntFrom]
    rcases drop_cases s i with ⟨hend, hdrop⟩ | ⟨hlt, c, -, hdrop⟩
    · rw [if_neg (by omega), hdrop, NwsCpp.firstInt]
    · have hnext := ih (i := i + 1) (by omega)
      rw [if_pos hlt, startsInt_ok hdrop, Checked.ok_bind, hnext, hdrop, NwsCpp.firstInt]
      by_cases hstart : (isdigit c ||
          (c == 45 && ((s.drop (i + 1)).head?.map isdigit).getD false)) = true
      · have hsplit : s.drop i = (c :: (s.drop (i + 1)).takeWhile isdigit) ++
            (s.drop (i + 1)).dropWhile isdigit := by
          rw [List.cons_append, List.takeWhile_append_dropWhile, hdrop]
        have htoken := between_append hsplit (List.cons_ne_nil _ _)
        rw [List.length_cons, ← Nat.add_assoc, Nat.add_right_comm] at htoken
        rw [if_pos hstart, if_pos hstart, skipWhile_eq (by omega) (by omega), Checked.ok_bind,
          htoken, Checked.ok_bind]
        cases fromChars (c :: (s.drop (i + 1)).takeWhile isdigit) <;> rfl
      · rw [if_neg hstart, if_neg hstart]

theorem firstInt_ok (s : Text) : firstInt s = .ok (NwsCpp.firstInt s) := firstIntFrom_ok (by omega)

theorem exists_three {α : Type} {w : List α} (h : ¬ w.length < 3) :
    ∃ a b c t, w = a :: b :: c :: t := by
  obtain _ | ⟨a, _ | ⟨b, _ | ⟨c, t⟩⟩⟩ := w
  · exact absurd (by simp) h
  · exact absurd (by simp) h
  · exact absurd (by simp) h
  · exact ⟨a, b, c, t, rfl⟩

theorem monthWord_ok {line w : Text} (h : line.drop i = w ++ rest) (unset : Nat × Nat) :
    monthWord line i (i + w.length) unset =
      .ok (if wordMonth w != 0 then ((wordMonth w, line.length - rest.length), true)
        else (unset, false)) := by
  have hlength := congrArg List.length h
  rw [List.length_drop, List.length_append] at hlength
  rw [monthWord, wordMonth, Nat.add_sub_cancel_left]
  by_cases hshort : w.length < 3
  · rw [if_pos hshort, if_pos hshort]
    rfl
  · have hend : i + w.length = line.length - rest.length := by omega
    rw [if_neg hshort, if_neg hshort, hend]
    obtain ⟨a, b, c, t, rfl⟩ := exists_three hshort
    have ha : get line i = .ok a := get_append (k := 0) h (by simp)
    have hb : get line (i + 1) = .ok b := get_append (k := 1) h (by simp)
    have hc : get line (i + 2) = .ok c := get_append (k := 2) h (by simp)
    have hletters : ((a :: b :: c :: t).take 3).map toupper = [toupper a, toupper b, toupper c] := rfl
    rw [ha, Checked.ok_bind, hb, Checked.ok_bind, hc, Checked.ok_bind, hletters]
    cases kM.findIdx? (· == [toupper a, toupper b, toupper c]) <;> rfl

theorem monthNum_ok (line : Text) : ∃ monthEnd,
    monthNum line = .ok ((NwsCpp.monthNum line).1, monthEnd) ∧
      ((NwsCpp.monthNum line).1 ≠ 0 → line.drop monthEnd = (NwsCpp.monthNum line).2) := by
  have hfuel : line.length - 0 < line.length + 1 := Nat.lt_succ_self _
  have hloop := forRuns_ok (p := isalpha)
    (f := fun st r => if wordMonth r.1 != 0 then ((wordMonth r.1, line.length - r.2.length), true)
      else (st, false))
    (Nat.zero_le 1) (fun i w rest st h _ => monthWord_ok h st) hfuel (0, 0)
  rw [foldUntil_find (fun _ => rfl)] at hloop
  rw [monthNum, hloop, List.drop_zero, NwsCpp.monthNum]
  cases hfind : (runs isalpha line).find? (fun r => wordMonth r.1 != 0) with
  | none => exact ⟨0, rfl, fun h => absurd rfl h⟩
  | some r => exact ⟨_, rfl, fun _ => drop_of_mem_runs (List.mem_of_find?_eq_some hfind)⟩

theorem yearNumber_ok {w : Text} (h : ln.drop i = w ++ rest) (hne : w ≠ []) (year : Int) :
    yearNumber ln i (i + w.length) year =
      .ok (if 1900 ≤ readInt w && readInt w ≤ 2200 then (readInt w, true) else (year, false)) := by
  rw [yearNumber, between_append h hne, Checked.ok_bind]

theorem cf6Year_ok (ln : Text) : cf6Year ln = .ok (NwsCpp.cf6Year ln) := by
  have hfuel : ln.length - 0 < ln.length + 1 := Nat.lt_succ_self _
  have hloop := forRuns_ok (p := isdigit)
    (f := fun year r => if 1900 ≤ readInt r.1 && readInt r.1 ≤ 2200 then (readInt r.1, true)
      else (year, false))
    le_rfl (fun i w rest st h hne => yearNumber_ok h hne st) hfuel 0
  rw [foldUntil_find (fun _ => rfl)] at hloop
  rw [cf6Year, hloop, List.drop_zero, NwsCpp.cf6Year, words, List.map_map, List.find?_map]
  rfl

theorem tokens_ok (ln : Text) (i : Nat) :
    tokens ln i = .ok (words (fun c => !isspace c) (ln.drop i)) := by
  have hfuel : ln.length - i < ln.length + 1 := by omega
  have hbody : ∀ i w rest toks, ln.drop i = w ++ rest → w ≠ [] →
      pushToken ln i (i + w.length) toks = .ok (toks ++ [w], false) := by
    intro i w rest toks h hne
    rw [pushToken, between_append h hne, Checked.ok_bind]
  have hloop := forRuns_ok (p := fun c => !isspace c) (f := fun toks r => (toks ++ [r.1], false))
    (Nat.zero_le 1) hbody hfuel []
  rw [foldUntil_never (fun _ _ => rfl)] at hloop
  rw [tokens, hloop, words, List.foldl_append_eq_append, List.nil_append, ← List.flatMap_def,
    ← List.map_eq_flatMap]

theorem dayAndYear_ok (ln : Text) (i : Nat) :
    dayAndYear ln i = .ok (NwsCpp.dayAndYear (ln.drop i)) := by
  have hfuel : ln.length - i < ln.length + 1 := by omega
  have hbody : ∀ i w rest acc, ln.drop i = w ++ rest → w ≠ [] →
      pushNumber ln i (i + w.length) acc = .ok (dateNumber acc (readInt w), false) := by
    intro i w rest acc h hne
    rw [pushNumber, between_append h hne, Checked.ok_bind]
  have hloop := forRuns_ok (p := isdigit) (f := fun acc r => (dateNumber acc (readInt r.1), false))
    le_rfl hbody hfuel (none, none)
  rw [foldUntil_never (fun _ _ => rfl)] at hloop
  rw [dayAndYear, hloop, NwsCpp.dayAndYear, words, List.map_map, List.foldl_map]
  rfl

end Scans

section Cf6

variable {ln : Text}

theorem corrected_ok (text : Text) : corrected text = .ok (NwsCpp.corrected text) := by
  rw [corrected, icontainsAny_ok, List.any_cons, List.any_cons, List.any_nil, Bool.or_false,
    NwsCpp.corrected]

theorem isoDate_ok {year day : Int} {month : Nat} (h : InRange year month day) :
    isoDate year month day = .ok (NwsCpp.isoDate year month day) := by
  obtain ⟨hlength, -⟩ := h.printed
  rw [isoDate, NwsCpp.isoDate, if_pos (by omega), List.take_of_length_le hlength.le]

theorem cf6Station_ok (ln : Text) : cf6Station ln = .ok (NwsCpp.cf6Station ln) := by
  rw [cf6Station, NwsCpp.cf6Station]
  cases find ln (ascii "CF6") with
  | none => rfl
  | some pos =>
    simp only
    by_cases hfits : pos + 6 ≤ ln.length
    · rw [if_pos hfits, if_pos hfits, substr_ok (by omega), Checked.ok_bind]
      rfl
    · rw [if_neg hfits, if_neg hfits]

theorem readStation_ok (st : Cf6State) (ln : Text) : readStation st ln =
    .ok (if st.station3letter.isEmpty then { st with station3letter := NwsCpp.cf6Station ln }
      else st) := by
  rw [readStation, cf6Station_ok, Checked.ok_bind]
  split_ifs <;> rfl

theorem readMonth_ok (st : Cf6State) (ln : Text) : readMonth st ln =
    .ok (if st.month == 0 && NwsCpp.icontains ln (ascii "MONTH:") &&
        (NwsCpp.monthNum ln).1 != 0 then
        { st with month := (NwsCpp.monthNum ln).1 }
      else st) := by
  obtain ⟨monthEnd, hmonth, -⟩ := monthNum_ok ln
  rw [readMonth, icontains_ok, Checked.ok_bind, hmonth, Checked.ok_bind]
  cases st.month == 0
  · rfl
  · cases NwsCpp.icontains ln (ascii "MONTH:") <;> rfl

theorem readYear_ok (st : Cf6State) (ln : Text) : readYear st ln =
    .ok (if st.year == 0 && NwsCpp.icontains ln (ascii "YEAR:") then
        { st with year := NwsCpp.cf6Year ln }
      else st) := by
  rw [readYear, icontains_ok, Checked.ok_bind, cf6Year_ok, Checked.ok_bind]
  cases st.year == 0
  · rfl
  · cases NwsCpp.icontains ln (ascii "YEAR:") <;> rfl

theorem cf6Metadata_ok (st : Cf6State) (ln : Text) :
    cf6Metadata st ln = .ok (NwsCpp.cf6Metadata st ln) := by
  rw [cf6Metadata, readStation_ok, Checked.ok_bind, readMonth_ok, Checked.ok_bind, readYear_ok]
  rfl

theorem cf6Row_ok (st : Cf6State) (toks : List Text) :
    cf6Row st toks = .ok (NwsCpp.cf6Row st toks) := by
  rw [cf6Row]
  by_cases hshort : toks.length < 3
  · rw [if_pos hshort, NwsCpp.cf6Row]
    intro t0 t1 t2 more he
    rw [he] at hshort
    simp only [List.length_cons] at hshort
    omega
  · obtain ⟨t0, t1, t2, more, rfl⟩ := exists_three hshort
    have h0 : get (t0 :: t1 :: t2 :: more) 0 = .ok t0 := rfl
    have h1 : get (t0 :: t1 :: t2 :: more) 1 = .ok t1 := rfl
    have h2 : get (t0 :: t1 :: t2 :: more) 2 = .ok t2 := rfl
    rw [if_neg hshort, h0, Checked.ok_bind, NwsCpp.cf6Row]
    cases fromChars t0 with
    | invalid => rfl
    | outOfRange rest => rfl
    | ok day rest =>
      simp only
      by_cases hday : day < 1 ∨ day > 31
      · rw [if_pos hday, if_pos hday]
      · rw [if_neg hday, if_neg hday, h1, Checked.ok_bind, h2, Checked.ok_bind]

theorem cf6Table_ok (st : Cf6State) (ln : Text) :
    cf6Table st ln = .ok (NwsCpp.cf6Table st ln) := by
  have hskip := drop_skip isspace ln 0
  have hspaces := (List.takeWhile_prefix isspace (l := ln)).length_le
  rw [cf6Table, NwsCpp.cf6Table, skipWhile_eq (Nat.zero_le _) (by omega), Checked.ok_bind]
  rw [List.drop_zero, Nat.zero_add] at hskip ⊢
  by_cases hpast : (!st.pastDataHeader) = true
  · rw [if_pos hpast, if_pos hpast]
  · rw [if_neg hpast, if_neg hpast, ← hskip]
    rcases drop_cases ln (ln.takeWhile isspace).length with ⟨hend, hdrop⟩ | ⟨hlt, c, hget, hdrop⟩
    · rw [if_pos hend, hdrop]
      rfl
    · rw [if_neg (by omega), hget, Checked.ok_bind, cf6Body, substrFrom_ok hspaces, Checked.ok_bind,
        tokens_ok, Checked.ok_bind, cf6Row_ok, Checked.ok_bind]
      simp only [hdrop, List.isEmpty_cons, List.head?_cons, Bool.false_or, Option.some_beq_some]
      by_cases hrule : (c == 61) = true
      · rw [if_pos hrule, if_pos hrule]
      · rw [if_neg hrule, if_neg hrule]
        split_ifs <;> rfl

theorem cf6Loop_ok (st : Cf6State) (ls : List Text) : cf6Loop st ls = .ok (NwsCpp.cf6Loop st ls) := by
  induction ls generalizing st with
  | nil => rfl
  | cons ln ls ih =>
    rw [cf6Loop, cf6Metadata_ok, Checked.ok_bind, cf6Table_ok, Checked.ok_bind, NwsCpp.cf6Loop, ih]
    rcases NwsCpp.cf6Table (NwsCpp.cf6Metadata st ln) ln with ⟨next, _ | _⟩ <;> rfl

theorem parseCf6ProductText_ok (text : Text) :
    parseCf6ProductText text = .ok (NwsCpp.parseCf6ProductText text) := by
  rw [parseCf6ProductText, icontains_ok, Checked.ok_bind, corrected_ok, Checked.ok_bind, linesOf_ok,
    Checked.ok_bind, cf6Loop_ok, Checked.ok_bind, NwsCpp.parseCf6ProductText]
  have hvalid := cf6Loop_valid (NwsCpp.linesOf text)
  generalize NwsCpp.cf6Loop {} (NwsCpp.linesOf text) = st at hvalid ⊢
  by_cases hunset : st.month = 0 ∨ st.year = 0 ∨ st.bestDay = 0
  · rw [if_pos hunset, if_pos hunset]
  · rw [if_neg hunset, if_neg hunset, isoDate_ok (hvalid.inRange hunset), Checked.ok_bind]

end Cf6

section Cli

theorem isIcao_ok (cand : Text) : isIcao cand =
    .ok (cand.length == 4 && cand.head? == some 75 && cand.tail.all isupper) := by
  rw [isIcao]
  by_cases hlength : (cand.length == 4) = true
  · cases cand with
    | nil => cases hlength
    | cons k cand =>
      have hk : get (k :: cand) 0 = .ok k := rfl
      rw [if_pos hlength, hlength, hk, Checked.ok_bind, Bool.true_and, List.head?_cons,
        Option.some_beq_some, List.tail_cons]
      by_cases hicao : (k == 75) = true
      · rw [if_pos hicao, hicao, allFrom_eq (by omega), Bool.true_and]
        rfl
      · rw [if_neg hicao, Bool.eq_false_iff.mpr hicao, Bool.false_and]
  · rw [if_neg hlength, Bool.eq_false_iff.mpr hlength, Bool.false_and, Bool.false_and]

theorem cliStation_ok (ln : Text) : cliStation ln = .ok (NwsCpp.cliStation ln) := by
  rw [cliStation, NwsCpp.cliStation]
  cases find ln (ascii " K") with
  | none => rfl
  | some kpos =>
    simp only
    by_cases hfits : kpos + 5 ≤ ln.length
    · rw [if_pos hfits, if_pos hfits, substr_ok (by omega), Checked.ok_bind, isIcao_ok,
        Checked.ok_bind]
      rfl
    · rw [if_neg hfits, if_neg hfits]

theorem labelled_ok {ln label : Text} (h : NwsCpp.icontains ln label = true) :
    labelled ln label = .ok (NwsCpp.labelled ln label) := by
  rw [labelled, ifind_ok, Checked.ok_bind, NwsCpp.labelled]
  rw [NwsCpp.icontains] at h
  cases hfind : NwsCpp.ifind ln label with
  | none =>
    rw [hfind] at h
    cases h
  | some pos =>
    obtain ⟨hpos, hmatch, -⟩ := search_eq_some_iff.mp hfind
    have hle := length_le_of_imatch hmatch
    rw [List.length_drop] at hle
    simp only
    rw [substrFrom_ok (by omega), Checked.ok_bind, firstInt_ok]

theorem readTemperature_ok (inTemperature : Bool) (old : Option Int) (ln label : Text) :
    readTemperature inTemperature old ln label =
      .ok (if inTemperature && old.isNone && NwsCpp.icontains ln label then NwsCpp.labelled ln label
        else old) := by
  rw [readTemperature, icontains_ok, Checked.ok_bind]
  cases inTemperature && old.isNone
  · rfl
  · by_cases hnamed : NwsCpp.icontains ln label = true
    · rw [if_pos rfl, if_pos hnamed, labelled_ok hnamed, hnamed]
      rfl
    · rw [if_pos rfl, if_neg hnamed, Bool.eq_false_iff.mpr hnamed]
      rfl

theorem cliDate_ok (ln : Text) : cliDate ln = .ok (NwsCpp.cliDate ln) := by
  obtain ⟨monthEnd, hmonth, hrest⟩ := monthNum_ok ln
  rw [cliDate, icontains_ok, Checked.ok_bind, hmonth, Checked.ok_bind, NwsCpp.cliDate,
    dayAndYear_ok, Checked.ok_bind]
  by_cases hnamed : NwsCpp.icontains ln (ascii "FOR ") = true
  · rw [if_pos hnamed, hnamed, Bool.true_and]
    by_cases hne : ((NwsCpp.monthNum ln).1 != 0) = true
    · rw [if_pos hne, if_pos hne]
      rw [bne_iff_ne] at hne
      rw [hrest hne]
      cases hnumbers : NwsCpp.dayAndYear (NwsCpp.monthNum ln).2 with
      | mk dd yyyy =>
        cases dd with
        | none => rfl
        | some dd =>
          cases yyyy with
          | none => rfl
          | some yyyy => exact isoDate_ok (inRange_of_dayAndYear hne hnumbers)
    · rw [if_neg hne, if_neg hne]
  · rw [if_neg hnamed, Bool.eq_false_iff.mpr hnamed]
    rfl

theorem cliHeading_ok (r : CliReport) (ln : Text) :
    cliHeading r ln = .ok (NwsCpp.cliHeading r ln) := by
  rw [cliHeading, cliStation_ok, cliDate_ok, NwsCpp.cliHeading]
  cases hstation : r.station.isEmpty
  all_goals
    cases hdate : r.date.isEmpty
    all_goals
      simp only [if_true, Bool.false_eq_true, if_false, Checked.ok_bind, hdate]

theorem cliTemperature_ok (st : CliState) (ln : Text) :
    cliTemperature st ln = .ok (NwsCpp.cliTemperature st ln) := by
  rw [cliTemperature, icontains_ok, Checked.ok_bind, NwsCpp.cliTemperature]
  by_cases hopens : NwsCpp.icontains ln (ascii "TEMPERATURE") = true
  · rw [if_pos hopens, if_pos hopens]
  · rw [if_neg hopens, if_neg hopens]
    simp only [icontainsAny_ok, List.any_cons, List.any_nil, Bool.or_false, readTemperature_ok,
      ← Bool.or_assoc]
    cases st.inTemperature with
    | false => rfl
    | true =>
      simp only [if_true, Checked.ok_bind]
      split_ifs <;> rfl

theorem cliLine_ok (st : CliState) (ln : Text) : cliLine st ln = .ok (NwsCpp.cliLine st ln) := by
  rw [cliLine, cliHeading_ok, Checked.ok_bind, cliTemperature_ok, NwsCpp.cliLine]

theorem parseCliProductText_ok (text : Text) :
    parseCliProductText text = .ok (NwsCpp.parseCliProductText text) := by
  have hbanner : icontainsAny text [ascii "WS FORM: F-6", ascii "WS FORM F-6", ascii "WS FORM:  F-6"] =
      .ok (hasF6Banner text) := by
    rw [icontainsAny_ok, List.any_cons, List.any_cons, List.any_cons, List.any_nil, Bool.or_false,
      ← Bool.or_assoc, hasF6Banner]
  rw [parseCliProductText, NwsCpp.parseCliProductText, hbanner, Checked.ok_bind]
  by_cases hempty : text.isEmpty = true
  · rw [if_pos hempty, if_pos hempty]
  · rw [if_neg hempty, if_neg hempty]
    by_cases hcf6 : hasF6Banner text = true
    · rw [if_pos hcf6, if_pos hcf6, parseCf6ProductText_ok]
    · rw [if_neg hcf6, if_neg hcf6, corrected_ok, Checked.ok_bind, linesOf_ok, Checked.ok_bind,
        foldlM_ok cliLine_ok, Checked.ok_bind]
      rfl

end Cli

end Indexed

/-- On every text the parser ends without an access out of range or a date that is cut, and
a report has its fields in range: all of them in the CF6 branch, some of them in the CLI
branch. -/
theorem parseCli_safe (text : Text) :
    Indexed.parseCliProductText text = .ok (parseCliProductText text) ∧
      ∀ r, parseCliProductText text = .ok r →
        (r.date = [] ∨ IsCalendarDate r.date) ∧
          (hasF6Banner text = true → r.date ≠ [] ∧ r.tmaxF.isSome = true ∧ r.tminF.isSome = true) ∧
          (hasF6Banner text = false → r.Informative) := by
  refine ⟨Indexed.parseCliProductText_ok text, fun r hr => ?_⟩
  by_cases hcf6 : hasF6Banner text = true
  · have hreport : IsCalendarDate r.date ∧ r.tmaxF.isSome = true ∧ r.tminF.isSome = true := by
      rw [parseCliProductText] at hr
      split_ifs at hr
      exact parseCf6_report hr
    refine ⟨.inr hreport.1, fun _ => ⟨?_, hreport.2⟩, fun hcli => ?_⟩
    · obtain ⟨year, month, day, hdate, -⟩ := hreport.1
      rw [hdate]
      simp
    · rw [hcf6] at hcli
      cases hcli
  · have hcli := Bool.eq_false_iff.mpr hcf6
    obtain ⟨rfl, hinformative⟩ := (parseCli_eq_ok_iff hcli).mp hr
    exact ⟨cliReport_date_empty_or_calendar text, fun h => absurd h hcf6, fun _ => hinformative⟩

end NwsCpp
