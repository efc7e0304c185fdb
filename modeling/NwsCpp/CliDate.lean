import NwsCpp.CliLines
import NwsCpp.MonthScan

/-! The settlement date of a CLI product: month, day and year that the line loop
takes from the first line with `FOR `. -/

namespace NwsCpp

open Bytes Runs Lines Decimal

section Spec

def englishMonths : List Text :=
  ["JANUARY", "FEBRUARY", "MARCH", "APRIL", "MAY", "JUNE", "JULY", "AUGUST", "SEPTEMBER",
    "OCTOBER", "NOVEMBER", "DECEMBER"].map ascii

/-- `w` is the full or three-letter name of month `m`, in any case. -/
def NamesMonth (w : Text) (m : Nat) : Prop :=
  ∃ i : Fin 12, m = i + 1 ∧
    (w.map toupper = englishMonths[i]! ∨ w.map toupper = (englishMonths[i]!).take 3)

def isoDay (y m d : Nat) : Text :=
  [digit (y / 1000), digit (y / 100 % 10), digit (y / 10 % 10), digit (y % 10), 45,
    digit (m / 10), digit (m % 10), 45, digit (d / 10), digit (d % 10)]

/-- The pieces of a settlement line: any text, `FOR `, a month, a day and a year
set apart by single spaces, and a rest that extends neither word nor number. -/
structure SettlementLine where
  pre : Text
  forWord : Text
  month : Text
  day : Text
  year : Text
  post : Text
  m : Nat
  d : Nat
  y : Nat
  pre_free : icontains pre (ascii "FOR ") = false
  for_word : forWord.map toupper = ascii "FOR "
  month_name : NamesMonth month m
  day_decimal : IsDecimal day d
  day_range : 1 ≤ d ∧ d ≤ 31
  year_decimal : IsDecimal year y
  year_range : 1900 ≤ y ∧ y ≤ 2200
  post_stop : ∀ c, post.head? = some c → isdigit c = false ∧ isalpha c = false

def SettlementLine.text (l : SettlementLine) : Text :=
  l.pre ++ l.forWord ++ l.month ++ 32 :: l.day ++ 32 :: l.year ++ l.post

def FirstForLine (text : Text) (l : SettlementLine) : Prop :=
  ∃ before after, linesOf text = before ++ l.text :: after ∧
    ∀ ln ∈ before, icontains ln (ascii "FOR ") = false

def firstNumber (lo hi : Int) (s : Text) : Option Int :=
  ((words isdigit s).map readInt).find? fun v => decide (lo ≤ v) && decide (v ≤ hi)

/-- The text before `FOR ` leaves the date alone: it has no month word, or its
first month word names the same month and the first day and year numbers after
that word, if any, are the right ones. -/
def PrefixNeutral (l : SettlementLine) : Prop :=
  (monthNum l.pre).1 = 0 ∨
    ((monthNum l.pre).1 = l.m ∧
      (∀ v, firstNumber 1 31 (monthNum l.pre).2 = some v → v = l.d) ∧
      ∀ v, firstNumber 1900 2200 (monthNum l.pre).2 = some v → v = l.y)

end Spec

section Numbers

/-- The two ranges are disjoint, so day and year are filled independently. -/
theorem dateNumber_eq (a b : Option Int) (v : Int) :
    dateNumber (a, b) v =
      (a.or (if 1 ≤ v ∧ v ≤ 31 then some v else none),
        b.or (if 1900 ≤ v ∧ v ≤ 2200 then some v else none)) := by
  have hdisj : ¬ ((1 ≤ v ∧ v ≤ 31) ∧ 1900 ≤ v ∧ v ≤ 2200) := by omega
  simp only [dateNumber, Bool.and_eq_true, Option.isNone_iff_eq_none, decide_eq_true_eq, and_assoc]
  cases a <;> cases b <;> simp only [Option.none_or, true_and, reduceCtorEq, false_and,
    if_false] <;> split_ifs <;> first | rfl | (exfalso; tauto)

theorem foldl_dateNumber (vs : List Int) (a b : Option Int) :
    vs.foldl dateNumber (a, b) =
      (a.or (vs.find? fun v => decide (1 ≤ v) && decide (v ≤ 31)),
        b.or (vs.find? fun v => decide (1900 ≤ v) && decide (v ≤ 2200))) := by
  induction vs generalizing a b with
  | nil => simp
  | cons v vs ih =>
    have hfind : ∀ lo hi : Int, ((v :: vs).find? fun v => decide (lo ≤ v) && decide (v ≤ hi)) =
        (if lo ≤ v ∧ v ≤ hi then some v else none).or
          (vs.find? fun v => decide (lo ≤ v) && decide (v ≤ hi)) := by
      intro lo hi
      by_cases hv : lo ≤ v ∧ v ≤ hi
      · simp [hv]
      · have hf : (decide (lo ≤ v) && decide (v ≤ hi)) = false := by simpa using hv
        rw [List.find?_cons, hf, if_neg hv, Option.none_or]
    rw [List.foldl_cons, dateNumber_eq, ih, hfind, hfind, Option.or_assoc, Option.or_assoc]

theorem dayAndYear_eq (s : Text) :
    dayAndYear s = (firstNumber 1 31 s, firstNumber 1900 2200 s) := by
  simp [dayAndYear, foldl_dateNumber, firstNumber]

theorem firstNumber_of_words {lo hi : Int} {s t u : Text}
    (h : words isdigit s = words isdigit t ++ words isdigit u) :
    firstNumber lo hi s = (firstNumber lo hi t).or (firstNumber lo hi u) := by
  simp [firstNumber, h]

end Numbers

section Iso

theorem zeroPad_two {n : Nat} (hn : n < 100) : zeroPad 2 n = [digit (n / 10), digit (n % 10)] := by
  rw [zeroPad, Int.natAbs_natCast, if_neg (by omega), natText]
  split_ifs with h
  · rw [Nat.div_eq_of_lt h, Nat.mod_eq_of_lt h]
    rfl
  · rw [natText, if_pos (by omega)]
    rfl

theorem zeroPad_four {n : Nat} (hlo : 1900 ≤ n) (hhi : n ≤ 2200) : zeroPad 4 n =
    [digit (n / 1000), digit (n / 100 % 10), digit (n / 10 % 10), digit (n % 10)] := by
  have hbody : natText n = natText (n / 10 / 10 / 10) ++ [digit (n / 10 / 10 % 10)] ++
      [digit (n / 10 % 10)] ++ [digit (n % 10)] := by
    rw [natText, if_neg (by omega), natText, if_neg (by omega), natText, if_neg (by omega)]
  have hhundreds : n / 10 / 10 = n / 100 := by omega
  have hthousands : n / 100 / 10 = n / 1000 := by omega
  have hfirst : natText (n / 1000) = [digit (n / 1000)] := by rw [natText, if_pos (by omega)]
  rw [zeroPad, Int.natAbs_natCast, if_neg (by omega), hbody, hhundreds, hthousands, hfirst]
  rfl

theorem isoDate_eq_isoDay {y m d : Nat} (hy : 1900 ≤ y ∧ y ≤ 2200) (hm : m < 100) (hd : d < 100) :
    isoDate y m d = isoDay y m d := by
  rw [isoDate, zeroPad_four hy.1 hy.2, zeroPad_two hm, zeroPad_two hd]
  rfl

theorem digit_inj {a b : Nat} (ha : a < 10) (hb : b < 10) (h : digit a = digit b) : a = b := by
  rw [← digitVal_digit ha, h, digitVal_digit hb]

theorem isoDay_inj {y m d y' m' d' : Nat} (hy : y < 10000) (hm : m < 100) (hd : d < 100)
    (hy' : y' < 10000) (hm' : m' < 100) (hd' : d' < 100) (h : isoDay y m d = isoDay y' m' d') :
    y = y' ∧ m = m' ∧ d = d' := by
  simp only [isoDay, List.cons.injEq, true_and, and_true] at h
  obtain ⟨h1, h2, h3, h4, h5, h6, h7, h8⟩ := h
  have e1 := digit_inj (by omega) (by omega) h1
  have e2 := digit_inj (by omega) (by omega) h2
  have e3 := digit_inj (by omega) (by omega) h3
  have e4 := digit_inj (by omega) (by omega) h4
  have e5 := digit_inj (by omega) (by omega) h5
  have e6 := digit_inj (by omega) (by omega) h6
  have e7 := digit_inj (by omega) (by omega) h7
  have e8 := digit_inj (by omega) (by omega) h8
  omega

end Iso

section Line

theorem NamesMonth.spec {w : Text} {m : Nat} (h : NamesMonth w m) :
    w ≠ [] ∧ (∀ c ∈ w, isalpha c = true) ∧ wordMonth w = m ∧ 1 ≤ m ∧ m ≤ 12 := by
  have hnames : ∀ i : Fin 12, ∀ v ∈ [englishMonths[i]!, (englishMonths[i]!).take 3],
      v ≠ [] ∧ v.map toupper = v ∧ wordMonth v = i + 1 ∧ v.all isupper = true := by decide
  obtain ⟨i, rfl, hw⟩ := h
  obtain ⟨v, hv, hwv⟩ : ∃ v ∈ [englishMonths[i]!, (englishMonths[i]!).take 3],
      w.map toupper = v := by
    rcases hw with hw | hw
    · exact ⟨_, by simp, hw⟩
    · exact ⟨_, by simp, hw⟩
  obtain ⟨hne, hup, hm, hall⟩ := hnames i v hv
  refine ⟨fun he => hne (by simpa [he] using hwv.symm),
    isalpha_of_map_toupper hwv (by simpa using hall), ?_, by omega, by omega⟩
  rw [wordMonth_congr (hwv.trans hup.symm), hm]

theorem exists_for_letters {w : Text} (h : w.map toupper = ascii "FOR ") :
    ∃ f, w = f ++ [32] ∧ f.map toupper = ascii "FOR" := by
  have hspace : ∀ c : Byte, toupper c = 32 → c = 32 := by
    intro c hc
    have hb := forall_byte (p := fun c => !(toupper c == 32) || c == 32) (by decide +kernel) c
    simpa [hc] using hb
  have hsplit : ascii "FOR " = ascii "FOR" ++ [32] := by decide
  obtain ⟨f, e, rfl, hf, he⟩ := List.map_eq_append_iff.mp (h.trans hsplit)
  obtain ⟨c, rfl, hc⟩ := List.map_eq_singleton_iff.mp he
  exact ⟨f, by rw [hspace c hc], hf⟩

theorem words_day_year {day year post : Text} {d y : Nat} (hd : IsDecimal day d)
    (hy : IsDecimal year y) (hpost : ∀ c, post.head? = some c → isdigit c = false) :
    words isdigit (32 :: day ++ 32 :: year ++ post) = day :: year :: words isdigit post := by
  have hsep : isdigit 32 = false := by decide
  have hassoc : 32 :: day ++ 32 :: year ++ post = [] ++ 32 :: (day ++ 32 :: (year ++ post)) := by
    simp
  rw [hassoc, words_append_sep hsep, words_append_run hd.1 hd.2.1 (by simpa using hsep)]
  have hyear := words_append_sep hsep [] (year ++ post)
  rw [List.nil_append] at hyear
  rw [hyear, words_append_run hy.1 hy.2.1 hpost]
  simp

theorem firstNumber_bounds {lo hi v : Int} {s : Text} (h : firstNumber lo hi s = some v) :
    lo ≤ v ∧ v ≤ hi := by
  simpa using List.find?_some h

namespace SettlementLine

variable (l : SettlementLine)

def rest : Text := 32 :: l.day ++ 32 :: l.year ++ l.post

theorem firstNumber_rest : firstNumber 1 31 l.rest = some (l.d : Int) ∧
    firstNumber 1900 2200 l.rest = some (l.y : Int) := by
  have hw := words_day_year l.day_decimal l.year_decimal fun c hc => (l.post_stop c hc).1
  have hd := l.day_decimal.readInt_eq (by have := l.day_range; rw [intMax]; omega)
  have hy := l.year_decimal.readInt_eq (by have := l.year_range; rw [intMax]; omega)
  have hdr := l.day_range
  have hyr := l.year_range
  constructor
  · simp only [firstNumber, rest, hw, List.map_cons, hd]
    rw [List.find?_cons_of_pos]
    simp only [Bool.and_eq_true, decide_eq_true_eq]
    omega
  · simp only [firstNumber, rest, hw, List.map_cons, hd, hy]
    rw [List.find?_cons_of_neg, List.find?_cons_of_pos]
    all_goals
      simp only [Bool.and_eq_true, decide_eq_true_eq]
      omega

def foundMonth : Nat := if (monthNum l.pre).1 = 0 then l.m else (monthNum l.pre).1

theorem monthNum_text : (monthNum l.text).1 = l.foundMonth ∧
    ∀ lo hi, firstNumber lo hi (monthNum l.text).2 =
      (firstNumber lo hi (monthNum l.pre).2).or (firstNumber lo hi l.rest) := by
  obtain ⟨f, hf, hfor⟩ := exists_for_letters l.for_word
  obtain ⟨hne, halpha, hm, hm1, -⟩ := l.month_name.spec
  have hsep : isalpha 32 = false := by decide
  have htext : l.text = (l.pre ++ f) ++ 32 :: (l.month ++ l.rest) := by simp [text, rest, hf]
  have htail : monthNum (l.month ++ l.rest) = (l.m, l.rest) := by
    rw [monthNum_word hne halpha (by simpa [rest] using hsep) (by omega), hm]
  obtain ⟨hpre, hwords⟩ := monthNum_append_for hfor l.pre
  rw [htext, monthNum_append_sep hsep, hpre, htail, foundMonth]
  by_cases h0 : (monthNum l.pre).1 = 0
  · simp only [h0, if_true, true_and]
    intro lo hi
    simp [monthNum_snd_of_zero h0, firstNumber]
  · simp only [h0, if_false, true_and]
    intro lo hi
    refine firstNumber_of_words ?_
    have hmonth : ∀ c ∈ l.month, isdigit c = false := by
      intro c hc
      cases hd : isdigit c with
      | false => rfl
      | true => exact absurd (halpha c hc) (by simp [isdigit_not_isalpha hd])
    rw [words_append_sep (by decide : isdigit 32 = false), hwords, words_append_of_none hmonth]

theorem cliDate_text : cliDate l.text =
    isoDate ((firstNumber 1900 2200 (monthNum l.pre).2).getD l.y) l.foundMonth
      ((firstNumber 1 31 (monthNum l.pre).2).getD l.d) := by
  obtain ⟨hmonth, hnum⟩ := l.monthNum_text
  obtain ⟨hd, hy⟩ := l.firstNumber_rest
  have hfor : icontains l.text (ascii "FOR ") = true := by
    have htext : l.text = l.pre ++ (l.forWord ++ (l.month ++ l.rest)) := by simp [text, rest]
    rw [htext]
    exact icontains_of_append (l.for_word.trans (by decide)) _ _
  have hne : l.foundMonth ≠ 0 := by
    have := l.month_name.spec.2.2.2.1
    rw [foundMonth]
    split_ifs <;> omega
  simp only [cliDate, hfor, hmonth, dayAndYear_eq, hnum, hd, hy, Option.or_some, Bool.true_and,
    bne_iff_ne, ne_eq, hne, not_false_eq_true, if_true]

theorem cliDate_eq_isoDay : ∃ y d : Nat,
    (y : Int) = (firstNumber 1900 2200 (monthNum l.pre).2).getD l.y ∧
    (d : Int) = (firstNumber 1 31 (monthNum l.pre).2).getD l.d ∧
    y < 10000 ∧ d < 100 ∧ l.foundMonth < 100 ∧ cliDate l.text = isoDay y l.foundMonth d := by
  have hbounds : ∀ lo hi e : Int, lo ≤ e ∧ e ≤ hi →
      lo ≤ (firstNumber lo hi (monthNum l.pre).2).getD e ∧
        (firstNumber lo hi (monthNum l.pre).2).getD e ≤ hi := by
    intro lo hi e he
    cases h : firstNumber lo hi (monthNum l.pre).2 with
    | none => exact he
    | some v => exact firstNumber_bounds h
  have hd := hbounds 1 31 l.d (by have := l.day_range; omega)
  have hy := hbounds 1900 2200 l.y (by have := l.year_range; omega)
  obtain ⟨d, hde⟩ := Int.eq_ofNat_of_zero_le (le_trans (by omega) hd.1)
  obtain ⟨y, hye⟩ := Int.eq_ofNat_of_zero_le (le_trans (by omega) hy.1)
  rw [hde] at hd
  rw [hye] at hy
  have hm : l.foundMonth ≤ 12 := by
    have := l.month_name.spec.2.2.2.2
    have := monthNum_le l.pre
    rw [foundMonth]
    split_ifs <;> omega
  refine ⟨y, d, hye.symm, hde.symm, by omega, by omega, by omega, ?_⟩
  rw [cliDate_text, hde, hye, isoDate_eq_isoDay ⟨by omega, by omega⟩ (by omega) (by omega)]

theorem cliDate_eq_iff : cliDate l.text = isoDay l.y l.m l.d ↔ PrefixNeutral l := by
  obtain ⟨y, d, hy, hd, hyb, hdb, hmb, hdate⟩ := l.cliDate_eq_isoDay
  have hdr := l.day_range
  have hyr := l.year_range
  obtain ⟨hm1, hm12⟩ := l.month_name.spec.2.2.2
  have hgetD : ∀ {lo hi : Int} {e : Nat}, (firstNumber lo hi (monthNum l.pre).2).getD e = e ↔
      ∀ v, firstNumber lo hi (monthNum l.pre).2 = some v → v = e := by
    intro lo hi e
    cases firstNumber lo hi (monthNum l.pre).2 <;> simp
  have hparts : cliDate l.text = isoDay l.y l.m l.d ↔ y = l.y ∧ l.foundMonth = l.m ∧ d = l.d := by
    rw [hdate]
    constructor
    · exact isoDay_inj hyb hmb hdb (by omega) (by omega) (by omega)
    · rintro ⟨rfl, hm, rfl⟩
      rw [hm]
  have hye : y = l.y ↔ (firstNumber 1900 2200 (monthNum l.pre).2).getD l.y = l.y := by
    rw [← hy]
    exact Int.ofNat_inj.symm
  have hde : d = l.d ↔ (firstNumber 1 31 (monthNum l.pre).2).getD l.d = l.d := by
    rw [← hd]
    exact Int.ofNat_inj.symm
  rw [hparts, hye, hde, hgetD, hgetD, PrefixNeutral, foundMonth]
  by_cases h0 : (monthNum l.pre).1 = 0
  · simp [h0, monthNum_snd_of_zero h0, firstNumber]
  · simp only [h0, if_false, false_or]
    rw [and_rotate, and_congr_right_iff]
    exact fun _ => Iff.rfl

end SettlementLine

theorem cliDate_of_no_for {ln : Text} (h : icontains ln (ascii "FOR ") = false) :
    cliDate ln = [] := by
  simp [cliDate, h]

theorem FirstForLine.parse_date {text : Text} {l : SettlementLine} (h : FirstForLine text l)
    (hcli : hasF6Banner text = false) :
    ∃ r, parseCliProductText text = .ok r ∧ r.date = cliDate l.text := by
  obtain ⟨before, after, hlines, hbefore⟩ := h
  obtain ⟨y, d, -, -, -, -, -, hdate⟩ := l.cliDate_eq_isoDay
  have hne : cliDate l.text ≠ [] := by
    rw [hdate]
    exact List.cons_ne_nil _ _
  have hfirst : firstNonempty ((linesOf text).map cliDate) = cliDate l.text := by
    rw [hlines, firstNonempty_map_of_first (fun ln hln => cliDate_of_no_for (hbefore ln hln)) hne]
  obtain ⟨r, hr, -, hrd⟩ := parseCli_heading hcli (.inr (hfirst ▸ hne))
  exact ⟨r, hr, hrd.trans hfirst⟩

/-- The product parses with the date its settlement line states exactly when the
text before `FOR ` leaves the date alone. -/
theorem parseCli_date_iff {text : Text} {l : SettlementLine} (hcli : hasF6Banner text = false)
    (hl : FirstForLine text l) :
    (∃ r, parseCliProductText text = .ok r ∧ r.date = isoDay l.y l.m l.d) ↔ PrefixNeutral l := by
  obtain ⟨r, hr, hdate⟩ := hl.parse_date hcli
  rw [← l.cliDate_eq_iff, ← hdate]
  constructor
  · rintro ⟨r', hr', hd'⟩
    rw [hr, Except.ok.injEq] at hr'
    rw [hr', hd']
  · exact fun hd => ⟨r, hr, hd⟩

def lineOf16May2026 (pre : Text) (h : icontains pre (ascii "FOR ") = false) : SettlementLine where
  pre := pre
  forWord := ascii "FOR "
  month := ascii "MAY"
  day := ascii "16"
  year := ascii "2026"
  post := []
  m := 5
  d := 16
  y := 2026
  pre_free := h
  for_word := by decide
  month_name := ⟨4, by decide +kernel⟩
  day_decimal := by unfold IsDecimal; decide +kernel
  day_range := by omega
  year_decimal := by unfold IsDecimal; decide +kernel
  year_range := by omega
  post_stop := by simp

def newYorkLine : SettlementLine :=
  lineOf16May2026 (ascii "THE NEW YORK CLIMATE SUMMARY ") (by decide +kernel)

theorem parseCli_date_new_york :
    ∃ r, parseCliProductText newYorkLine.text = .ok r ∧ r.date = isoDay 2026 5 16 :=
  (parseCli_date_iff (l := newYorkLine) (by decide)
    ⟨[], [], by decide, by simp⟩).mpr (Or.inl (by decide))

def augustaLine : SettlementLine :=
  lineOf16May2026 (ascii "THE AUGUSTA CLIMATE SUMMARY ") (by decide +kernel)

/-- The site name Augusta turns the month of its product into August. -/
theorem parseCli_date_augusta :
    hasF6Banner augustaLine.text = false ∧ FirstForLine augustaLine.text augustaLine ∧
      (∃ r, parseCliProductText augustaLine.text = .ok r ∧ r.date = ascii "2026-08-16") ∧
      ¬ ∃ r, parseCliProductText augustaLine.text = .ok r ∧
        r.date = isoDay augustaLine.y augustaLine.m augustaLine.d := by
  have hparse : parseCliProductText augustaLine.text = .ok
      { date := ascii "2026-08-16", source := ascii "nws_api_cli" } := by decide +kernel
  refine ⟨by decide +kernel, ⟨[], [], by decide +kernel, by simp⟩, ⟨_, hparse, rfl⟩, ?_⟩
  rintro ⟨r, hr, hd⟩
  rw [hparse, Except.ok.injEq] at hr
  subst hr
  exact absurd hd (by decide)

end Line

end NwsCpp
