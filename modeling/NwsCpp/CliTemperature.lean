import NwsCpp.CliLines

/-! Where a CLI report takes its temperatures from: the first integer after the label,
which is the observed value or, when that is missing, a number of a later column. -/

namespace NwsCpp

open Bytes Runs Lines Decimal

section FirstInt

theorem firstInt_cons_of_not {c : Byte} (hc : isdigit c = false) (hminus : c ≠ 45) (s : Text) :
    firstInt (c :: s) = firstInt s := by
  rw [firstInt, if_neg (by simp [hc, hminus])]

theorem firstInt_append_space {gap : Text} (hgap : ∀ c ∈ gap, isspace c = true) (s : Text) :
    firstInt (gap ++ s) = firstInt s := by
  induction gap with
  | nil => rfl
  | cons c gap ih =>
    have hc := hgap c List.mem_cons_self
    have hminus : c ≠ 45 := by
      rintro rfl
      simp [isspace] at hc
    rw [List.cons_append, firstInt_cons_of_not (isspace_not_isdigit hc) hminus,
      ih fun d hd => hgap d (List.mem_cons_of_mem c hd)]

theorem firstInt_digits {w rest : Text} {n : Nat} (hw : IsDecimal w n) (hmax : (n : Int) ≤ intMax)
    (hrest : ∀ c, rest.head? = some c → isdigit c = false) :
    firstInt (w ++ rest) = some (n : Int) := by
  obtain ⟨hne, hdigits, hval⟩ := hw
  have hread := fromChars_digits [] hne hdigits (by simp) (hval ▸ hmax)
  cases w with
  | nil => exact absurd rfl hne
  | cons c w =>
    have hrun := (takeWhile_append_stop (fun d hd => hdigits d (List.mem_cons_of_mem c hd)) hrest).1
    rw [List.append_nil] at hread
    rw [List.cons_append, firstInt, if_pos (by simp [hdigits c List.mem_cons_self]), hrun, hread, hval]

theorem firstInt_neg_digits {w rest : Text} {n : Nat} (hw : IsDecimal w n)
    (hmin : intMin ≤ -(n : Int)) (hrest : ∀ c, rest.head? = some c → isdigit c = false) :
    firstInt (45 :: (w ++ rest)) = some (-(n : Int)) := by
  obtain ⟨hne, hdigits, hval⟩ := hw
  have hread := fromChars_neg_digits [] hne hdigits (by simp) (hval ▸ hmin)
  have hrun := (takeWhile_append_stop hdigits hrest).1
  have hstart : ((w ++ rest).head?.map isdigit).getD false = true := by
    cases w with
    | nil => exact absurd rfl hne
    | cons c w => simp [hdigits c List.mem_cons_self]
  rw [List.append_nil] at hread
  rw [firstInt, if_pos (by rw [hstart]; rfl), hrun, hread, hval]

theorem fromChars_digit {c : Byte} (hc : isdigit c = true) : ∃ v, fromChars [c] = .ok v [] := by
  have hle : digitsVal [c] ≤ 9 := by
    simp only [isdigit, Bool.and_eq_true, decide_eq_true_eq, UInt8.le_iff_toNat_le] at hc
    have hlast : (57 : UInt8).toNat = 57 := rfl
    simp only [digitsVal, List.foldl_cons, List.foldl_nil, digitVal]
    omega
  have hmax : (digitsVal [c] : Int) ≤ intMax := by
    simp only [intMax]
    omega
  exact ⟨_, fromChars_digits (w := [c]) [] (by simp) (by simpa using hc) (by simp) hmax⟩

/-- A number is found as soon as there is a digit: of a number out of range, its last digits. -/
theorem firstInt_isSome {s : Text} (h : ∃ c ∈ s, isdigit c = true) : (firstInt s).isSome = true := by
  induction s with
  | nil => simp at h
  | cons c s ih =>
    rw [firstInt]
    by_cases hs : ∃ d ∈ s, isdigit d = true
    · split_ifs
      · split
        · rfl
        · exact ih hs
      · exact ih hs
    · have hc : isdigit c = true := by
        obtain ⟨d, hd, hdigit⟩ := h
        rcases List.mem_cons.mp hd with rfl | hd
        · exact hdigit
        · exact absurd ⟨d, hd, hdigit⟩ hs
      have hnone : s.takeWhile isdigit = [] := by
        cases s with
        | nil => rfl
        | cons d s => exact List.takeWhile_cons_of_neg fun hd => hs ⟨d, List.mem_cons_self, hd⟩
      obtain ⟨v, hv⟩ := fromChars_digit hc
      rw [if_pos (by simp [hc]), hnone, hv]
      rfl

theorem firstInt_eq_none_iff {s : Text} : firstInt s = none ↔ ∀ c ∈ s, isdigit c = false := by
  constructor
  · intro h c hc
    by_contra hdigit
    have hsome := firstInt_isSome ⟨c, hc, by simpa using hdigit⟩
    simp [h] at hsome
  · intro h
    induction s with
    | nil => rfl
    | cons c s ih =>
      have hs : ∀ d ∈ s, isdigit d = false := fun d hd => h d (List.mem_cons_of_mem c hd)
      have hnext : (s.head?.map isdigit).getD false = false := by
        cases s with
        | nil => rfl
        | cons d s => exact hs d List.mem_cons_self
      rw [firstInt, if_neg (by simp [h c List.mem_cons_self, hnext]), ih hs]

end FirstInt

section Section

def opensTemperature (ln : Text) : Bool := icontains ln (ascii "TEMPERATURE")

def closesTemperature (ln : Text) : Bool :=
  icontains ln (ascii "PRECIPITATION") || icontains ln (ascii "WIND") ||
    icontains ln (ascii "RELATIVE")

/-- The line `ln`, with the lines `before` it, is in the section that the latest line
with TEMPERATURE has opened. -/
def InTemperature (before : List Text) (ln : Text) : Prop :=
  ∃ front heading body, before = front ++ heading :: body ∧ opensTemperature heading = true ∧
    ∀ l ∈ body ++ [ln], opensTemperature l = false ∧ closesTemperature l = false

def temperatureFlag (flag : Bool) (ln : Text) : Bool :=
  opensTemperature ln || (flag && !closesTemperature ln)

theorem cliLine_inTemperature (st : CliState) (ln : Text) :
    (cliLine st ln).inTemperature = temperatureFlag st.inTemperature ln := by
  by_cases h : icontains ln (ascii "TEMPERATURE") = true
  · simp [cliLine, cliTemperature, temperatureFlag, opensTemperature, h]
  · simp [cliLine, cliTemperature, temperatureFlag, opensTemperature, closesTemperature, h]

theorem foldl_cliLine_inTemperature (st : CliState) (ls : List Text) :
    (ls.foldl cliLine st).inTemperature = ls.foldl temperatureFlag st.inTemperature := by
  induction ls generalizing st with
  | nil => rfl
  | cons ln ls ih => rw [List.foldl_cons, ih, cliLine_inTemperature, List.foldl_cons]

theorem foldl_temperatureFlag_iff {ls : List Text} :
    ls.foldl temperatureFlag false = true ↔
      ∃ front heading body, ls = front ++ heading :: body ∧ opensTemperature heading = true ∧
        ∀ l ∈ body, opensTemperature l = false ∧ closesTemperature l = false := by
  induction ls using List.reverseRecOn with
  | nil => simp
  | append_singleton ls ln ih =>
    rw [List.foldl_append, List.foldl_cons, List.foldl_nil, temperatureFlag]
    by_cases hopen : opensTemperature ln = true
    · simp only [hopen, Bool.true_or, true_iff]
      exact ⟨ls, ln, [], rfl, hopen, by simp⟩
    · simp only [hopen, Bool.false_or, Bool.and_eq_true, ih]
      constructor
      · rintro ⟨⟨front, heading, body, rfl, hheading, hbody⟩, hclose⟩
        refine ⟨front, heading, body ++ [ln], by simp, hheading, fun l hl => ?_⟩
        rcases List.mem_append.mp hl with hl | hl
        · exact hbody l hl
        · obtain rfl := List.mem_singleton.mp hl
          exact ⟨by simpa using hopen, by simpa using hclose⟩
      · rintro ⟨front, heading, body, hsplit, hheading, hbody⟩
        cases body using List.reverseRecOn with
        | nil =>
          obtain rfl : ln = heading := by simpa using List.append_inj_right' hsplit rfl
          exact absurd hheading hopen
        | append_singleton body l =>
          have hassoc : ls ++ [ln] = (front ++ heading :: body) ++ [l] := by simpa using hsplit
          obtain ⟨rfl, hlast⟩ := List.append_inj' hassoc rfl
          obtain rfl : ln = l := by simpa using hlast
          refine ⟨⟨front, heading, body, rfl, hheading, fun d hd => ?_⟩, ?_⟩
          · exact hbody d (List.mem_append_left _ hd)
          · simp [(hbody ln (by simp)).2]

theorem inTemperature_iff {before : List Text} {ln : Text} :
    InTemperature before ln ↔ before.foldl temperatureFlag false = true ∧
      opensTemperature ln = false ∧ closesTemperature ln = false := by
  rw [foldl_temperatureFlag_iff]
  constructor
  · rintro ⟨front, heading, body, rfl, hheading, hbody⟩
    exact ⟨⟨front, heading, body, rfl, hheading, fun l hl => hbody l (List.mem_append_left _ hl)⟩,
      hbody ln (by simp)⟩
  · rintro ⟨⟨front, heading, body, rfl, hheading, hbody⟩, hln⟩
    refine ⟨front, heading, body, rfl, hheading, fun l hl => ?_⟩
    rcases List.mem_append.mp hl with hl | hl
    · exact hbody l hl
    · exact List.mem_singleton.mp hl ▸ hln

end Section

inductive Extreme where
  | maximum
  | minimum

namespace Extreme

def label : Extreme → Text
  | .maximum => ascii "MAXIMUM"
  | .minimum => ascii "MINIMUM"

def field (e : Extreme) (r : CliReport) : Option Int :=
  match e with
  | .maximum => r.tmaxF
  | .minimum => r.tminF

end Extreme

section Field

variable {e : Extreme}

theorem cliHeading_field (e : Extreme) (r : CliReport) (ln : Text) :
    e.field (cliHeading r ln) = e.field r := by
  simp only [cliHeading]
  cases e <;> split_ifs <;> rfl

theorem cliTemperature_field (e : Extreme) (st : CliState) (ln : Text) :
    e.field (cliTemperature st ln).report =
      if st.inTemperature ∧ opensTemperature ln = false ∧ closesTemperature ln = false ∧
          e.field st.report = none ∧ icontains ln e.label = true then labelled ln e.label
      else e.field st.report := by
  have hopens : icontains ln (ascii "TEMPERATURE") = opensTemperature ln := rfl
  have hcloses : (icontains ln (ascii "PRECIPITATION") || icontains ln (ascii "WIND") ||
      icontains ln (ascii "RELATIVE")) = closesTemperature ln := rfl
  simp only [cliTemperature, hopens, hcloses]
  by_cases hopen : opensTemperature ln = true
  · rw [if_pos hopen, if_neg (by simp [hopen])]
  · rw [if_neg hopen]
    cases e <;> simp only [Extreme.field, Extreme.label] <;> split_ifs <;> simp_all

theorem cliLine_field (e : Extreme) (st : CliState) (ln : Text) :
    e.field (cliLine st ln).report =
      if st.inTemperature ∧ opensTemperature ln = false ∧ closesTemperature ln = false ∧
          e.field st.report = none ∧ icontains ln e.label = true then labelled ln e.label
      else e.field st.report := by
  rw [cliLine, cliTemperature_field, cliHeading_field]

theorem foldl_cliLine_field (e : Extreme) {st : CliState} {ls : List Text}
    (h : ∀ before ln after, ls = before ++ ln :: after →
      before.foldl temperatureFlag st.inTemperature = true → opensTemperature ln = false →
        closesTemperature ln = false → icontains ln e.label = false) :
    e.field (ls.foldl cliLine st).report = e.field st.report := by
  induction ls generalizing st with
  | nil => rfl
  | cons ln ls ih =>
    have hrest : e.field (ls.foldl cliLine (cliLine st ln)).report =
        e.field (cliLine st ln).report := by
      refine ih fun before l after hsplit hflag => ?_
      rw [cliLine_inTemperature] at hflag
      exact h (ln :: before) l after (by rw [hsplit, List.cons_append]) hflag
    rw [List.foldl_cons, hrest, cliLine_field]
    refine if_neg ?_
    rintro ⟨hflag, hopen, hclose, -, hlabel⟩
    simp [h [] ln ls rfl hflag hopen hclose] at hlabel

end Field

/-- A line with a label in any case, whitespace, a token and the other columns. -/
def Columns (label ln token rest : Text) : Prop :=
  ∃ pre written gap, ln = pre ++ (written ++ (gap ++ (token ++ rest))) ∧
    ifind ln label = some pre.length ∧ written.map toupper = label ∧
    gap ≠ [] ∧ (∀ c ∈ gap, isspace c = true) ∧ (∀ c ∈ token, isspace c = false) ∧
    ∀ c, rest.head? = some c → isspace c = true

/-- What a token says was observed: the integer it starts with, or nothing when it has
no digit, as `MM`. -/
inductive Observed : Text → Option Int → Prop
  | positive {digits suffix : Text} {n : Nat} : IsDecimal digits n → (n : Int) ≤ intMax →
      (∀ c, suffix.head? = some c → isdigit c = false) → Observed (digits ++ suffix) (some n)
  | negative {digits suffix : Text} {n : Nat} : IsDecimal digits n → intMin ≤ -(n : Int) →
      (∀ c, suffix.head? = some c → isdigit c = false) →
      Observed (45 :: (digits ++ suffix)) (some (-n))
  | missing {token : Text} : token ≠ [] → (∀ c ∈ token, isdigit c = false) → Observed token none

/-- One line of the temperature section names the temperature, with the observed token. -/
def NamedOnce (e : Extreme) (text token rest : Text) : Prop :=
  ∃ before ln after, linesOf text = before ++ ln :: after ∧ InTemperature before ln ∧
    Columns e.label ln token rest ∧
    ∀ before' ln' after', linesOf text = before' ++ ln' :: after' → InTemperature before' ln' →
      icontains ln' e.label = true → before'.length = before.length

/-- The parser reports a temperature, or none in any report. -/
def Reports (e : Extreme) (text : Text) : Option Int → Prop
  | some v => ∃ r, parseCliProductText text = .ok r ∧ e.field r = some v
  | none => ∀ r, parseCliProductText text = .ok r → e.field r = none

section Columns

variable {e : Extreme} {text token rest label ln : Text}

/-- The observed integer is what stands first after the label; when there is none, a number
of a later column does. -/
theorem Columns.labelled_iff (h : Columns label ln token rest) {value : Option Int}
    (htoken : Observed token value) :
    labelled ln label = value ↔ value.isSome = true ∨ ∀ c ∈ rest, isdigit c = false := by
  obtain ⟨pre, written, gap, rfl, hfirst, hwritten, -, hgap, -, hrest⟩ := h
  have hlabelled : labelled (pre ++ (written ++ (gap ++ (token ++ rest)))) label =
      firstInt (token ++ rest) := by
    have hlength : pre.length + label.length = (pre ++ written).length := by
      rw [← hwritten, List.length_map, List.length_append]
    rw [labelled, hfirst, ← firstInt_append_space hgap, ← List.append_assoc pre]
    simp only [hlength, List.drop_left]
  have hstop : ∀ {suffix : Text}, (∀ c, suffix.head? = some c → isdigit c = false) →
      ∀ c, (suffix ++ rest).head? = some c → isdigit c = false := by
    intro suffix hsuffix c hc
    cases suffix with
    | nil => exact isspace_not_isdigit (hrest c hc)
    | cons d suffix => exact hsuffix c hc
  rw [hlabelled]
  cases htoken with
  | positive hdigits hmax hsuffix =>
    simp [List.append_assoc, firstInt_digits hdigits hmax (hstop hsuffix)]
  | negative hdigits hmin hsuffix =>
    simp [List.append_assoc, firstInt_neg_digits hdigits hmin (hstop hsuffix)]
  | missing hne hnone =>
    simp only [firstInt_eq_none_iff, List.forall_mem_append, Option.isSome_none, Bool.false_eq_true,
      false_or, and_iff_right_iff_imp]
    exact fun _ => hnone

theorem Extreme.informative {r : CliReport} {v : Int} (h : e.field r = some v) : r.Informative := by
  cases e with
  | maximum => exact .inr (.inr (.inl (by rw [show r.tmaxF = some v from h]; exact Option.some_ne_none v)))
  | minimum => exact .inr (.inr (.inr (by rw [show r.tminF = some v from h]; exact Option.some_ne_none v)))

theorem reports_iff (hcli : hasF6Banner text = false) {value : Option Int} :
    Reports e text value ↔ e.field (cliReport text) = value := by
  have hparse : ∀ v, e.field (cliReport text) = some v →
      parseCliProductText text = .ok (cliReport text) := fun v hv =>
    (parseCli_eq_ok_iff hcli).mpr ⟨rfl, Extreme.informative hv⟩
  have hreport : ∀ r, parseCliProductText text = .ok r → r = cliReport text := fun r hr =>
    ((parseCli_eq_ok_iff hcli).mp hr).1
  cases value with
  | none =>
    constructor
    · intro h
      cases hfield : e.field (cliReport text) with
      | none => rfl
      | some v => exact hfield ▸ h _ (hparse v hfield)
    · intro h r hr
      rwa [hreport r hr]
  | some v =>
    constructor
    · rintro ⟨r, hr, hv⟩
      rwa [← hreport r hr]
    · exact fun h => ⟨_, hparse v h, h⟩

theorem NamedOnce.field_eq (h : NamedOnce e text token rest) :
    ∃ ln, Columns e.label ln token rest ∧
      e.field (cliReport text) = labelled ln e.label := by
  obtain ⟨before, ln, after, hlines, hin, hcolumns, honly⟩ := h
  refine ⟨ln, hcolumns, ?_⟩
  have hstart : e.field (cliStart text).report = none := by cases e <;> rfl
  have hflag : (cliStart text).inTemperature = false := rfl
  obtain ⟨hbefore, hopen, hclose⟩ := inTemperature_iff.mp hin
  have hlabel : icontains ln e.label = true := by
    obtain ⟨pre, written, gap, -, hfirst, -⟩ := hcolumns
    simp [icontains, hfirst]
  have hunnamed : e.field (before.foldl cliLine (cliStart text)).report = none := by
    rw [foldl_cliLine_field, hstart]
    intro before' l after' hsplit hflag' hopen' hclose'
    rw [hflag] at hflag'
    by_contra hl
    have hlength := honly before' l (after' ++ ln :: after)
      (by rw [hlines, hsplit, List.append_assoc, List.cons_append])
      (inTemperature_iff.mpr ⟨hflag', hopen', hclose'⟩) (by simpa using hl)
    rw [hsplit, List.length_append, List.length_cons] at hlength
    omega
  have hnamed : e.field (cliLine (before.foldl cliLine (cliStart text)) ln).report =
      labelled ln e.label := by
    rw [cliLine_field, if_pos]
    exact ⟨by rw [foldl_cliLine_inTemperature, hflag, hbefore], hopen, hclose, hunnamed, hlabel⟩
  rw [cliReport, hlines, List.foldl_append, List.foldl_cons, foldl_cliLine_field, hnamed]
  intro before' l after' hsplit hflag' hopen' hclose'
  by_contra hl
  rw [cliLine_inTemperature, foldl_cliLine_inTemperature, hflag] at hflag'
  have hlength := honly (before ++ ln :: before') l after'
    (by rw [hlines, hsplit, List.append_assoc, List.cons_append])
    (inTemperature_iff.mpr ⟨by simpa using hflag', hopen', hclose'⟩) (by simpa using hl)
  rw [List.length_append, List.length_cons] at hlength
  omega

/-- A temperature is the observed one exactly when there is one, or no number stands in
the columns after it. -/
theorem temperature_observed_iff (hcli : hasF6Banner text = false)
    (hnamed : NamedOnce e text token rest) {value : Option Int} (htoken : Observed token value) :
    Reports e text value ↔ value.isSome = true ∨ ∀ c ∈ rest, isdigit c = false := by
  obtain ⟨ln, hcolumns, hfield⟩ := hnamed.field_eq
  rw [reports_iff hcli, hfield, hcolumns.labelled_iff htoken]

end Columns

theorem namedOnce_of_two_lines {e : Extreme} {text token rest : Text} (heading ln : Text)
    (hlines : linesOf text = [heading, ln]) (hheading : opensTemperature heading = true)
    (hln : opensTemperature ln = false ∧ closesTemperature ln = false)
    (hcolumns : Columns e.label ln token rest) : NamedOnce e text token rest := by
  refine ⟨[heading], ln, [], hlines, ⟨[], heading, [], rfl, hheading, by simpa using hln⟩, hcolumns, ?_⟩
  rintro before' l after' hsplit ⟨front, heading', body, rfl, -⟩ -
  have hlength := congrArg List.length (hlines.symm.trans hsplit)
  simp only [List.length_append, List.length_cons, List.length_nil] at hlength ⊢
  omega

def maximumReport (observed : String) : Text :=
  ascii "TEMPERATURE\r\n" ++ (ascii "Maximum " ++ (ascii observed ++ ascii " 99 1985"))

theorem namedOnce_ninety_five : NamedOnce .maximum (maximumReport "95") (ascii "95") (ascii " 99 1985") :=
  namedOnce_of_two_lines (ascii "TEMPERATURE") (ascii "Maximum 95 99 1985") (by decide)
    (by decide) (by decide)
    ⟨[], ascii "Maximum", [32], by decide, by decide, by decide, by decide,
      by decide +kernel, by decide +kernel, by decide +kernel⟩

theorem temperature_observed_ninety_five : Reports .maximum (maximumReport "95") (some 95) := by
  have hdecimal : IsDecimal (ascii "95") 95 := by decide
  have hobserved : Observed (ascii "95" ++ []) (some ((95 : Nat) : Int)) :=
    .positive hdecimal (by decide) (by simp)
  rw [List.append_nil] at hobserved
  exact (temperature_observed_iff (by decide) namedOnce_ninety_five hobserved).mpr (Or.inl rfl)

/-- The observed maximum is missing; the report has the record. -/
theorem temperature_missing_takes_record :
    hasF6Banner (maximumReport "MM") = false ∧
      NamedOnce .maximum (maximumReport "MM") (ascii "MM") (ascii " 99 1985") ∧
      Observed (ascii "MM") none ∧
      (∃ r, parseCliProductText (maximumReport "MM") = .ok r ∧ r.tmaxF = some 99) ∧
      ¬ Reports .maximum (maximumReport "MM") none := by
  have hreport : ∃ r, parseCliProductText (maximumReport "MM") = .ok r ∧ r.tmaxF = some 99 :=
    ⟨{ source := ascii "nws_api_cli", tmaxF := some 99 }, by decide, rfl⟩
  refine ⟨by decide, ?_, .missing (by decide) (by decide), hreport, fun hnone => ?_⟩
  · exact namedOnce_of_two_lines (ascii "TEMPERATURE") (ascii "Maximum MM 99 1985")
      (by decide) (by decide) (by decide)
      ⟨[], ascii "Maximum", [32], by decide, by decide, by decide, by decide,
        by decide +kernel, by decide +kernel, by decide +kernel⟩
  · obtain ⟨r, hr, hmax⟩ := hreport
    have habsent : r.tmaxF = none := hnone r hr
    simp [hmax] at habsent

end NwsCpp
