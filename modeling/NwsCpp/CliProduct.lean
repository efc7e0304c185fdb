import NwsCpp.CliAppend
import NwsCpp.CliDate
import NwsCpp.CliStation
import NwsCpp.Folds

/-! A CLI report read off the whole product, each value where it is stated first, and
products that are read back. -/

namespace NwsCpp

open Bytes Lines Decimal
open Folds (FirstRead Silent)

/-- A text field that is set. -/
def given (field : Text) : Option Text := if field = [] then none else some field

theorem given_eq_some_iff {field v : Text} : given field = some v ↔ field = v ∧ v ≠ [] := by
  rw [given]
  split_ifs with h
  · simp only [false_iff, not_and, not_not]
    rintro rfl
    exact h
  · rw [Option.some.injEq, iff_self_and]
    rintro rfl
    exact h

theorem given_eq_none_iff {field : Text} : given field = none ↔ field = [] := by
  simp [given]

theorem given_injective {a b : Text} (h : given a = given b) : a = b := by
  cases hb : given b with
  | none => rw [given_eq_none_iff.mp (h.trans hb), given_eq_none_iff.mp hb]
  | some v => rw [(given_eq_some_iff.mp (h.trans hb)).1, (given_eq_some_iff.mp hb).1]

/-- A line yields a text. -/
def Yields (yield : Text → Text) (_ : List Text) (ln v : Text) : Prop := yield ln = v ∧ v ≠ []

/-- A line of the temperature section states the temperature. -/
def Extreme.States (e : Extreme) (before : List Text) (ln : Text) (v : Int) : Prop :=
  InTemperature before ln ∧ labelled ln e.label = some v

/-- What no line is asked for. -/
def CliReport.unread (r : CliReport) : Bool × Bool × Text × Text :=
  (r.isPreliminary, r.isCorrected, r.source, r.issuanceTime)

/-- Every value of a report is what the first line to state it states. -/
structure FirstStated (text : Text) (r : CliReport) : Prop where
  station : FirstRead (Yields cliStation) (linesOf text) (given r.station)
  date : FirstRead (Yields cliDate) (linesOf text) (given r.date)
  temperature (e : Extreme) : FirstRead e.States (linesOf text) (e.field r)
  unread : r.unread = (true, corrected text, ascii "nws_api_cli", [])

section Loop

theorem firstRead_yields (field : CliState → Text) {yield : Text → Text}
    (hstep : ∀ st ln, field (cliLine st ln) = if (field st).isEmpty then yield ln else field st)
    {st : CliState} (hst : field st = []) (ls : List Text) :
    FirstRead (Yields yield) ls (given (field (ls.foldl cliLine st))) := by
  apply Folds.foldl_firstRead (fun st => given (field st)) (given_eq_none_iff.mpr hst)
  intro before ln v
  rw [List.foldl_append, List.foldl_cons, List.foldl_nil, hstep, given_eq_none_iff, Yields]
  by_cases h : field (before.foldl cliLine st) = []
  · rw [h, List.isEmpty_nil, if_pos rfl, given_eq_some_iff]
    simp [given]
  · simp [h]

theorem labelled_of_not_icontains {ln label : Text} (h : icontains ln label = false) :
    labelled ln label = none := by
  rw [icontains, Option.isSome_eq_false_iff, Option.isNone_iff_eq_none] at h
  rw [labelled, h]

theorem firstRead_states (e : Extreme) (text : Text) (ls : List Text) :
    FirstRead e.States ls (e.field (ls.foldl cliLine (cliStart text)).report) := by
  have hstart : e.field (cliStart text).report = none := by cases e <;> rfl
  apply Folds.foldl_firstRead (fun st : CliState => e.field st.report) hstart
  intro before ln v
  have hflag : (before.foldl cliLine (cliStart text)).inTemperature =
    before.foldl temperatureFlag false := foldl_cliLine_inTemperature _ _
  rw [List.foldl_append, List.foldl_cons, List.foldl_nil, cliLine_field, hflag, Extreme.States,
    inTemperature_iff]
  cases hfield : e.field (before.foldl cliLine (cliStart text)).report with
  | some w => simp
  | none =>
    by_cases hlabel : icontains ln e.label = true
    · simp [hlabel, and_assoc]
    · rw [labelled_of_not_icontains (Bool.eq_false_iff.mpr hlabel)]
      simp [hlabel]

theorem cliLine_unread (st : CliState) (ln : Text) :
    (cliLine st ln).report.unread = st.report.unread := by
  simp only [cliLine, cliTemperature, cliHeading]
  split_ifs <;> rfl

theorem unread_cliReport (text : Text) :
    (cliReport text).unread = (true, corrected text, ascii "nws_api_cli", []) :=
  List.foldlRecOn (motive := fun st => st.report.unread = (cliStart text).report.unread)
    (linesOf text) cliLine rfl fun st h ln _ => (cliLine_unread st ln).trans h

theorem firstStated_cliReport (text : Text) : FirstStated text (cliReport text) where
  station := firstRead_yields (fun st => st.report.station) cliLine_station rfl _
  date := firstRead_yields (fun st => st.report.date) cliLine_date rfl _
  temperature e := firstRead_states e text _
  unread := unread_cliReport text

theorem FirstStated.eq {text : Text} {r : CliReport} (h : FirstStated text r) :
    r = cliReport text := by
  have hr := firstStated_cliReport text
  have hyields (yield : Text → Text) (before : List Text) (ln a b : Text)
      (ha : Yields yield before ln a) (hb : Yields yield before ln b) : a = b := ha.1.symm.trans hb.1
  have hstates (e : Extreme) (before : List Text) (ln : Text) (a b : Int)
      (ha : e.States before ln a) (hb : e.States before ln b) : a = b :=
    Option.some.inj (ha.2.symm.trans hb.2)
  have hstation := given_injective (h.station.unique (hyields _) hr.station)
  have hdate := given_injective (h.date.unique (hyields _) hr.date)
  have hmax : r.tmaxF = (cliReport text).tmaxF :=
    (h.temperature .maximum).unique (hstates _) (hr.temperature .maximum)
  have hmin : r.tminF = (cliReport text).tminF :=
    (h.temperature .minimum).unique (hstates _) (hr.temperature .minimum)
  have hunread := h.unread.trans hr.unread.symm
  generalize cliReport text = s at hstation hdate hmax hmin hunread
  simp only [CliReport.unread, Prod.mk.injEq] at hunread
  obtain ⟨hpreliminary, hcorrected, hsource, hissuance⟩ := hunread
  cases r
  cases s
  simp_all

end Loop

/-- A line of a product that states nothing. -/
structure StatesNothing (before : List Text) (ln : Text) : Prop where
  station : cliStation ln = []
  date : cliDate ln = []
  temperature : InTemperature before ln → ∀ e : Extreme, labelled ln e.label = none

theorem silent_yields_iff {yield : Text → Text} {ls : List Text} :
    Silent (Yields yield) ls ↔ ∀ ln ∈ ls, yield ln = [] := by
  constructor
  · intro h ln hln
    obtain ⟨before, after, rfl⟩ := List.append_of_mem hln
    by_contra hne
    exact h before ln after rfl _ ⟨rfl, hne⟩
  · rintro h before ln after rfl v ⟨rfl, hne⟩
    exact hne (h ln (by simp))

theorem FirstStated.not_informative_iff {text : Text} {r : CliReport} (h : FirstStated text r) :
    ¬r.Informative ↔
      ∀ before ln after, linesOf text = before ++ ln :: after → StatesNothing before ln := by
  have hstation := h.station.eq_none_iff
  have hdate := h.date.eq_none_iff
  have hmax : r.tmaxF = none ↔ _ := (h.temperature .maximum).eq_none_iff
  have hmin : r.tminF = none ↔ _ := (h.temperature .minimum).eq_none_iff
  rw [given_eq_none_iff, silent_yields_iff] at hstation hdate
  simp only [CliReport.Informative, not_or, not_not, hstation, hdate, hmax, hmin]
  constructor
  · rintro ⟨hstations, hdates, hmaxima, hminima⟩ before ln after hsplit
    have hln : ln ∈ linesOf text := by simp [hsplit]
    refine ⟨hstations ln hln, hdates ln hln, fun hin e => ?_⟩
    rw [Option.eq_none_iff_forall_ne_some]
    cases e with
    | maximum => exact fun v hv => hmaxima before ln after hsplit v ⟨hin, hv⟩
    | minimum => exact fun v hv => hminima before ln after hsplit v ⟨hin, hv⟩
  · intro hnothing
    have hsilent (e : Extreme) : Silent e.States (linesOf text) := by
      rintro before ln after hsplit v ⟨hin, hv⟩
      simp [(hnothing before ln after hsplit).temperature hin e] at hv
    refine ⟨fun ln hln => ?_, fun ln hln => ?_, hsilent .maximum, hsilent .minimum⟩
    all_goals obtain ⟨before, after, hsplit⟩ := List.append_of_mem hln
    · exact (hnothing before ln after hsplit).station
    · exact (hnothing before ln after hsplit).date

theorem parseCli_ok_iff_firstStated {text : Text} {r : CliReport} (hcli : hasF6Banner text = false) :
    parseCliProductText text = .ok r ↔ FirstStated text r ∧ r.Informative := by
  rw [parseCli_eq_ok_iff hcli]
  refine and_congr_left' ⟨?_, FirstStated.eq⟩
  rintro rfl
  exact firstStated_cliReport text

/-- A product without the F-6 banner is read as the report that states each value as its first
line to state it does, and is refused when no line states any. -/
theorem parseCli_stated {text : Text} (hcli : hasF6Banner text = false) :
    (∀ r, parseCliProductText text = .ok r ↔ FirstStated text r ∧ r.Informative) ∧
    ((∃ error, parseCliProductText text = .error error) ↔
      ∀ before ln after, linesOf text = before ++ ln :: after → StatesNothing before ln) := by
  refine ⟨fun r => parseCli_ok_iff_firstStated hcli, ?_⟩
  have hr := firstStated_cliReport text
  rw [← hr.not_informative_iff]
  cases hparse : parseCliProductText text with
  | error error =>
    refine iff_of_true ⟨error, rfl⟩ fun hinformative => ?_
    rw [(parseCli_ok_iff_firstStated hcli).mpr ⟨hr, hinformative⟩] at hparse
    cases hparse
  | ok r =>
    obtain ⟨hstated, hinformative⟩ := (parseCli_ok_iff_firstStated hcli).mp hparse
    exact iff_of_false (by rintro ⟨error, ⟨⟩⟩) (not_not.mpr (hstated.eq ▸ hinformative))

/-- The first line with a number after the label states the maximum, the record does not. -/
theorem parseCli_stated_second_line :
    FirstStated (ascii "TEMPERATURE\nMAXIMUM MM\nMAXIMUM 72 99\nMAXIMUM 80")
      { tmaxF := some 72, source := ascii "nws_api_cli" } :=
  (((parseCli_stated (by decide)).1 _).mp (by decide +kernel)).1

section Products

/-- A daily climate product by its lines: the heading of the issuing office, the line that
states the day, and a temperature section with both temperatures; other lines stand around
them, and any after the section. -/
structure DailyProduct where
  preamble : List Text
  digit : Byte
  office : Text
  time : Text
  body : List Text
  summary : SettlementLine
  remarks : List Text
  heading : Text
  readings : List Text
  rest : List Text
  value : Extreme → Int
  preamble_plain : ∀ ln ∈ preamble, ∀ c ∈ ln, isdigit c = true ∨ isspace c = true
  digit_digit : isdigit digit = true
  office_letters : ThreeLetters office
  no_for : ∀ ln ∈ preamble ++ wmoHeading (ascii "CDUS4" ++ [digit]) office time :: body,
    icontains ln (ascii "FOR ") = false
  summary_neutral : PrefixNeutral summary
  unopened : ∀ ln ∈ preamble ++ wmoHeading (ascii "CDUS4" ++ [digit]) office time ::
    (body ++ summary.text :: remarks), opensTemperature ln = false
  heading_opens : opensTemperature heading = true
  readings_inside : ∀ ln ∈ readings, opensTemperature ln = false ∧ closesTemperature ln = false
  readings_state (e : Extreme) : ∃ before ln after token columns, readings = before ++ ln :: after ∧
    (∀ l ∈ before, icontains l e.label = false) ∧ Columns e.label ln token columns ∧
    Observed token (some (value e))

namespace DailyProduct

variable (p : DailyProduct)

def front : List Text :=
  p.preamble ++ wmoHeading (ascii "CDUS4" ++ [p.digit]) p.office p.time ::
    (p.body ++ p.summary.text :: p.remarks)

def lines : List Text := p.front ++ p.heading :: (p.readings ++ p.rest)

/-- What the product reports. -/
def report (text : Text) : CliReport where
  station := 75 :: p.office
  date := isoDay p.summary.y p.summary.m p.summary.d
  tmaxF := some (p.value .maximum)
  tminF := some (p.value .minimum)
  isCorrected := corrected text
  source := ascii "nws_api_cli"

end DailyProduct

/-- Before the first line of a section with the label nothing states the temperature. -/
theorem silent_states {e : Extreme} {front others : List Text} {heading : Text}
    (hfront : ∀ ln ∈ front, opensTemperature ln = false)
    (hothers : ∀ ln ∈ others, icontains ln e.label = false) :
    Silent e.States (front ++ heading :: others) := by
  rintro before ln after hsplit v ⟨⟨front', heading', body, rfl, hopens, -⟩, hv⟩
  have hmem : ln ∈ others := by
    rw [List.append_assoc, List.cons_append] at hsplit
    rcases List.append_eq_append_iff.mp hsplit with ⟨between, -, hrest⟩ | ⟨between, hbetween, hrest⟩
    · cases between with
      | nil =>
        obtain ⟨-, rfl⟩ := List.cons.inj hrest
        simp
      | cons c between =>
        obtain ⟨-, rfl⟩ := List.cons.inj hrest
        simp
    · cases between with
      | nil =>
        obtain ⟨-, rfl⟩ := List.cons.inj hrest
        simp
      | cons c between =>
        -- the line that opens the section would stand before its heading
        obtain ⟨rfl, -⟩ := List.cons.inj hrest
        simp [hfront heading' (by simp [hbetween])] at hopens
  rw [labelled_of_not_icontains (hothers ln hmem)] at hv
  cases hv

theorem DailyProduct.firstStated (p : DailyProduct) {text : Text} (hlines : linesOf text = p.lines) :
    FirstStated text (p.report text) where
  station := by
    have hyields : Yields cliStation p.preamble
        (wmoHeading (ascii "CDUS4" ++ [p.digit]) p.office p.time) (75 :: p.office) :=
      ⟨cliStation_wmoHeading p.digit_digit p.office_letters, List.cons_ne_nil _ _⟩
    have hgiven : given (p.report text).station = some (75 :: p.office) :=
      given_eq_some_iff.mpr ⟨rfl, List.cons_ne_nil _ _⟩
    have hsplit : linesOf text =
        p.preamble ++ wmoHeading (ascii "CDUS4" ++ [p.digit]) p.office p.time ::
          (p.body ++ p.summary.text :: p.remarks ++ p.heading :: (p.readings ++ p.rest)) := by
      simp [hlines, lines, front]
    rw [hgiven]
    exact .found hsplit hyields (silent_yields_iff.mpr fun ln hln =>
      (preamble_scans (p.preamble_plain ln hln)).1)
  date := by
    have hdate : cliDate p.summary.text = isoDay p.summary.y p.summary.m p.summary.d :=
      p.summary.cliDate_eq_iff.mpr p.summary_neutral
    have hyields : Yields cliDate
        (p.preamble ++ wmoHeading (ascii "CDUS4" ++ [p.digit]) p.office p.time :: p.body)
        p.summary.text (p.report text).date := ⟨hdate, List.cons_ne_nil _ _⟩
    have hgiven : given (p.report text).date = some (p.report text).date :=
      given_eq_some_iff.mpr ⟨rfl, hyields.2⟩
    have hsplit : linesOf text =
        (p.preamble ++ wmoHeading (ascii "CDUS4" ++ [p.digit]) p.office p.time :: p.body) ++
          p.summary.text :: (p.remarks ++ p.heading :: (p.readings ++ p.rest)) := by
      simp [hlines, lines, front]
    rw [hgiven]
    exact .found hsplit hyields (silent_yields_iff.mpr fun ln hln =>
      cliDate_of_no_for (p.no_for ln hln))
  temperature e := by
    obtain ⟨before, ln, after, token, columns, hreadings, hbefore, hcolumns, hobserved⟩ :=
      p.readings_state e
    have hvalue : e.field (p.report text) = some (p.value e) := by cases e <;> rfl
    have hlabelled : labelled ln e.label = some (p.value e) :=
      (hcolumns.labelled_iff hobserved).mpr (Or.inl rfl)
    have hin : InTemperature (p.front ++ p.heading :: before) ln := by
      refine ⟨p.front, p.heading, before, rfl, p.heading_opens, fun l hl => ?_⟩
      apply p.readings_inside
      rw [hreadings]
      rcases List.mem_append.mp hl with hl | hl
      · exact List.mem_append_left _ hl
      · simp [List.mem_singleton.mp hl]
    have hsplit : linesOf text = (p.front ++ p.heading :: before) ++ ln :: (after ++ p.rest) := by
      simp [hlines, lines, hreadings]
    have hsilent : Silent e.States (p.front ++ p.heading :: before) :=
      silent_states p.unopened hbefore
    rw [hvalue]
    exact .found hsplit ⟨hin, hlabelled⟩ hsilent
  unread := rfl

/-- A daily climate product is read as the report of its station, its day and its two
temperatures, whatever stands around them. -/
theorem parseCli_product (p : DailyProduct) {text : Text} (hcli : hasF6Banner text = false)
    (hlines : linesOf text = p.lines) : parseCliProductText text = .ok (p.report text) :=
  (parseCli_ok_iff_firstStated hcli).mpr ⟨p.firstStated hlines, .inl (List.cons_ne_nil _ _)⟩

theorem observed_number {digits : Text} {n : Nat} (h : IsDecimal digits n) (hmax : (n : Int) ≤ intMax) :
    Observed digits (some n) := by
  have hnil : ∀ c, ([] : Text).head? = some c → isdigit c = false := by simp
  have hobserved := Observed.positive h hmax hnil
  rwa [List.append_nil] at hobserved

def newYorkValue : Extreme → Int
  | .maximum => 72
  | .minimum => 55

def newYorkProduct : DailyProduct where
  preamble := [ascii "000"]
  digit := 49
  office := ascii "OKX"
  time := ascii "161000"
  body := [ascii "CLINYC", []]
  summary := newYorkLine
  remarks := [[]]
  heading := ascii "TEMPERATURE (F)"
  readings := [" YESTERDAY", "  MAXIMUM   72   320 PM", "  MINIMUM   55   500 AM"].map ascii
  rest := ["PRECIPITATION (IN)", "  MAXIMUM   9"].map ascii
  value := newYorkValue
  preamble_plain := by decide
  digit_digit := by decide
  office_letters := by decide
  no_for := by decide +kernel
  summary_neutral := Or.inl (by decide +kernel)
  unopened := by decide +kernel
  heading_opens := by decide +kernel
  readings_inside := by decide +kernel
  readings_state e := by
    cases e with
    | maximum =>
      have hdecimal : IsDecimal (ascii "72") 72 := by decide
      exact ⟨[ascii " YESTERDAY"], ascii "  MAXIMUM   72   320 PM", _, ascii "72", ascii "   320 PM",
        rfl, by decide +kernel, ⟨ascii "  ", ascii "MAXIMUM", ascii "   ", by decide +kernel,
          by decide +kernel, by decide, by decide, by decide +kernel, by decide +kernel,
          by decide +kernel⟩,
        observed_number hdecimal (by decide)⟩
    | minimum =>
      have hdecimal : IsDecimal (ascii "55") 55 := by decide
      exact ⟨[" YESTERDAY", "  MAXIMUM   72   320 PM"].map ascii, ascii "  MINIMUM   55   500 AM",
        _, ascii "55", ascii "   500 AM", rfl, by decide +kernel,
        ⟨ascii "  ", ascii "MINIMUM", ascii "   ", by decide +kernel,
          by decide +kernel, by decide, by decide, by decide +kernel, by decide +kernel,
          by decide +kernel⟩,
        observed_number hdecimal (by decide)⟩

/-- The product with CRLF line endings. -/
def newYorkText : Text := [13, 10].intercalate newYorkProduct.lines

theorem parseCli_product_new_york : parseCliProductText newYorkText = .ok
    { station := ascii "KOKX", date := ascii "2026-05-16", tmaxF := some 72, tminF := some 55,
      source := ascii "nws_api_cli" } :=
  (parseCli_product newYorkProduct (by decide +kernel) (by decide +kernel)).trans
    (congrArg Except.ok (by decide +kernel))

end Products

end NwsCpp
