import NwsCpp.Error
import NwsCpp.Lines
import NwsCpp.Runs

/-! The daily climate report parsers: CLI text products and the tabular CF6
layout. A position in a `string_view` is the text that starts there. -/

namespace NwsCpp

open Bytes Runs Lines Decimal

/-- One station-day climate settlement record. Temperatures are integers that
the source stores in a `double`. -/
structure CliReport where
  station : Text := []
  date : Text := []
  tmaxF : Option Int := none
  tminF : Option Int := none
  isPreliminary : Bool := true
  isCorrected : Bool := false
  source : Text := []
  issuanceTime : Text := []
  deriving DecidableEq

/-- `lines_of` strips the carriage return of every line but an unterminated last one. -/
def stripEnded : List Text → List Text
  | [] => []
  | [last] => [last]
  | ln :: rest => stripCr ln :: stripEnded rest

def linesOf (text : Text) : List Text := stripEnded (lines text)

/-- The inner loop of `ifind`: `needle` starts the text, whatever the case. -/
def imatch : Text → Text → Bool
  | [], _ => true
  | _ :: _, [] => false
  | n :: needle, h :: hay => toupper h == toupper n && imatch needle hay

def ifind (hay needle : Text) : Option Nat := search (imatch needle) hay

def icontains (hay needle : Text) : Bool := (ifind hay needle).isSome

def firstInt : Text → Option Int
  | [] => none
  | c :: cs =>
    if isdigit c || (c == 45 && (cs.head?.map isdigit).getD false) then
      match fromChars (c :: cs.takeWhile isdigit) with
      | .ok v _ => some v
      | _ => firstInt cs
    else firstInt cs

def kM : List Text :=
  ["JAN", "FEB", "MAR", "APR", "MAY", "JUN", "JUL", "AUG", "SEP", "OCT", "NOV", "DEC"].map ascii

/-- The month whose abbreviation the first three letters of a word are, 0 for none. -/
def wordMonth (w : Text) : Nat :=
  if w.length < 3 then 0
  else ((kM.findIdx? (· == (w.take 3).map toupper)).map (· + 1)).getD 0

/-- Month number from the first whole word whose first three letters are a month
abbreviation, with the text after that word (`month_end`). -/
def monthNum (line : Text) : Nat × Text :=
  match (runs isalpha line).find? (fun r => wordMonth r.1 != 0) with
  | some r => (wordMonth r.1, r.2)
  | none => (0, [])

/-- The buffer filled by `snprintf(buf, 11, "%04d-%02d-%02d", year, month, day)`. -/
def isoDate (year : Int) (month : Nat) (day : Int) : Text :=
  (zeroPad 4 year ++ 45 :: zeroPad 2 month ++ 45 :: zeroPad 2 day).take 10

def unrecognizedLayout : Error := .parse (ascii "unrecognized CLI/CF6 product layout")

def corrected (text : Text) : Bool :=
  icontains text (ascii "CORRECTED") || icontains text (ascii "...COR")

section Cf6

structure Cf6State where
  month : Nat := 0
  year : Int := 0
  station3letter : Text := []
  pastDataHeader : Bool := false
  bestDay : Int := 0
  bestTmax : Option Int := none
  bestTmin : Option Int := none
  deriving DecidableEq

/-- The three upper-case letters after the first `CF6` of a line. -/
def cf6Station (ln : Text) : Text :=
  match find ln (ascii "CF6") with
  | some pos =>
    if pos + 6 ≤ ln.length then
      let cand := substr ln (pos + 3) 3
      if cand.length == 3 && cand.all isupper then cand else []
    else []
  | none => []

def cf6Year (ln : Text) : Int :=
  (((words isdigit ln).map readInt).find? fun v => 1900 ≤ v && v ≤ 2200).getD 0

def isDataHeader (ln : Text) : Bool :=
  match find ln (ascii "DY") with
  | some dy => decide (dy < 5) && contains ln (ascii "MAX") && contains ln (ascii "MIN")
  | none => false

def isSummary (body : Text) : Bool :=
  ["SM ", "AV ", "NOTES", "$$", "MAX(", "MISC"].any fun w => (ascii w).isPrefixOf body

def parseTemp (t : Text) : Option Int :=
  if t == ascii "M" || t == ascii "T" then none
  else match fromChars t with
    | .ok v _ => some v
    | _ => none

def cf6Row (st : Cf6State) (toks : List Text) : Cf6State :=
  match toks with
  | t0 :: t1 :: t2 :: _ =>
    match fromChars t0 with
    | .ok day _ =>
      if day < 1 ∨ day > 31 then st
      else
        let tmax := parseTemp t1
        let tmin := parseTemp t2
        if tmax.isSome && tmin.isSome && decide (day > st.bestDay) then
          { st with bestDay := day, bestTmax := tmax, bestTmin := tmin }
        else st
    | _ => st
  | _ => st

def cf6Metadata (st : Cf6State) (ln : Text) : Cf6State :=
  let st := if st.station3letter.isEmpty then { st with station3letter := cf6Station ln } else st
  let st :=
    if st.month == 0 && icontains ln (ascii "MONTH:") && (monthNum ln).1 != 0 then
      { st with month := (monthNum ln).1 }
    else st
  if st.year == 0 && icontains ln (ascii "YEAR:") then { st with year := cf6Year ln } else st

/-- The header and row part of the loop body; the flag is `break`. -/
def cf6Table (st : Cf6State) (ln : Text) : Cf6State × Bool :=
  if !st.pastDataHeader then
    (if isDataHeader ln then { st with pastDataHeader := true } else st, false)
  else
    let body := ln.dropWhile isspace
    if body.isEmpty || body.head? == some 61 then (st, false)
    else if isSummary body then (st, true)
    else (cf6Row st (words (fun c => !isspace c) body), false)

def cf6Loop (st : Cf6State) : List Text → Cf6State
  | [] => st
  | ln :: ls =>
    match cf6Table (cf6Metadata st ln) ln with
    | (st', true) => st'
    | (st', false) => cf6Loop st' ls

def parseCf6ProductText (text : Text) : Result CliReport :=
  let st := cf6Loop {} (linesOf text)
  if st.month = 0 ∨ st.year = 0 ∨ st.bestDay = 0 then .error unrecognizedLayout
  else .ok
    { station := if st.station3letter.isEmpty then [] else 75 :: st.station3letter
      date := isoDate st.year st.month st.bestDay
      tmaxF := st.bestTmax
      tminF := st.bestTmin
      isPreliminary := icontains text (ascii "PRELIMINARY")
      isCorrected := corrected text
      source := ascii "nws_api_cf6" }

end Cf6

section Cli

/-- The K-ICAO after the first `" K"` of a line. -/
def cliStation (ln : Text) : Text :=
  match find ln (ascii " K") with
  | some kpos =>
    if kpos + 5 ≤ ln.length then
      let cand := substr ln (kpos + 1) 4
      if cand.length == 4 && cand.head? == some 75 && cand.tail.all isupper then cand else []
    else []
  | none => []

def dateNumber (acc : Option Int × Option Int) (v : Int) : Option Int × Option Int :=
  if acc.1.isNone && decide (1 ≤ v) && decide (v ≤ 31) then (some v, acc.2)
  else if acc.2.isNone && decide (1900 ≤ v) && decide (v ≤ 2200) then (acc.1, some v)
  else acc

def dayAndYear (s : Text) : Option Int × Option Int :=
  ((words isdigit s).map readInt).foldl dateNumber (none, none)

def cliDate (ln : Text) : Text :=
  if icontains ln (ascii "FOR ") && (monthNum ln).1 != 0 then
    match dayAndYear (monthNum ln).2 with
    | (some dd, some yyyy) => isoDate yyyy (monthNum ln).1 dd
    | _ => []
  else []

def labelled (ln : Text) (label : Text) : Option Int :=
  match ifind ln label with
  | some pos => firstInt (ln.drop (pos + label.length))
  | none => none

structure CliState where
  report : CliReport
  inTemperature : Bool := false
  deriving DecidableEq

def cliHeading (r : CliReport) (ln : Text) : CliReport :=
  let r := if r.station.isEmpty then { r with station := cliStation ln } else r
  if r.date.isEmpty then { r with date := cliDate ln } else r

def cliTemperature (st : CliState) (ln : Text) : CliState :=
  if icontains ln (ascii "TEMPERATURE") then { st with inTemperature := true }
  else
    let inTemperature := st.inTemperature &&
      !(icontains ln (ascii "PRECIPITATION") || icontains ln (ascii "WIND") ||
        icontains ln (ascii "RELATIVE"))
    let r := st.report
    let r :=
      if inTemperature && r.tmaxF.isNone && icontains ln (ascii "MAXIMUM") then
        { r with tmaxF := labelled ln (ascii "MAXIMUM") }
      else r
    let r :=
      if inTemperature && r.tminF.isNone && icontains ln (ascii "MINIMUM") then
        { r with tminF := labelled ln (ascii "MINIMUM") }
      else r
    { report := r, inTemperature }

def cliLine (st : CliState) (ln : Text) : CliState :=
  cliTemperature { st with report := cliHeading st.report ln } ln

def hasF6Banner (text : Text) : Bool :=
  icontains text (ascii "WS FORM: F-6") || icontains text (ascii "WS FORM F-6") ||
    icontains text (ascii "WS FORM:  F-6")

def cliStart (text : Text) : CliState :=
  { report := { source := ascii "nws_api_cli", isCorrected := corrected text } }

def parseCliProductText (text : Text) : Result CliReport :=
  if text.isEmpty then .error (.parse (ascii "empty CLI product text"))
  else if hasF6Banner text then parseCf6ProductText text
  else
    let r := ((linesOf text).foldl cliLine (cliStart text)).report
    if r.station.isEmpty && r.date.isEmpty && r.tmaxF.isNone && r.tminF.isNone then
      .error unrecognizedLayout
    else .ok r

end Cli

end NwsCpp
