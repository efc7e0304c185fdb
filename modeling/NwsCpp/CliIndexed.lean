import NwsCpp.CliReport
import NwsCpp.IndexScan

/-! The climate report parsers as loops over positions: each access is checked,
each loop has fuel, and the date buffer must hold what is printed to it. -/

namespace NwsCpp.Indexed

open Bytes Decimal Scan

/-- `text.find(c, pos)`. -/
def findFrom (text : Text) (c : Byte) (pos : Nat) : Option Nat :=
  ((text.drop pos).findIdx? (· == c)).map (pos + ·)

def stripBack (ln : Text) : Except Fault Text :=
  if ln.isEmpty then .ok ln
  else do
    let back ← get ln (ln.length - 1)
    .ok (if back == 13 then ln.dropLast else ln)

/-- The loop of `lines_of`. -/
def linesFrom (text : Text) : Nat → Nat → List Text → Except Fault (List Text)
  | 0, _, _ => .error .unfinished
  | fuel + 1, start, out =>
    if start ≤ text.length then
      match findFrom text 10 start with
      | none => do
        let last ← substrFrom text start
        .ok (out ++ [last])
      | some nl => do
        let ln ← between text start nl
        let ln ← stripBack ln
        linesFrom text fuel (nl + 1) (out ++ [ln])
    else .ok out

def linesOf (text : Text) : Except Fault (List Text) := linesFrom text (text.length + 1) 0 []

/-- The inner loop of `ifind` at position `i`. -/
def imatchFrom (hay needle : Text) (i : Nat) : Nat → Nat → Except Fault Bool
  | 0, _ => .error .unfinished
  | fuel + 1, j =>
    if j < needle.length then do
      let h ← get hay (i + j)
      let n ← get needle j
      if toupper h == toupper n then imatchFrom hay needle i fuel (j + 1) else .ok false
    else .ok true

def ifindFrom (hay needle : Text) : Nat → Nat → Except Fault (Option Nat)
  | 0, _ => .error .unfinished
  | fuel + 1, i =>
    if i + needle.length ≤ hay.length then do
      let ok ← imatchFrom hay needle i (needle.length + 1) 0
      if ok then .ok (some i) else ifindFrom hay needle fuel (i + 1)
    else .ok none

def ifind (hay needle : Text) : Except Fault (Option Nat) :=
  if needle.length > hay.length then .ok none else ifindFrom hay needle (hay.length + 1) 0

def icontains (hay needle : Text) : Except Fault Bool := do
  let pos ← ifind hay needle
  .ok pos.isSome

/-- `icontains(hay, n1) || icontains(hay, n2) || ...`. -/
def icontainsAny (hay : Text) : List Text → Except Fault Bool
  | [] => .ok false
  | needle :: needles => do
    let found ← icontains hay needle
    if found then .ok true else icontainsAny hay needles

/-- An integer starts at `i`: a digit, or a minus sign with a digit after it. -/
def startsInt (s : Text) (i : Nat) : Except Fault Bool := do
  let c ← get s i
  if isdigit c then .ok true
  else if c == 45 && decide (i + 1 < s.length) then do
    let d ← get s (i + 1)
    .ok (isdigit d)
  else .ok false

def firstIntFrom (s : Text) : Nat → Nat → Except Fault (Option Int)
  | 0, _ => .error .unfinished
  | fuel + 1, i =>
    if i < s.length then do
      let start ← startsInt s i
      if start then do
        let j ← skipWhile isdigit s (s.length + 1) (i + 1)
        let token ← between s i j
        match fromChars token with
        | .ok v _ => .ok (some v)
        | _ => firstIntFrom s fuel (i + 1)
      else firstIntFrom s fuel (i + 1)
    else .ok none

def firstInt (s : Text) : Except Fault (Option Int) := firstIntFrom s (s.length + 1) 0

/-- The body of the loop of `month_num` for a word from `i` to `j`. -/
def monthWord (line : Text) (i j : Nat) (unset : Nat × Nat) : Except Fault ((Nat × Nat) × Bool) :=
  if j - i < 3 then .ok (unset, false)
  else do
    let a ← get line i
    let b ← get line (i + 1)
    let c ← get line (i + 2)
    .ok <| match kM.findIdx? (· == [toupper a, toupper b, toupper c]) with
      | some m => ((m + 1, j), true)
      | none => (unset, false)

/-- The month and the position after its word. -/
def monthNum (line : Text) : Except Fault (Nat × Nat) :=
  forRuns isalpha 0 line (monthWord line) (line.length + 1) 0 (0, 0)

/-- `snprintf(buf, 11, "%04d-%02d-%02d", year, month, day)`. -/
def isoDate (year : Int) (month : Nat) (day : Int) : Except Fault Text :=
  let printed := zeroPad 4 year ++ 45 :: zeroPad 2 month ++ 45 :: zeroPad 2 day
  if printed.length < 11 then .ok printed else .error .truncated

def corrected (text : Text) : Except Fault Bool :=
  icontainsAny text [ascii "CORRECTED", ascii "...COR"]

section Cf6

def cf6Station (ln : Text) : Except Fault Text :=
  match find ln (ascii "CF6") with
  | some pos =>
    if pos + 6 ≤ ln.length then do
      let cand ← Scan.substr ln (pos + 3) 3
      .ok (if cand.length == 3 && cand.all isupper then cand else [])
    else .ok []
  | none => .ok []

def yearNumber (ln : Text) (p q : Nat) (year : Int) : Except Fault (Int × Bool) := do
  let digits ← between ln p q
  let v := readInt digits
  .ok (if 1900 ≤ v && v ≤ 2200 then (v, true) else (year, false))

def cf6Year (ln : Text) : Except Fault Int :=
  forRuns isdigit 1 ln (yearNumber ln) (ln.length + 1) 0 0

def pushToken (ln : Text) (i j : Nat) (toks : List Text) : Except Fault (List Text × Bool) := do
  let tok ← between ln i j
  .ok (toks ++ [tok], false)

def tokens (ln : Text) (s : Nat) : Except Fault (List Text) :=
  forRuns (fun c => !isspace c) 0 ln (pushToken ln) (ln.length + 1) s []

def cf6Row (st : Cf6State) (toks : List Text) : Except Fault Cf6State :=
  if toks.length < 3 then .ok st
  else do
    let t0 ← get toks 0
    match fromChars t0 with
    | .ok day _ =>
      if day < 1 ∨ day > 31 then .ok st
      else do
        let t1 ← get toks 1
        let t2 ← get toks 2
        let tmax := parseTemp t1
        let tmin := parseTemp t2
        .ok (if tmax.isSome && tmin.isSome && decide (day > st.bestDay) then
          { st with bestDay := day, bestTmax := tmax, bestTmin := tmin }
        else st)
    | _ => .ok st

def readStation (st : Cf6State) (ln : Text) : Except Fault Cf6State :=
  if st.station3letter.isEmpty then do
    let station3letter ← cf6Station ln
    .ok { st with station3letter }
  else .ok st

def readMonth (st : Cf6State) (ln : Text) : Except Fault Cf6State :=
  if st.month == 0 then do
    let labelled ← icontains ln (ascii "MONTH:")
    if labelled then do
      let m ← monthNum ln
      .ok (if m.1 != 0 then { st with month := m.1 } else st)
    else .ok st
  else .ok st

def readYear (st : Cf6State) (ln : Text) : Except Fault Cf6State :=
  if st.year == 0 then do
    let labelled ← icontains ln (ascii "YEAR:")
    if labelled then do
      let year ← cf6Year ln
      .ok { st with year }
    else .ok st
  else .ok st

def cf6Metadata (st : Cf6State) (ln : Text) : Except Fault Cf6State := do
  let st ← readStation st ln
  let st ← readMonth st ln
  readYear st ln

/-- A line of the table that is not blank, from its first letter on. -/
def cf6Body (st : Cf6State) (ln : Text) (s : Nat) : Except Fault (Cf6State × Bool) := do
  let body ← substrFrom ln s
  if isSummary body then .ok (st, true)
  else do
    let toks ← tokens ln s
    let st ← cf6Row st toks
    .ok (st, false)

def cf6Table (st : Cf6State) (ln : Text) : Except Fault (Cf6State × Bool) :=
  if !st.pastDataHeader then
    .ok (if isDataHeader ln then { st with pastDataHeader := true } else st, false)
  else do
    let s ← skipWhile isspace ln (ln.length + 1) 0
    if s ≥ ln.length then .ok (st, false)
    else do
      let c ← get ln s
      if c == 61 then .ok (st, false) else cf6Body st ln s

def cf6Loop (st : Cf6State) : List Text → Except Fault Cf6State
  | [] => .ok st
  | ln :: ls => do
    let st ← cf6Metadata st ln
    let next ← cf6Table st ln
    if next.2 then .ok next.1 else cf6Loop next.1 ls

def parseCf6ProductText (text : Text) : Except Fault (Result CliReport) := do
  let isPreliminary ← icontains text (ascii "PRELIMINARY")
  let isCorrected ← corrected text
  let ls ← linesOf text
  let st ← cf6Loop {} ls
  if st.month = 0 ∨ st.year = 0 ∨ st.bestDay = 0 then .ok (.error unrecognizedLayout)
  else do
    let date ← isoDate st.year st.month st.bestDay
    .ok (.ok
      { station := if st.station3letter.isEmpty then [] else 75 :: st.station3letter
        date
        tmaxF := st.bestTmax
        tminF := st.bestTmin
        isPreliminary
        isCorrected
        source := ascii "nws_api_cf6" })

end Cf6

section Cli

/-- `cand[0] == 'K'` and upper-case letters from position 1 on. -/
def isIcao (cand : Text) : Except Fault Bool :=
  if cand.length == 4 then do
    let k ← get cand 0
    if k == 75 then allFrom isupper cand (cand.length + 1) 1 else .ok false
  else .ok false

def cliStation (ln : Text) : Except Fault Text :=
  match find ln (ascii " K") with
  | some kpos =>
    if kpos + 5 ≤ ln.length then do
      let cand ← Scan.substr ln (kpos + 1) 4
      let icao ← isIcao cand
      .ok (if icao then cand else [])
    else .ok []
  | none => .ok []

def pushNumber (ln : Text) (p q : Nat) (acc : Option Int × Option Int) :
    Except Fault ((Option Int × Option Int) × Bool) := do
  let digits ← between ln p q
  .ok (dateNumber acc (readInt digits), false)

/-- The scan for the day and the year from `monthEnd` on. -/
def dayAndYear (ln : Text) (monthEnd : Nat) : Except Fault (Option Int × Option Int) :=
  forRuns isdigit 1 ln (pushNumber ln) (ln.length + 1) monthEnd (none, none)

def cliDate (ln : Text) : Except Fault Text := do
  let named ← icontains ln (ascii "FOR ")
  if named then do
    let m ← monthNum ln
    if m.1 != 0 then do
      let numbers ← dayAndYear ln m.2
      match numbers with
      | (some dd, some yyyy) => isoDate yyyy m.1 dd
      | _ => .ok []
    else .ok []
  else .ok []

/-- `first_int(ln.substr(ifind(ln, label) + label.size()))`. -/
def labelled (ln label : Text) : Except Fault (Option Int) := do
  let pos ← ifind ln label
  match pos with
  | some pos => do
    let s ← substrFrom ln (pos + label.length)
    firstInt s
  | none => .error .outOfRange

def cliHeading (r : CliReport) (ln : Text) : Except Fault CliReport := do
  let station ← if r.station.isEmpty then cliStation ln else .ok r.station
  let date ← if r.date.isEmpty then cliDate ln else .ok r.date
  .ok { r with station, date }

def readTemperature (inTemperature : Bool) (old : Option Int) (ln label : Text) :
    Except Fault (Option Int) :=
  if inTemperature && old.isNone then do
    let named ← icontains ln label
    if named then labelled ln label else .ok old
  else .ok old

def cliTemperature (st : CliState) (ln : Text) : Except Fault CliState := do
  let opens ← icontains ln (ascii "TEMPERATURE")
  if opens then .ok { st with inTemperature := true }
  else do
    let closes ← if st.inTemperature then
        icontainsAny ln [ascii "PRECIPITATION", ascii "WIND", ascii "RELATIVE"]
      else .ok false
    let inTemperature := st.inTemperature && !closes
    let tmaxF ← readTemperature inTemperature st.report.tmaxF ln (ascii "MAXIMUM")
    let tminF ← readTemperature inTemperature st.report.tminF ln (ascii "MINIMUM")
    .ok { report := { st.report with tmaxF, tminF }, inTemperature }

def cliLine (st : CliState) (ln : Text) : Except Fault CliState := do
  let report ← cliHeading st.report ln
  cliTemperature { st with report } ln

def parseCliProductText (text : Text) : Except Fault (Result CliReport) :=
  if text.isEmpty then .ok (.error (.parse (ascii "empty CLI product text")))
  else do
    let banner ← icontainsAny text
      [ascii "WS FORM: F-6", ascii "WS FORM F-6", ascii "WS FORM:  F-6"]
    if banner then parseCf6ProductText text
    else do
      let isCorrected ← corrected text
      let ls ← linesOf text
      let st ← ls.foldlM cliLine { report := { source := ascii "nws_api_cli", isCorrected } }
      let r := st.report
      .ok (if r.station.isEmpty && r.date.isEmpty && r.tmaxF.isNone && r.tminF.isNone then
        .error unrecognizedLayout
      else .ok r)

end Cli

end NwsCpp.Indexed
