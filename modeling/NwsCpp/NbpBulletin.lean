import NwsCpp.Error
import NwsCpp.Lines
import NwsCpp.Runs

/-! The NBP text bulletin parser: a line-driven state machine over station blocks. -/

namespace NwsCpp

open Bytes Runs Lines Decimal

/-- One labelled row with one value per forecast column. -/
structure NbpRow where
  label : Text
  values : List (Option Int)
  deriving DecidableEq

/-- One station block within an NBP bulletin. -/
structure NbpStation where
  station : Text := []
  cycleUtc : Text := []
  columns : List Text := []
  rows : List NbpRow := []
  deriving DecidableEq

def notSpace (c : Byte) : Bool := !isspace c

def tokens (s : Text) : List Text := words notSpace s

def missingMarkers : List Text := ["999", "-99", "NG", "**"].map ascii

def asValue (t : Text) : Option Int :=
  if t.isEmpty || missingMarkers.contains t then none
  else match fromChars t with
    | .ok v [] => some v
    | _ => none

structure NbpState where
  stations : List NbpStation := []
  cur : NbpStation := {}
  inBlock : Bool := false
  haveColumns : Bool := false
  deriving DecidableEq

def isHeader (line : Text) : Bool := contains line (ascii " NBP ") && contains line (ascii "GUIDANCE")

def isBlank (c : Byte) : Bool := c == 32 || c == 9

def headerStation (line : Text) : NbpStation :=
  { station := (tokens line).head?.getD []
    cycleUtc :=
      match find line (ascii "GUIDANCE") with
      | some gp => (line.drop (gp + 8)).dropWhile isBlank
      | none => [] }

/-- `stations` with the current block pushed, if it has a station. -/
def NbpState.pushed (st : NbpState) : List NbpStation :=
  if st.cur.station.isEmpty then st.stations else st.stations ++ [st.cur]

/-- `stations` with an open block pushed, as before a header and at the end. -/
def NbpState.flushed (st : NbpState) : List NbpStation :=
  if st.inBlock then st.pushed else st.stations

def isColumnLabel (label : Text) : Bool :=
  label == ascii "UTC" || label == ascii "FHR" || label == ascii "DT"

def nbpLine (st : NbpState) (line : Text) : NbpState :=
  if isHeader line then
    { stations := st.flushed, cur := headerStation line, inBlock := true, haveColumns := false }
  else if !st.inBlock then st
  else if contains line (ascii "$$") then
    { stations := st.pushed, cur := {}, inBlock := false, haveColumns := false }
  else
    match tokens line with
    | [] => st
    | label :: cells =>
      if !st.haveColumns && isColumnLabel label then
        { st with cur.columns := st.cur.columns ++ cells, haveColumns := true }
      else
        { st with cur.rows := st.cur.rows ++ [{ label, values := cells.map asValue }] }

def parseNbpBulletin (text : Text) : Result (List NbpStation) :=
  if text.isEmpty then .error (.parse (ascii "empty NBP bulletin"))
  else
    let stations := (((lines text).map stripCr).foldl nbpLine {}).flushed
    if stations.isEmpty then .error (.parse (ascii "no NBP station blocks found"))
    else .ok stations

section Lines

theorem contains_append_cr {ln needle : Text} (h : (13 : Byte) ∉ needle) :
    contains (ln ++ [13]) needle = contains ln needle := by
  rw [Bool.eq_iff_iff, contains_iff, contains_iff, List.infix_concat_iff]
  constructor
  · rintro (hs | hi)
    · obtain ⟨a, ha⟩ := hs
      cases needle using List.reverseRecOn with
      | nil => exact List.nil_infix
      | append_singleton n c =>
        rw [← List.append_assoc] at ha
        have hc := (List.append_inj' ha rfl).2
        simp only [List.cons.injEq, and_true] at hc
        exact absurd (by simp [hc]) h
    · exact hi
  · exact Or.inr

/-- Only a header reads a carriage return at the end of its line. -/
theorem nbpLine_stripCr (st : NbpState) (ln : Text)
    (h : isHeader ln = true → ln.getLast? ≠ some 13) :
    nbpLine st (stripCr ln) = nbpLine st ln := by
  rcases stripCr_cases ln with he | he
  · rw [he]
  · generalize stripCr ln = m at he
    subst he
    have hheader : isHeader (m ++ [13]) = isHeader m := by
      rw [isHeader, contains_append_cr (by decide), contains_append_cr (by decide), isHeader]
    have hno : isHeader m = false := by
      refine Bool.eq_false_iff.mpr fun hh => h (hheader.trans hh) (by simp)
    have htok : tokens (m ++ [13]) = tokens m := words_append_none_right m (by simp [notSpace, isspace])
    rw [nbpLine, nbpLine, hheader, hno, contains_append_cr (by decide), htok]
    simp only [Bool.false_eq_true, if_false]

theorem nbpLine_of_blank {ln : Text} (h : ∀ c ∈ ln, isspace c = true) (st : NbpState) :
    nbpLine st ln = st := by
  have hno : ∀ {needle : Text}, (∃ c ∈ needle, isspace c = false) → contains ln needle = false := by
    rintro needle ⟨c, hc, hs⟩
    refine Bool.eq_false_iff.mpr fun hh => ?_
    have := h c ((contains_iff.mp hh).subset hc)
    simp [hs] at this
  have htok : tokens ln = [] := by
    rw [tokens, words, runs_eq_nil_of_none fun c hc => by simp [notSpace, h c hc], List.map_nil]
  have hheader : isHeader ln = false := by
    rw [isHeader, hno ⟨78, by decide, by decide⟩, Bool.false_and]
  rw [nbpLine, hheader, hno ⟨36, by decide, by decide⟩, htok]
  cases st.inBlock <;> rfl

theorem nbpLine_of_not_inBlock {ln : Text} (h : isHeader ln = false) {st : NbpState}
    (hst : st.inBlock = false) : nbpLine st ln = st := by
  simp [nbpLine, h, hst]

theorem nbpLine_of_tokens {ln label : Text} {cells : List Text} (hh : isHeader ln = false)
    (hd : contains ln (ascii "$$") = false) (ht : tokens ln = label :: cells) {st : NbpState}
    (hst : st.inBlock = true) :
    nbpLine st ln =
      if !st.haveColumns && isColumnLabel label then
        { st with cur.columns := st.cur.columns ++ cells, haveColumns := true }
      else
        { st with cur.rows := st.cur.rows ++ [{ label, values := cells.map asValue }] } := by
  simp only [nbpLine, hh, hst, hd, ht, Bool.false_eq_true, if_false, Bool.not_true]

theorem nbpLine_of_end {ln : Text} (hh : isHeader ln = false)
    (hd : contains ln (ascii "$$") = true) {st : NbpState} (hst : st.inBlock = true) :
    nbpLine st ln = { stations := st.pushed, cur := {}, inBlock := false, haveColumns := false } := by
  simp [nbpLine, hh, hst, hd]

theorem nbpLine_of_header {ln : Text} (hh : isHeader ln = true) (st : NbpState) :
    nbpLine st ln =
      { stations := st.flushed, cur := headerStation ln, inBlock := true, haveColumns := false } := by
  simp [nbpLine, hh]

end Lines

end NwsCpp
