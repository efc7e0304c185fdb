import NwsCpp.NbpBulletin

/-! The blocks of an NBP bulletin read off the whole text, the loop as their
reader, and when the rows of a block stay under its columns. -/

namespace NwsCpp

open Bytes Runs Lines Decimal

def bulletinLines (text : Text) : List Text := (lines text).map stripCr

def endsBlock (ln : Text) : Bool := isHeader ln || contains ln (ascii "$$")

def rowLabel (ln : Text) : Text := (tokens ln).headD []

def rowCells (ln : Text) : List Text := (tokens ln).tail

def isColumnLine (ln : Text) : Bool := isColumnLabel (rowLabel ln)

def rowOf (ln : Text) : NbpRow := { label := rowLabel ln, values := (rowCells ln).map asValue }

/-- A header line and the lines strictly between it and the first later one that
is a header or has `$$`. -/
structure NbpBlock where
  header : Text
  body : List Text
  deriving DecidableEq

def blocks : List Text → List NbpBlock
  | [] => []
  | ln :: ls =>
    if isHeader ln then ⟨ln, ls.takeWhile fun l => !endsBlock l⟩ :: blocks ls else blocks ls

def printedLines (ls : List Text) : List Text := ls.filter fun ln => !(tokens ln).isEmpty

namespace NbpBlock

variable (b : NbpBlock)

def columnLine : Option Text := (printedLines b.body).find? isColumnLine

def columns : List Text := (b.columnLine.map rowCells).getD []

def rowLines : List Text := (printedLines b.body).eraseP isColumnLine

def station : NbpStation :=
  { headerStation b.header with columns := b.columns, rows := b.rowLines.map rowOf }

@[simp] theorem station_columns : b.station.columns = b.columns := rfl

@[simp] theorem station_rows : b.station.rows = b.rowLines.map rowOf := rfl

end NbpBlock

section Segmentation

theorem blocks_headers (ls : List Text) : (blocks ls).map NbpBlock.header = ls.filter isHeader := by
  induction ls with
  | nil => rfl
  | cons ln ls ih =>
    cases hh : isHeader ln with
    | true => simp [blocks, hh, ih]
    | false => simp [blocks, hh, ih]

theorem isHeader_iff {ln : Text} :
    isHeader ln = true ↔ ascii " NBP " <:+: ln ∧ ascii "GUIDANCE" <:+: ln := by
  rw [isHeader, Bool.and_eq_true, contains_iff, contains_iff]

theorem headerStation_ne_nil {ln : Text} (h : isHeader ln = true) :
    (headerStation ln).station.isEmpty = false := by
  have hblock : [(78 : Byte)] <:+: ln :=
    List.IsInfix.trans (by decide) (isHeader_iff.mp h).1
  obtain ⟨w, hw, -⟩ := exists_word_of_block (p := notSpace) (by simp)
    (by simp [notSpace, isspace]) hblock
  cases htok : tokens ln with
  | nil =>
    rw [tokens] at htok
    rw [htok] at hw
    exact absurd hw (by simp)
  | cons t ts =>
    have ht : t ∈ tokens ln := by simp [htok]
    simpa [headerStation, htok] using (mem_words ht).1

/-- The open block of a state after more lines of its body. -/
def NbpState.extended (st : NbpState) (body : List Text) : NbpStation :=
  { st.cur with
    columns := st.cur.columns ++
      if st.haveColumns then [] else (((printedLines body).find? isColumnLine).map rowCells).getD []
    rows := st.cur.rows ++
      (if st.haveColumns then printedLines body else (printedLines body).eraseP isColumnLine).map rowOf }

theorem extended_nil (st : NbpState) : st.extended [] = st.cur := by
  simp [NbpState.extended, printedLines]

theorem extended_header (ln : Text) (stations : List NbpStation) (body : List Text) :
    NbpState.extended
      { stations, cur := headerStation ln, inBlock := true, haveColumns := false } body =
      NbpBlock.station ⟨ln, body⟩ := by
  simp [NbpState.extended, NbpBlock.station, NbpBlock.columns, NbpBlock.columnLine,
    NbpBlock.rowLines, headerStation]

theorem extended_line {st : NbpState} (hst : st.inBlock = true) {ln : Text}
    (hln : endsBlock ln = false) :
    (nbpLine st ln).inBlock = true ∧ (nbpLine st ln).stations = st.stations ∧
      (nbpLine st ln).cur.station = st.cur.station ∧
      ∀ body, (nbpLine st ln).extended body = st.extended (ln :: body) := by
  obtain ⟨hh, hd⟩ := Bool.or_eq_false_iff.mp hln
  cases htok : tokens ln with
  | nil =>
    have hsame : nbpLine st ln = st := by simp [nbpLine, hh, hst, hd, htok]
    have hskip : ∀ body, printedLines (ln :: body) = printedLines body := by
      simp [printedLines, htok]
    rw [hsame]
    exact ⟨hst, rfl, rfl, fun body => by simp only [NbpState.extended, hskip]⟩
  | cons label cells =>
    have hkeep : ∀ body, printedLines (ln :: body) = ln :: printedLines body := by
      simp [printedLines, htok]
    rw [nbpLine_of_tokens hh hd htok hst]
    cases hcol : st.haveColumns with
    | true =>
      refine ⟨hst, rfl, rfl, fun body => ?_⟩
      simp [NbpState.extended, hcol, hkeep, rowOf, rowLabel, rowCells, htok]
    | false =>
      cases hlabel : isColumnLabel label with
      | true =>
        have hline : isColumnLine ln = true := by simpa [isColumnLine, rowLabel, htok] using hlabel
        refine ⟨hst, rfl, rfl, fun body => ?_⟩
        simp [NbpState.extended, hcol, hkeep, hline, rowCells, htok]
      | false =>
        have hline : isColumnLine ln = false := by simpa [isColumnLine, rowLabel, htok] using hlabel
        refine ⟨hst, rfl, rfl, fun body => ?_⟩
        simp [NbpState.extended, hcol, hkeep, hline, rowOf, rowLabel, rowCells, htok]

theorem flushed_foldl (ls : List Text) (st : NbpState) :
    (st.inBlock = false →
      (ls.foldl nbpLine st).flushed = st.stations ++ (blocks ls).map NbpBlock.station) ∧
    (st.inBlock = true → st.cur.station.isEmpty = false →
      (ls.foldl nbpLine st).flushed =
        st.stations ++ st.extended (ls.takeWhile fun l => !endsBlock l) ::
          (blocks ls).map NbpBlock.station) := by
  induction ls generalizing st with
  | nil =>
    refine ⟨fun hst => ?_, fun hst hcur => ?_⟩
    · simp [NbpState.flushed, hst, blocks]
    · simp [NbpState.flushed, NbpState.pushed, hst, hcur, blocks, extended_nil]
  | cons ln ls ih =>
    cases hh : isHeader ln with
    | true =>
      -- a header flushes an open block and opens its own
      have hopen := (ih (nbpLine st ln)).2
      rw [nbpLine_of_header hh] at hopen
      specialize hopen rfl (headerStation_ne_nil hh)
      rw [extended_header] at hopen
      have hends : endsBlock ln = true := by simp [endsBlock, hh]
      rw [List.foldl_cons, nbpLine_of_header hh, hopen, blocks, if_pos hh, List.map_cons]
      refine ⟨fun hst => ?_, fun hst hcur => ?_⟩
      · simp [NbpState.flushed, hst]
      · simp [NbpState.flushed, NbpState.pushed, hst, hcur, hends, extended_nil]
    | false =>
      have hblocks : blocks (ln :: ls) = blocks ls := by simp [blocks, hh]
      rw [List.foldl_cons, hblocks]
      refine ⟨fun hst => ?_, fun hst hcur => ?_⟩
      · rw [nbpLine_of_not_inBlock hh hst]
        exact (ih st).1 hst
      · cases hd : contains ln (ascii "$$") with
        | true =>
          have hends : endsBlock ln = true := by simp [endsBlock, hd]
          rw [nbpLine_of_end hh hd hst, (ih _).1 rfl]
          simp [NbpState.pushed, hcur, hends, extended_nil]
        | false =>
          have hends : endsBlock ln = false := by simp [endsBlock, hh, hd]
          obtain ⟨hin, hstations, hstation, hext⟩ := extended_line hst hends
          rw [(ih _).2 hin (hstation ▸ hcur), hstations, hext]
          simp [hends]

theorem parseNbp_eq (text : Text) :
    parseNbpBulletin text =
      if text.isEmpty then .error (.parse (ascii "empty NBP bulletin"))
      else if (blocks (bulletinLines text)).isEmpty then
        .error (.parse (ascii "no NBP station blocks found"))
      else .ok ((blocks (bulletinLines text)).map NbpBlock.station) := by
  have hrun := (flushed_foldl (bulletinLines text) {}).1 rfl
  rw [List.nil_append, bulletinLines] at hrun
  rw [parseNbpBulletin, hrun]
  simp only [List.isEmpty_map]
  rfl

theorem blocks_getElem (pre rest : List Text) {header : Text} (h : isHeader header = true) :
    (blocks (pre ++ header :: rest))[(pre.filter isHeader).length]? =
      some ⟨header, rest.takeWhile fun l => !endsBlock l⟩ := by
  induction pre with
  | nil => simp [blocks, h]
  | cons ln pre ih =>
    cases hh : isHeader ln with
    | true => simpa [blocks, hh] using ih
    | false => simpa [blocks, hh] using ih

theorem blocks_eq_nil_iff {ls : List Text} :
    blocks ls = [] ↔ ∀ ln ∈ ls, ¬ (ascii " NBP " <:+: ln ∧ ascii "GUIDANCE" <:+: ln) := by
  have hheaders := blocks_headers ls
  rw [← List.map_eq_nil_iff (f := NbpBlock.header), hheaders, List.filter_eq_nil_iff]
  simp only [isHeader_iff]

end Segmentation

/-- On every text: the parser fails exactly when no line is a header; else it
returns one station for each header, in order, made of that header and the lines
between it and the first later line that ends its block. -/
theorem parseNbp_blocks (text : Text) :
    ((∃ error, parseNbpBulletin text = .error error) ↔
      ∀ ln ∈ bulletinLines text, ¬ (ascii " NBP " <:+: ln ∧ ascii "GUIDANCE" <:+: ln)) ∧
    ∀ stations, parseNbpBulletin text = .ok stations →
      stations.length = ((bulletinLines text).filter isHeader).length ∧
      ∀ pre header rest, bulletinLines text = pre ++ header :: rest → isHeader header = true →
        stations[(pre.filter isHeader).length]? =
          some (NbpBlock.station ⟨header, rest.takeWhile fun l => !endsBlock l⟩) := by
  have hparse := parseNbp_eq text
  refine ⟨?_, fun stations hok => ?_⟩
  · rw [← blocks_eq_nil_iff, hparse]
    cases text with
    | nil => simpa using (by decide : blocks (bulletinLines []) = [])
    | cons c text => by_cases hb : blocks (bulletinLines (c :: text)) = [] <;> simp [hb]
  · obtain rfl : (blocks (bulletinLines text)).map NbpBlock.station = stations := by
      rw [hparse] at hok
      split_ifs at hok
      exact Except.ok.inj hok
    refine ⟨?_, fun pre header rest hls hh => ?_⟩
    · rw [← blocks_headers, List.length_map, List.length_map]
    · rw [hls, List.getElem?_map, blocks_getElem pre rest hh]
      rfl

section Alignment

/-- The cells of a line after its label, each with the byte offset of its end. -/
def cellsAt (ln : Text) : List (Text × Nat) :=
  ((runs notSpace ln).map fun r => (r.1, ln.length - r.2.length)).tail

/-- The byte offsets at which the column labels of a block end. -/
def NbpBlock.columnEnds (b : NbpBlock) : List Nat :=
  ((b.columnLine.map cellsAt).getD []).map Prod.snd

/-- What ends at offset `e` is printed under column `i`: the cells are adjusted to the
right of their columns, and no other label ends as near to `e` as that of `i`. -/
def PrintedUnder (ends : List Nat) (e i : Nat) : Prop :=
  i < ends.length ∧
    ∀ j < ends.length, j ≠ i → Nat.dist e (ends.getD i 0) < Nat.dist e (ends.getD j 0)

instance (ends : List Nat) (e i : Nat) : Decidable (PrintedUnder ends e i) :=
  inferInstanceAs (Decidable (_ ∧ _))

/-- The entries of a row are what its line has under the columns: one field for each
column, `none` for a blank one, and every cell of the line in the field it is
printed under. -/
def ReadInPlace (ends : List Nat) (cells : List (Text × Nat)) (row : NbpRow) : Prop :=
  ∃ fields : List (Option (Text × Nat)), fields.length = ends.length ∧
    fields.reduceOption = cells ∧
    (∀ i cell, fields[i]? = some (some cell) → PrintedUnder ends cell.2 i) ∧
    row.values = fields.map fun field => field.bind fun cell => asValue cell.1

/-- Every row of every station has one entry for each column of its station, the one
printed under that column. -/
structure RowsAligned (text : Text) (stations : List NbpStation) : Prop where
  sizes : ∀ s ∈ stations, ∀ row ∈ s.rows, row.values.length = s.columns.length
  under : ∀ (i : Nat) (b : NbpBlock) (s : NbpStation), (blocks (bulletinLines text))[i]? = some b →
    stations[i]? = some s → ∀ (j : Nat) (ln : Text) (row : NbpRow), b.rowLines[j]? = some ln →
      s.rows[j]? = some row → ReadInPlace b.columnEnds (cellsAt ln) row

theorem map_fst_cellsAt (ln : Text) : (cellsAt ln).map Prod.fst = rowCells ln := by
  rw [cellsAt, ← List.map_tail, List.map_map, List.map_tail]
  rfl

theorem length_cellsAt (ln : Text) : (cellsAt ln).length = (rowCells ln).length := by
  rw [← map_fst_cellsAt, List.length_map]

theorem length_columnEnds (b : NbpBlock) : b.columnEnds.length = b.columns.length := by
  cases h : b.columnLine with
  | none => simp [NbpBlock.columnEnds, NbpBlock.columns, h]
  | some ln => simp [NbpBlock.columnEnds, NbpBlock.columns, h, length_cellsAt]

theorem eq_map_some_of_full {α : Type*} {fields : List (Option α)}
    (hfull : ∀ field ∈ fields, field.isSome) : fields = fields.reduceOption.map some := by
  induction fields with
  | nil => rfl
  | cons field fields ih =>
    obtain ⟨a, rfl⟩ := Option.isSome_iff_exists.mp (hfull field (by simp))
    rw [List.reduceOption_cons_of_some, List.map_cons,
      ← ih fun g hg => hfull g (List.mem_cons_of_mem _ hg)]

theorem values_rowOf (ln : Text) :
    (rowOf ln).values = ((cellsAt ln).map some).map fun field => field.bind fun cell =>
      asValue cell.1 := by
  rw [rowOf, ← map_fst_cellsAt, List.map_map, List.map_map]
  rfl

/-- A line is read in place exactly when it has a cell for each column and the `k`-th
cell is printed under the `k`-th column. -/
theorem readInPlace_rowOf_iff {ends : List Nat} {ln : Text} :
    ReadInPlace ends (cellsAt ln) (rowOf ln) ↔
      (cellsAt ln).length = ends.length ∧
        ∀ (k : Nat) (hk : k < (cellsAt ln).length), PrintedUnder ends (cellsAt ln)[k].2 k := by
  constructor
  · rintro ⟨fields, hlen, hcells, hunder, hvalues⟩
    have hsize : (cellsAt ln).length = fields.length := by
      have hboth := congrArg List.length ((values_rowOf ln).symm.trans hvalues)
      simpa using hboth
    have hfull : ∀ field ∈ fields, field.isSome := by
      rw [← List.reduceOption_length_eq_iff, hcells, hsize]
    have hfields : fields = (cellsAt ln).map some := hcells ▸ eq_map_some_of_full hfull
    refine ⟨hsize.trans hlen, fun k hk => hunder k _ ?_⟩
    rw [hfields, List.getElem?_map, List.getElem?_eq_getElem hk, Option.map_some]
  · rintro ⟨hlen, hplace⟩
    refine ⟨(cellsAt ln).map some, by simpa using hlen,
      by simp [List.reduceOption, List.filterMap_map], fun i cell hi => ?_, values_rowOf ln⟩
    rw [List.getElem?_map, Option.map_eq_some_iff] at hi
    obtain ⟨cell', hcell, heq⟩ := hi
    obtain rfl := Option.some.inj heq
    obtain ⟨hk, rfl⟩ := List.getElem?_eq_some_iff.mp hcell
    exact hplace i hk

def boston (body : List String) : Text :=
  [10].intercalate ((["KBOS NBP GUIDANCE 1300 UTC"] ++ body ++ ["$$"]).map ascii)

def bostonStation (columns : List String) (values : List (Option Int)) : NbpStation :=
  { station := ascii "KBOS", cycleUtc := ascii "1300 UTC", columns := columns.map ascii,
    rows := [{ label := ascii "TXN", values }] }

/-- A cell in excess makes up for the blank one: four values under four columns, of
which the second stands under the third. -/
example : ∃ b ∈ blocks (bulletinLines (boston [" UTC  18 00 06 12", " TXN  68    52 70 99"])),
    ∃ ln ∈ b.rowLines, (cellsAt ln).length = b.columns.length ∧
      ¬ ReadInPlace b.columnEnds (cellsAt ln) (rowOf ln) := by
  refine ⟨_, List.mem_singleton_self _, _, List.mem_singleton_self _, by decide, fun hread => ?_⟩
  exact absurd ((readInPlace_rowOf_iff.mp hread).2 1 (by decide)) (by decide)

end Alignment

end NwsCpp
