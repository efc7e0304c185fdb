import NwsCpp.NbpBulletin

/-! Rendered NBP bulletins, with every freedom of layout, and the parser as
their inverse. -/

namespace NwsCpp

open Bytes Runs Lines Decimal

section Spec

def Blank (ln : Text) : Prop := ∀ c ∈ ln, isspace c = true

def Token (t : Text) : Prop :=
  t ≠ [] ∧ (∀ c ∈ t, isspace c = false) ∧ ¬ ascii "$$" <:+: t

inductive Spaced : List Text → Text → Prop
  | nil {gap : Text} : Blank gap → Spaced [] gap
  | cons {gap tok rest : Text} {toks : List Text} :
      Blank gap → tok ≠ [] → (∀ c ∈ tok, isspace c = false) →
      (∀ c, rest.head? = some c → isspace c = true) →
      Spaced toks rest → Spaced (tok :: toks) (gap ++ tok ++ rest)

/-- A value as written: a marker for a missing one, else the decimal numeral. -/
inductive Cell : Option Int → Text → Prop
  | missing {t : Text} : t ∈ missingMarkers → Cell none t
  | value {v : Int} : intMin ≤ v → v ≤ intMax → v ≠ 999 → v ≠ -99 → Cell (some v) (intText v)

def NotHeader (ln : Text) : Prop := ¬ (ascii " NBP " <:+: ln ∧ ascii "GUIDANCE" <:+: ln)

/-- Station, text with ` NBP `, the line's first `GUIDANCE`, blanks, cycle stamp. -/
def HeaderLine (s : NbpStation) (ln : Text) : Prop :=
  ∃ gap mid blanks : Text,
    ln = gap ++ s.station ++ mid ++ ascii "GUIDANCE" ++ (blanks ++ s.cycleUtc) ∧
    Blank gap ∧ (∃ c, mid.head? = some c ∧ isspace c = true) ∧ ascii " NBP " <:+: mid ∧
    (∀ p q, ln = p ++ ascii "GUIDANCE" ++ q → (gap ++ s.station ++ mid).length ≤ p.length) ∧
    (∀ c ∈ blanks, isBlank c = true) ∧ (∃ c, s.cycleUtc.head? = some c ∧ isBlank c = false) ∧
    s.cycleUtc.getLast? ≠ some 13

def ColumnLine (columns : List Text) (ln : Text) : Prop :=
  NotHeader ln ∧ ∃ label ∈ ["UTC", "FHR", "DT"].map ascii, Spaced (label :: columns) ln

def RowLine (row : NbpRow) (ln : Text) : Prop :=
  NotHeader ln ∧ ∃ cells, Spaced (row.label :: cells) ln ∧ List.Forall₂ Cell row.values cells

inductive RowLines : List NbpRow → List Text → Prop
  | nil : RowLines [] []
  | blank {ln : Text} {rows : List NbpRow} {ls : List Text} :
      Blank ln → RowLines rows ls → RowLines rows (ln :: ls)
  | row {row : NbpRow} {ln : Text} {rows : List NbpRow} {ls : List Text} :
      RowLine row ln → RowLines rows ls → RowLines (row :: rows) (ln :: ls)

structure WellFormed (s : NbpStation) : Prop where
  station : Token s.station
  columns : ∀ t ∈ s.columns, Token t
  labels : ∀ r ∈ s.rows, Token r.label

/-- A block without its terminator: header, blank lines, columns, rows. -/
def BlockLines (s : NbpStation) (ls : List Text) : Prop :=
  ∃ header blanks columns rows,
    ls = header :: (blanks ++ columns :: rows) ∧ HeaderLine s header ∧
    (∀ ln ∈ blanks, Blank ln) ∧ ColumnLine s.columns columns ∧ RowLines s.rows rows

def EndLine (ln : Text) : Prop := NotHeader ln ∧ ascii "$$" <:+: ln

/-- Blocks in order; a `$$` line and header-free lines after it may stand
between two blocks and at the end. -/
inductive Bulletin : List NbpStation → List Text → Prop
  | nil : Bulletin [] []
  | unterminated {s : NbpStation} {rest : List NbpStation} {ls more : List Text} :
      WellFormed s → BlockLines s ls → Bulletin rest more → Bulletin (s :: rest) (ls ++ more)
  | terminated {s : NbpStation} {rest : List NbpStation} {ls junk more : List Text} {e : Text} :
      WellFormed s → BlockLines s ls → EndLine e → (∀ ln ∈ junk, NotHeader ln) →
      Bulletin rest more → Bulletin (s :: rest) (ls ++ e :: (junk ++ more))

end Spec

section Lines

theorem NotHeader.isHeader_eq {ln : Text} (h : NotHeader ln) : isHeader ln = false := by
  refine Bool.eq_false_iff.mpr fun hh => h ?_
  simp only [isHeader, Bool.and_eq_true, contains_iff] at hh
  exact hh

theorem blank_not_header {ln : Text} (h : Blank ln) : isHeader ln = false := by
  refine NotHeader.isHeader_eq fun hh => ?_
  exact absurd (h 78 (hh.1.subset (by decide))) (by decide)

theorem Spaced.tokens_eq {toks : List Text} {ln : Text} (h : Spaced toks ln) :
    tokens ln = toks := by
  have hgap : ∀ {gap : Text}, Blank gap → ∀ c ∈ gap, notSpace c = false :=
    fun hg c hc => by simp [notSpace, hg c hc]
  induction h with
  | nil hg => rw [tokens, words, runs_eq_nil_of_none (hgap hg), List.map_nil]
  | @cons gap tok rest toks hg hne htok hrest _ ih =>
    rw [tokens, List.append_assoc, words_append_of_none (hgap hg), words_append_run hne
      (fun c hc => by simp [notSpace, htok c hc]) (fun c hc => by simp [notSpace, hrest c hc])]
    exact congrArg (tok :: ·) ih

theorem spaced_tokens (ln : Text) : Spaced (tokens ln) ln := by
  induction hn : ln.length using Nat.strongRecOn generalizing ln with
  | ind n ih =>
    have hgap : Blank (ln.takeWhile isspace) := fun c hc => List.mem_takeWhile_imp hc
    have hsplit : ln = ln.takeWhile isspace ++ ln.dropWhile isspace :=
      (List.takeWhile_append_dropWhile).symm
    cases hd : ln.dropWhile isspace with
    | nil =>
      rw [hd, List.append_nil] at hsplit
      rw [← hsplit] at hgap
      have htok : tokens ln = [] := by
        rw [tokens, words, runs_eq_nil_of_none fun c hc => by simp [notSpace, hgap c hc],
          List.map_nil]
      exact htok ▸ .nil hgap
    | cons c cs =>
      have hc : isspace c = false := by
        have h := List.head?_dropWhile_not isspace ln
        rw [hd] at h
        simpa using h
      let tok := c :: cs.takeWhile notSpace
      let rest := cs.dropWhile notSpace
      have htok : ∀ d ∈ tok, isspace d = false := by
        intro d hd
        rcases List.mem_cons.mp hd with rfl | hd
        · exact hc
        · simpa [notSpace] using List.mem_takeWhile_imp hd
      have hrest : ∀ d, rest.head? = some d → isspace d = true := by
        intro d hd
        have h := List.head?_dropWhile_not notSpace cs
        simpa [rest, notSpace, hd] using h
      have hln : ln = ln.takeWhile isspace ++ tok ++ rest := by
        rw [hd] at hsplit
        simpa [tok, rest] using hsplit
      have hlen : rest.length < n := by
        have := congrArg List.length hln
        simp only [List.length_append, tok, List.length_cons] at this
        omega
      have hsp := Spaced.cons hgap (List.cons_ne_nil _ _) htok hrest (ih _ hlen rest rfl)
      rw [← hln] at hsp
      exact hsp.tokens_eq ▸ hsp

theorem no_end_of_tokens {ln : Text} (h : ∀ t ∈ tokens ln, ¬ ascii "$$" <:+: t) :
    contains ln (ascii "$$") = false := by
  refine Bool.eq_false_iff.mpr fun hh => ?_
  obtain ⟨w, hw, hin⟩ := exists_word_of_block (p := notSpace) (by decide)
    (by decide)
    (contains_iff.mp hh)
  exact h w hw hin

theorem Cell.asValue_eq {v : Option Int} {t : Text} (h : Cell v t) : asValue t = v := by
  cases h with
  | missing ht =>
    rw [asValue, List.contains_iff_mem.mpr ht, Bool.or_true, if_pos rfl]
  | @value v hmin hmax h999 h99 =>
    have hread := fromChars_intText hmin hmax
    have hmarker : intText v ∉ missingMarkers := by
      intro hm
      have hcases : ∀ t ∈ missingMarkers, fromChars t = .ok 999 [] ∨ fromChars t = .ok (-99) [] ∨
          fromChars t = .invalid := by decide
      rcases hcases _ hm with h | h | h <;> rw [hread] at h
      · exact h999 (by simpa using h)
      · exact h99 (by simpa using h)
      · exact absurd h (by simp)
    have hne : intText v ≠ [] := by
      intro he
      rw [he, show fromChars [] = .invalid from rfl] at hread
      exact absurd hread (by simp)
    have hcond : ((intText v).isEmpty || missingMarkers.contains (intText v)) = false := by
      simpa [hne] using hmarker
    rw [asValue, hcond]
    simp [hread]

theorem Cell.no_end {v : Option Int} {t : Text} (h : Cell v t) : ¬ ascii "$$" <:+: t := by
  have hdollar : (36 : Byte) ∉ t := by
    cases h with
    | missing ht =>
      have hall : ∀ t ∈ missingMarkers, (36 : Byte) ∉ t := by decide
      exact hall t ht
    | @value v _ _ _ _ =>
      have hnat : (36 : Byte) ∉ natText v.natAbs :=
        fun hm => absurd (natText_isdigit _ _ hm) (by decide)
      rw [intText]
      split_ifs
      · simpa using hnat
      · exact hnat
  exact fun hh => hdollar (hh.subset (by decide))

theorem cells_no_end {values : List (Option Int)} {cells : List Text}
    (h : List.Forall₂ Cell values cells) : ∀ t ∈ cells, ¬ ascii "$$" <:+: t := by
  induction h with
  | nil => simp
  | cons hc _ ih =>
    intro t ht
    rcases List.mem_cons.mp ht with rfl | ht
    · exact hc.no_end
    · exact ih t ht

theorem map_asValue_of_cells {values : List (Option Int)} {cells : List Text}
    (h : List.Forall₂ Cell values cells) : cells.map asValue = values := by
  induction h with
  | nil => rfl
  | cons hc _ ih => rw [List.map_cons, hc.asValue_eq, ih]

theorem HeaderLine.isHeader_eq {s : NbpStation} {ln : Text} (h : HeaderLine s ln) :
    isHeader ln = true := by
  obtain ⟨gap, mid, blanks, rfl, -, -, hnbp, -⟩ := h
  simp only [isHeader, Bool.and_eq_true, contains_iff]
  constructor
  · refine hnbp.trans ⟨gap ++ s.station, ascii "GUIDANCE" ++ (blanks ++ s.cycleUtc), ?_⟩
    simp
  · exact List.infix_append _ _ _

theorem HeaderLine.getLast_ne {s : NbpStation} {ln : Text} (h : HeaderLine s ln) :
    ln.getLast? ≠ some 13 := by
  obtain ⟨gap, mid, blanks, rfl, -, -, -, -, -, ⟨c, hc, -⟩, hlast⟩ := h
  have hne : s.cycleUtc ≠ [] := by
    rintro he
    simp [he] at hc
  rw [← List.append_assoc, List.getLast?_append_of_ne_nil _ hne]
  exact hlast

theorem HeaderLine.headerStation_eq {s : NbpStation} {ln : Text} (h : HeaderLine s ln)
    (hs : Token s.station) :
    headerStation ln = { station := s.station, cycleUtc := s.cycleUtc } := by
  obtain ⟨gap, mid, blanks, hln, hgap, ⟨c, hmid, hc⟩, -, hfirst, hblanks, ⟨d, hd, hdb⟩, -⟩ := h
  have htok : tokens ln = s.station :: tokens (mid ++ ascii "GUIDANCE" ++ (blanks ++ s.cycleUtc)) := by
    have hassoc : ln = gap ++ (s.station ++ (mid ++ ascii "GUIDANCE" ++ (blanks ++ s.cycleUtc))) := by
      simp [hln]
    rw [hassoc, tokens, words_append_of_none fun c hc => by simp [notSpace, hgap c hc],
      words_append_run hs.1 (fun c hc => by simp [notSpace, hs.2.1 c hc]), tokens]
    intro e he
    cases mid with
    | nil => simp at hmid
    | cons m mid =>
      simp only [List.cons_append, List.head?_cons, Option.some.injEq] at he hmid
      simp [notSpace, ← he, hmid, hc]
  have hfind : find ln (ascii "GUIDANCE") = some (gap ++ s.station ++ mid).length := by
    subst hln
    exact find_eq_of_first hfirst
  have hdrop : ln.drop ((gap ++ s.station ++ mid).length + 8) = blanks ++ s.cycleUtc := by
    subst hln
    rw [List.drop_left' (by simp [ascii]; omega)]
  have hstamp : (blanks ++ s.cycleUtc).dropWhile isBlank = s.cycleUtc := by
    rw [List.dropWhile_append_of_pos hblanks]
    cases hcy : s.cycleUtc with
    | nil => simp [hcy] at hd
    | cons e es =>
      rw [hcy, List.head?_cons, Option.some.injEq] at hd
      simp [hd, hdb]
  simp only [headerStation, htok, hfind, hdrop, hstamp, List.head?_cons, Option.getD_some]

end Lines

section Run

variable {s : NbpStation} {ls : List Text}

theorem foldl_nbpLine_of_unchanged {st : NbpState} (h : ∀ ln ∈ ls, nbpLine st ln = st) :
    ls.foldl nbpLine st = st := by
  induction ls with
  | nil => rfl
  | cons ln ls ih =>
    rw [List.foldl_cons, h ln (by simp)]
    exact ih fun l hl => h l (by simp [hl])

theorem ColumnLine.step {columns : List Text} {ln : Text} (h : ColumnLine columns ln)
    (hcols : ∀ t ∈ columns, Token t) {st : NbpState} (hin : st.inBlock = true)
    (hhave : st.haveColumns = false) :
    nbpLine st ln = { st with cur.columns := st.cur.columns ++ columns, haveColumns := true } := by
  obtain ⟨hh, label, hlabel, hsp⟩ := h
  have hl : isColumnLabel label = true ∧ ¬ ascii "$$" <:+: label := by
    have hall : ∀ l ∈ ["UTC", "FHR", "DT"].map ascii,
        isColumnLabel l = true ∧ contains l (ascii "$$") = false := by decide
    obtain ⟨h1, h2⟩ := hall label hlabel
    exact ⟨h1, fun hin => by simp [contains_iff.mpr hin] at h2⟩
  have hend : contains ln (ascii "$$") = false := by
    refine no_end_of_tokens fun t ht => ?_
    rw [hsp.tokens_eq] at ht
    rcases List.mem_cons.mp ht with rfl | ht
    · exact hl.2
    · exact (hcols t ht).2.2
  rw [nbpLine_of_tokens hh.isHeader_eq hend hsp.tokens_eq hin, hhave, hl.1]
  rfl

theorem RowLine.step {row : NbpRow} {ln : Text} (h : RowLine row ln) (hlabel : Token row.label)
    {st : NbpState} (hin : st.inBlock = true) (hhave : st.haveColumns = true) :
    nbpLine st ln = { st with cur.rows := st.cur.rows ++ [row] } := by
  obtain ⟨hh, cells, hsp, hcells⟩ := h
  have hend : contains ln (ascii "$$") = false := by
    refine no_end_of_tokens fun t ht => ?_
    rw [hsp.tokens_eq] at ht
    rcases List.mem_cons.mp ht with rfl | ht
    · exact hlabel.2.2
    · exact cells_no_end hcells t ht
  rw [nbpLine_of_tokens hh.isHeader_eq hend hsp.tokens_eq hin, hhave,
    map_asValue_of_cells hcells]
  rfl

theorem RowLines.run {rows : List NbpRow} (h : RowLines rows ls)
    (hlabels : ∀ r ∈ rows, Token r.label) {st : NbpState} (hin : st.inBlock = true)
    (hhave : st.haveColumns = true) :
    ls.foldl nbpLine st = { st with cur.rows := st.cur.rows ++ rows } := by
  induction h generalizing st with
  | nil => simp
  | blank hb _ ih =>
    rw [List.foldl_cons, nbpLine_of_blank hb]
    exact ih hlabels hin hhave
  | @row row ln rows ls hr _ ih =>
    have hnext := @ih (fun r hr => hlabels r (by simp [hr]))
      { st with cur.rows := st.cur.rows ++ [row] } hin hhave
    rw [List.foldl_cons, hr.step (hlabels row (by simp)) hin hhave, hnext]
    simp

/-- A block, read from any state, flushes what was open and leaves itself open. -/
theorem BlockLines.run (h : BlockLines s ls) (hs : WellFormed s) (st : NbpState) :
    ls.foldl nbpLine st =
      { stations := st.flushed, cur := s, inBlock := true, haveColumns := true } := by
  obtain ⟨header, blanks, columns, rows, rfl, hheader, hblanks, hcols, hrows⟩ := h
  rw [List.foldl_cons, nbpLine_of_header hheader.isHeader_eq, hheader.headerStation_eq hs.station,
    List.foldl_append, foldl_nbpLine_of_unchanged fun ln hln => nbpLine_of_blank (hblanks ln hln) _,
    List.foldl_cons, hcols.step hs.columns rfl rfl, hrows.run hs.labels rfl rfl]
  simp

theorem Bulletin.run {stations : List NbpStation} (h : Bulletin stations ls) (st : NbpState) :
    (ls.foldl nbpLine st).flushed = st.flushed ++ stations := by
  induction h generalizing st with
  | nil => simp
  | @unterminated s rest ls more hs hblock _ ih =>
    rw [List.foldl_append, hblock.run hs, ih]
    simp [NbpState.flushed, NbpState.pushed, hs.station.1]
  | @terminated s rest ls junk more e hs hblock he hjunk _ ih =>
    rw [List.foldl_append, hblock.run hs, List.foldl_cons,
      nbpLine_of_end he.1.isHeader_eq (contains_iff.mpr he.2) rfl, List.foldl_append,
      foldl_nbpLine_of_unchanged fun ln hln =>
        nbpLine_of_not_inBlock (hjunk ln hln).isHeader_eq rfl, ih]
    simp [NbpState.flushed, NbpState.pushed, hs.station.1]

theorem RowLines.not_header {rows : List NbpRow} (h : RowLines rows ls) :
    ∀ ln ∈ ls, isHeader ln = false := by
  induction h with
  | nil => simp
  | @blank ln rows ls hb _ ih =>
    intro l hl
    rcases List.mem_cons.mp hl with rfl | hl
    · exact blank_not_header hb
    · exact ih l hl
  | @row row ln rows ls hr _ ih =>
    intro l hl
    rcases List.mem_cons.mp hl with rfl | hl
    · exact hr.1.isHeader_eq
    · exact ih l hl

theorem BlockLines.no_cr (h : BlockLines s ls) :
    ∀ ln ∈ ls, isHeader ln = true → ln.getLast? ≠ some 13 := by
  obtain ⟨header, blanks, columns, rows, rfl, hheader, hblanks, hcols, hrows⟩ := h
  intro ln hln hh
  simp only [List.mem_cons, List.mem_append] at hln
  rcases hln with rfl | hln | rfl | hln
  · exact hheader.getLast_ne
  · simp [blank_not_header (hblanks ln hln)] at hh
  · simp [hcols.1.isHeader_eq] at hh
  · simp [hrows.not_header ln hln] at hh

theorem Bulletin.no_cr {stations : List NbpStation} (h : Bulletin stations ls) :
    ∀ ln ∈ ls, isHeader ln = true → ln.getLast? ≠ some 13 := by
  induction h with
  | nil => simp
  | unterminated _ hblock _ ih =>
    intro ln hln
    rcases List.mem_append.mp hln with hln | hln
    · exact hblock.no_cr ln hln
    · exact ih ln hln
  | terminated _ hblock he hjunk _ ih =>
    intro ln hln hh
    simp only [List.mem_append, List.mem_cons] at hln
    rcases hln with hln | rfl | hln | hln
    · exact hblock.no_cr ln hln hh
    · simp [he.1.isHeader_eq] at hh
    · simp [(hjunk ln hln).isHeader_eq] at hh
    · exact ih ln hln hh

/-- The parser inverts rendering: whatever the layout, it returns the blocks. -/
theorem parseNbp_of_rendered {stations : List NbpStation} {junk : List Text} {text : Text}
    (hne : stations ≠ []) (hjunk : ∀ ln ∈ junk, NotHeader ln) (hb : Bulletin stations ls)
    (hw : Written (junk ++ ls) text) : parseNbpBulletin text = .ok stations := by
  have hgood : ∀ ln ∈ junk ++ ls, isHeader ln = true → ln.getLast? ≠ some 13 := by
    intro ln hln hh
    rcases List.mem_append.mp hln with hln | hln
    · simp [(hjunk ln hln).isHeader_eq] at hh
    · exact hb.no_cr ln hln hh
  have hrun : (((lines text).map stripCr).foldl nbpLine {}).flushed = stations := by
    rw [hw.foldl_lines nbpLine_stripCr (nbpLine_of_blank (by simp)) hgood, List.foldl_append,
      foldl_nbpLine_of_unchanged fun ln hln =>
        nbpLine_of_not_inBlock (hjunk ln hln).isHeader_eq rfl, hb.run]
    rfl
  have htext : text.isEmpty = false := by
    cases text with
    | nil => exact absurd hrun.symm hne
    | cons c cs => rfl
  rw [parseNbpBulletin, htext]
  simp only [Bool.false_eq_true, if_false, hrun]
  rw [if_neg (by simpa using hne)]

end Run

section Sample

def sampleStations : List NbpStation :=
  [{ station := ascii "KNYC", cycleUtc := ascii "5/17/2026  1200 UTC",
     columns := ["18", "00"].map ascii,
     rows := [{ label := ascii "TXN", values := [some 68, none] }] },
   { station := ascii "KBOS", cycleUtc := ascii "1300 UTC", columns := [], rows := [] }]

theorem spaced_of_tokens {toks : List Text} {ln : Text} (h : tokens ln = toks) : Spaced toks ln :=
  h ▸ spaced_tokens ln

theorem first_of_find {ln needle : Text} {i : Nat} (h : find ln needle = some i) :
    ∀ p q, ln = p ++ needle ++ q → i ≤ p.length := by
  intro p q hpq
  by_contra hlt
  have hmin := (search_eq_some_iff.mp h).2.2 p.length (by omega)
  rw [hpq, List.append_assoc, List.drop_left] at hmin
  exact absurd hmin (by simp [List.isPrefixOf_iff_prefix])

theorem sample_bulletin : Bulletin sampleStations
    (["  KNYC V4.2 NBP GUIDANCE  5/17/2026  1200 UTC", " UTC 18  00", "", " TXN 68 NG "].map ascii ++
      ascii " $$" :: (["junk $$"].map ascii ++
        (["KBOS NBP GUIDANCE 1300 UTC", "FHR"].map ascii ++ []))) := by
  have h68 : Cell (some 68) (ascii "68") := by
    have h := Cell.value (v := 68) (by decide) (by decide) (by decide) (by decide)
    rwa [show intText 68 = ascii "68" from by decide +kernel] at h
  have hcell : List.Forall₂ Cell [some 68, none] [ascii "68", ascii "NG"] :=
    .cons h68 (.cons (.missing (by decide)) .nil)
  refine .terminated ⟨by unfold Token; decide, by unfold Token; decide,
    by unfold Token; decide⟩ ⟨_, [], _, _, rfl, ?_, by simp, ?_,
    .blank (by simp [Blank, ascii]) (.row ?_ .nil)⟩ (by unfold EndLine NotHeader; decide)
    (by unfold NotHeader; decide) (.unterminated ⟨by unfold Token; decide,
    by simp, by simp⟩ ⟨_, [], _, _, rfl, ?_, by simp, ?_, .nil⟩ .nil)
  · exact ⟨ascii "  ", ascii " V4.2 NBP ", ascii "  ", by decide, by unfold Blank; decide,
      ⟨32, by decide, by decide⟩, by decide, first_of_find (by decide),
      by decide, ⟨53, by decide, by decide⟩, by decide⟩
  · exact ⟨by unfold NotHeader; decide, ascii "UTC", by decide,
      spaced_of_tokens (by decide)⟩
  · exact ⟨by unfold NotHeader; decide, _, spaced_of_tokens (by decide), hcell⟩
  · exact ⟨[], ascii " NBP ", ascii " ", by decide, by unfold Blank; decide,
      ⟨32, by decide, by decide⟩, by decide, first_of_find (by decide),
      by decide, ⟨49, by decide, by decide⟩, by decide⟩
  · exact ⟨by unfold NotHeader; decide, ascii "FHR", by decide,
      spaced_of_tokens (by decide)⟩

theorem parseNbp_sample : parseNbpBulletin
    (ascii "preamble" ++ 10 :: (ascii "  KNYC V4.2 NBP GUIDANCE  5/17/2026  1200 UTC" ++
      13 :: 10 :: (ascii " UTC 18  00" ++ 10 :: (ascii "" ++ 10 :: (ascii " TXN 68 NG " ++
        10 :: (ascii " $$" ++ 10 :: (ascii "junk $$" ++
          10 :: (ascii "KBOS NBP GUIDANCE 1300 UTC" ++ 10 :: ascii "FHR")))))))) =
      .ok sampleStations := by
  refine parseNbp_of_rendered (by simp [sampleStations])
    (show ∀ ln ∈ [ascii "preamble"], NotHeader ln by unfold NotHeader; decide)
    sample_bulletin ?_
  simp only [List.map_cons, List.map_nil, List.cons_append, List.nil_append]
  exact .lf (by decide) (.crlf (by decide) (.lf (by decide)
    (.lf (by decide) (.lf (by decide) (.lf (by decide)
      (.lf (by decide) (.lf (by decide) (.last (by decide)))))))))

end Sample

end NwsCpp
