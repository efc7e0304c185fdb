import NwsCpp.NbpBlocks

/-! Bulletins that are put together: their stations, one after the other. -/

namespace NwsCpp

open Bytes Lines

/-- The stations of a text, none when it is refused. -/
def stationsRead (text : Text) : List NbpStation := (parseNbpBulletin text).toOption.getD []

/-- The last block of the lines goes on in whatever follows. -/
def LeavesOpen (ls : List Text) : Prop :=
  ∃ before header body, ls = before ++ header :: body ∧ isHeader header = true ∧
    ∀ ln ∈ body, endsBlock ln = false

/-- The lines up to the first that ends a block. -/
def leading (ls : List Text) : List Text := ls.takeWhile fun ln => !endsBlock ln

section Blocks

variable {ls more : List Text}

theorem LeavesOpen.cons {ln : Text} (h : LeavesOpen ls) : LeavesOpen (ln :: ls) := by
  obtain ⟨before, header, body, rfl, hheader, hbody⟩ := h
  exact ⟨ln :: before, header, body, rfl, hheader, hbody⟩

theorem station_append_blank {header : Text} {body extra : List Text}
    (h : printedLines extra = []) :
    NbpBlock.station ⟨header, body ++ extra⟩ = NbpBlock.station ⟨header, body⟩ := by
  have hprinted : printedLines (body ++ extra) = printedLines body := by
    rw [printedLines, List.filter_append, ← printedLines, ← printedLines, h, List.append_nil]
  simp only [NbpBlock.station, NbpBlock.columns, NbpBlock.columnLine, NbpBlock.rowLines, hprinted]

/-- A block ends where it did, or goes on in lines that print nothing. -/
theorem stations_append (h : ¬LeavesOpen ls ∨ printedLines (leading more) = []) :
    (blocks (ls ++ more)).map NbpBlock.station =
      (blocks ls).map NbpBlock.station ++ (blocks more).map NbpBlock.station := by
  induction ls with
  | nil => rfl
  | cons ln ls ih =>
    have hrest := ih (h.imp_left (mt LeavesOpen.cons))
    rw [List.cons_append, blocks, blocks]
    by_cases hheader : isHeader ln = true
    · have hstation : NbpBlock.station ⟨ln, leading (ls ++ more)⟩ =
          NbpBlock.station ⟨ln, leading ls⟩ := by
        by_cases hopen : ∀ l ∈ ls, endsBlock l = false
        · have hblank := h.resolve_left (not_not.mpr ⟨[], ln, ls, rfl, hheader, hopen⟩)
          have hall : ∀ l ∈ ls, (!endsBlock l) = true := fun l hl => by simp [hopen l hl]
          rw [leading, List.takeWhile_append_of_pos hall, leading,
            List.takeWhile_eq_self_iff.mpr hall]
          exact station_append_blank hblank
        · have hlength : (ls.takeWhile fun ln => !endsBlock ln).length ≠ ls.length := by
            intro heq
            have hself := (List.takeWhile_prefix fun ln => !endsBlock ln).eq_of_length heq
            exact hopen fun l hl => by simpa using List.takeWhile_eq_self_iff.mp hself l hl
          rw [leading, leading, List.takeWhile_append, if_neg hlength]
      rw [if_pos hheader, if_pos hheader, List.map_cons, List.map_cons, List.cons_append, hrest]
      exact congrArg (· :: _) hstation
    · rw [if_neg hheader, if_neg hheader, hrest]

end Blocks

theorem stationsRead_eq (text : Text) :
    stationsRead text = (blocks (bulletinLines text)).map NbpBlock.station := by
  rw [stationsRead, parseNbp_eq]
  split_ifs with hempty hblocks
  · obtain rfl := List.isEmpty_iff.mp hempty
    decide
  · rw [List.isEmpty_iff.mp hblocks]
    rfl
  · rfl

theorem bulletinLines_append {a : Text} (h : a.getLast? = some 10) :
    ∃ ls, bulletinLines a = ls ++ [[]] ∧ ∀ b, bulletinLines (a ++ b) = ls ++ bulletinLines b := by
  induction a using line_induction with
  | last ln hln => exact (hln (List.mem_of_getLast? h)).elim
  | line ln text hln ih =>
    by_cases hempty : text = []
    · subst hempty
      refine ⟨[stripCr ln], ?_, fun b => ?_⟩
      · rw [bulletinLines, lines_append_newline hln]
        rfl
      · rw [bulletinLines, List.append_assoc, List.cons_append, List.nil_append,
          lines_append_newline hln]
        rfl
    · have hlast : text.getLast? = some 10 := by
        have hsplit : ln ++ 10 :: text = (ln ++ [10]) ++ text := by rw [List.append_assoc]; rfl
        rw [← h, hsplit, List.getLast?_append_of_ne_nil _ hempty]
      obtain ⟨ls, hls, hrest⟩ := ih hlast
      refine ⟨stripCr ln :: ls, ?_, fun b => ?_⟩
      · rw [bulletinLines, lines_append_newline hln, List.map_cons, ← bulletinLines, hls]
        rfl
      · rw [bulletinLines, List.append_assoc, List.cons_append, lines_append_newline hln,
          List.map_cons, ← bulletinLines, hrest]
        rfl

theorem parseNbp_ok_iff {text : Text} : (∃ stations, parseNbpBulletin text = .ok stations) ↔
    stationsRead text ≠ [] := by
  rw [stationsRead_eq, parseNbp_eq]
  split_ifs with hempty hblocks
  · obtain rfl := List.isEmpty_iff.mp hempty
    exact iff_of_false (by simp) (by decide)
  · exact iff_of_false (by simp) (by simp [List.isEmpty_iff.mp hblocks])
  · exact iff_of_true ⟨_, rfl⟩ (by simpa using hblocks)

/-- Two bulletins put together have the stations of both, where the first is closed or the
second starts with a block; the whole is refused only when both are. -/
theorem parseNbp_append {a b : Text} (hend : a.getLast? = some 10)
    (hcut : ¬LeavesOpen (bulletinLines a) ∨ printedLines (leading (bulletinLines b)) = []) :
    stationsRead (a ++ b) = stationsRead a ++ stationsRead b ∧
      ((∃ stations, parseNbpBulletin (a ++ b) = .ok stations) ↔
        (∃ stations, parseNbpBulletin a = .ok stations) ∨
          ∃ stations, parseNbpBulletin b = .ok stations) := by
  obtain ⟨ls, hls, hrest⟩ := bulletinLines_append hend
  have hcut' : ¬LeavesOpen ls ∨ printedLines (leading (bulletinLines b)) = [] := by
    refine hcut.imp_left (mt ?_)
    rintro ⟨before, header, body, rfl, hheader, hbody⟩
    refine ⟨before, header, body ++ [[]], by rw [hls]; simp, hheader, fun ln hln => ?_⟩
    rcases List.mem_append.mp hln with hln | hln
    · exact hbody ln hln
    · rw [List.mem_singleton.mp hln]
      decide
  have hlast : (blocks (ls ++ [[]])).map NbpBlock.station = (blocks ls).map NbpBlock.station := by
    rw [stations_append (.inr (by decide))]
    exact List.append_nil _
  have happend : stationsRead (a ++ b) = stationsRead a ++ stationsRead b := by
    rw [stationsRead_eq, stationsRead_eq, stationsRead_eq, hrest, hls, stations_append hcut', hlast]
  refine ⟨happend, ?_⟩
  rw [parseNbp_ok_iff, parseNbp_ok_iff, parseNbp_ok_iff, happend, Ne, List.append_eq_nil_iff,
    not_and_or]

/-- The second bulletin starts a block, which ends that of the first. -/
theorem parseNbp_append_boston :
    stationsRead (ascii "KNYC NBP GUIDANCE 1200 UTC
 UTC 18
 TXN 68
" ++ boston [" UTC 18"]) =
      [{ bostonStation ["18"] [some 68] with station := ascii "KNYC", cycleUtc := ascii "1200 UTC" },
        { bostonStation ["18"] [] with rows := [] }] :=
  (parseNbp_append (by decide) (.inr (by decide))).1.trans (by decide +kernel)

end NwsCpp
