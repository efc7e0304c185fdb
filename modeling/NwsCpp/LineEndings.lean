import NwsCpp.CliLines
import NwsCpp.NbpBulletin

/-! Products whose lines end in LF and the same products with CRLF. -/

namespace NwsCpp

open Bytes Lines

/-- Every line feed gets a carriage return before it. -/
def crlf (text : Text) : Text := text.flatMap fun c => if c = 10 then [13, 10] else [c]

theorem crlf_append (s t : Text) : crlf (s ++ t) = crlf s ++ crlf t := List.flatMap_append

theorem crlf_of_notMem {s : Text} (h : (10 : Byte) ∉ s) : crlf s = s := by
  induction s with
  | nil => rfl
  | cons c s ih =>
    rw [List.mem_cons, not_or] at h
    rw [crlf, List.flatMap_cons, if_neg fun hc : c = 10 => h.1 hc.symm]
    exact congrArg (c :: ·) (ih h.2)

theorem crlf_line {ln : Text} (h : (10 : Byte) ∉ ln) (text : Text) :
    crlf (ln ++ 10 :: text) = (ln ++ [13]) ++ 10 :: crlf text := by
  rw [crlf_append, crlf_of_notMem h, List.append_assoc]
  rfl

theorem filter_crlf {text : Text} (h : (13 : Byte) ∉ text) : (crlf text).filter (· != 13) = text := by
  induction text with
  | nil => rfl
  | cons c text ih =>
    rw [List.mem_cons, not_or] at h
    rw [crlf, List.flatMap_cons, List.filter_append]
    refine Eq.trans (congrArg₂ _ ?_ (ih h.2)) (List.singleton_append (x := c))
    by_cases hc : c = 10
    · rw [if_pos hc, hc]
      rfl
    · rw [if_neg hc, List.filter_singleton, bne_iff_ne.mpr fun hcr => h.1 hcr.symm]
      rfl

theorem notMem_append {c : Byte} {s t : Text} (h : c ∉ s ++ t) : c ∉ s ∧ c ∉ t := by
  rwa [List.mem_append, not_or] at h

theorem stripCr_of_notMem {ln : Text} (h : (13 : Byte) ∉ ln) : stripCr ln = ln :=
  stripCr_of_getLast fun hlast => h (List.mem_of_getLast? hlast)

theorem linesOf_crlf {text : Text} (h : (13 : Byte) ∉ text) : linesOf (crlf text) = linesOf text := by
  induction text using line_induction with
  | last ln hln => rw [crlf_of_notMem hln]
  | line ln text hln ih =>
    obtain ⟨hcr, hrest⟩ := notMem_append h
    have hended : (10 : Byte) ∉ ln ++ [13] := by simpa using hln
    rw [crlf_line hln, linesOf_cons hended, linesOf_cons hln, stripCr_append_cr,
      stripCr_of_notMem hcr, ih fun hc => hrest (List.mem_cons_of_mem _ hc)]

theorem bulletinLines_crlf {text : Text} (h : (13 : Byte) ∉ text) :
    (lines (crlf text)).map stripCr = (lines text).map stripCr := by
  induction text using line_induction with
  | last ln hln => rw [crlf_of_notMem hln]
  | line ln text hln ih =>
    obtain ⟨hcr, hrest⟩ := notMem_append h
    have hended : (10 : Byte) ∉ ln ++ [13] := by simpa using hln
    rw [crlf_line hln, lines_append_newline hended, lines_append_newline hln, List.map_cons,
      List.map_cons, stripCr_append_cr, stripCr_of_notMem hcr,
      ih fun hc => hrest (List.mem_cons_of_mem _ hc)]

theorem toupper_lineEnd {c d : Byte} (h : toupper c = toupper d) (hd : d = 10 ∨ d = 13) : c = d := by
  have hends : ∀ e : Byte, (toupper e == 10) = (e == 10) ∧ (toupper e == 13) = (e == 13) := fun e => by
    simpa using forall_byte (p := fun e => (toupper e == 10) == (e == 10) &&
      (toupper e == 13) == (e == 13)) (by decide +kernel) e
  rcases hd with rfl | rfl
  · exact beq_iff_eq.mp ((hends c).1 ▸ beq_iff_eq.mpr h)
  · exact beq_iff_eq.mp ((hends c).2 ▸ beq_iff_eq.mpr h)

theorem icontains_crlf {text needle : Text} (h : (13 : Byte) ∉ text)
    (hneedle : ∀ c ∈ needle, c ≠ 10 ∧ c ≠ 13) :
    icontains (crlf text) needle = icontains text needle := by
  have hplain {w : Text} (hw : w.map toupper = needle.map toupper) : ∀ c ∈ w, c ≠ 10 ∧ c ≠ 13 := by
    intro c hc
    have hmem : toupper c ∈ needle.map toupper := hw ▸ List.mem_map_of_mem hc
    obtain ⟨d, hd, heq⟩ := List.mem_map.mp hmem
    constructor
    · rintro rfl
      exact (hneedle d hd).1 (toupper_lineEnd heq (.inl rfl))
    · rintro rfl
      exact (hneedle d hd).2 (toupper_lineEnd heq (.inr rfl))
  rw [Bool.eq_iff_iff, icontains_iff, icontains_iff]
  constructor
  · rintro ⟨pre, w, post, hsplit, hw⟩
    have hfilter := congrArg (List.filter (· != 13)) hsplit
    rw [filter_crlf h, List.filter_append, List.filter_append] at hfilter
    have hkeep : w.filter (· != 13) = w := List.filter_eq_self.mpr fun c hc =>
      bne_iff_ne.mpr (hplain hw c hc).2
    rw [hkeep] at hfilter
    exact ⟨_, w, _, hfilter, hw⟩
  · rintro ⟨pre, w, post, rfl, hw⟩
    have hword : crlf w = w := crlf_of_notMem fun hc => (hplain hw 10 hc).1 rfl
    exact ⟨crlf pre, w, crlf post, by rw [crlf_append, crlf_append, hword], hw⟩

theorem crlf_isEmpty (text : Text) : (crlf text).isEmpty = text.isEmpty := by
  cases text with
  | nil => rfl
  | cons c text =>
    rw [crlf, List.flatMap_cons]
    split_ifs <;> rfl

section Products

variable {text : Text} (h : (13 : Byte) ∉ text)

include h

theorem corrected_crlf : corrected (crlf text) = corrected text := by
  rw [corrected, icontains_crlf h (by decide), icontains_crlf h (by decide),
    corrected]

theorem hasF6Banner_crlf : hasF6Banner (crlf text) = hasF6Banner text := by
  rw [hasF6Banner, icontains_crlf h (by decide), icontains_crlf h (by decide),
    icontains_crlf h (by decide), hasF6Banner]

theorem parseCf6_crlf : parseCf6ProductText (crlf text) = parseCf6ProductText text := by
  rw [parseCf6ProductText, parseCf6ProductText, linesOf_crlf h, corrected_crlf h,
    icontains_crlf h (by decide)]

theorem parseCli_crlf : parseCliProductText (crlf text) = parseCliProductText text := by
  have hstart : cliStart (crlf text) = cliStart text := by
    rw [cliStart, cliStart, corrected_crlf h]
  rw [parseCliProductText, parseCliProductText, crlf_isEmpty, hasF6Banner_crlf h, parseCf6_crlf h,
    linesOf_crlf h, hstart]

theorem parseNbp_crlf : parseNbpBulletin (crlf text) = parseNbpBulletin text := by
  rw [parseNbpBulletin, parseNbpBulletin, bulletinLines_crlf h, crlf_isEmpty]

end Products

/-- Line endings change no result of the product parsers. -/
theorem parse_crlf {text : Text} (h : (13 : Byte) ∉ text) :
    parseCliProductText (crlf text) = parseCliProductText text ∧
      parseNbpBulletin (crlf text) = parseNbpBulletin text :=
  ⟨parseCli_crlf h, parseNbp_crlf h⟩

theorem parse_crlf_two_lines :
    parseCliProductText (ascii "CLINYC\r\nFOR MAY 16 2026\r\n") =
      parseCliProductText (ascii "CLINYC\nFOR MAY 16 2026\n") := by
  have hcrlf : ascii "CLINYC\r\nFOR MAY 16 2026\r\n" = crlf (ascii "CLINYC\nFOR MAY 16 2026\n") := by
    decide
  rw [hcrlf]
  exact (parse_crlf (by decide)).1

end NwsCpp
