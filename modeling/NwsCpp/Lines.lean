import NwsCpp.Bytes

/-! Cutting a text into lines at line feeds, and dropping the carriage return
of a CRLF ending. -/

namespace Lines

open Bytes

/-- The pieces between line feeds; a final line feed leaves an empty last piece. -/
def lines (text : Text) : List Text := text.splitOn 10

def stripCr (ln : Text) : Text := if ln.getLast? == some 13 then ln.dropLast else ln

@[simp] theorem stripCr_nil : stripCr [] = [] := rfl

@[simp] theorem stripCr_append_cr (ln : Text) : stripCr (ln ++ [13]) = ln := by
  simp [stripCr]

theorem stripCr_of_getLast {ln : Text} (h : ln.getLast? ≠ some 13) : stripCr ln = ln := by
  simp [stripCr, h]

theorem stripCr_cases (ln : Text) : stripCr ln = ln ∨ ln = stripCr ln ++ [13] := by
  by_cases h : ln.getLast? = some 13
  · right
    have hd := List.dropLast_append_getLast? 13 (Option.mem_def.mpr h)
    simp [stripCr, h, hd]
  · exact Or.inl (stripCr_of_getLast h)

theorem lines_ne_nil (text : Text) : lines text ≠ [] := List.splitOn_ne_nil 10 text

theorem lines_of_notMem {ln : Text} (h : (10 : Byte) ∉ ln) : lines ln = [ln] := by
  rw [lines, List.splitOn_eq_singleton h]

theorem lines_append_newline {ln : Text} (h : (10 : Byte) ∉ ln) (text : Text) :
    lines (ln ++ 10 :: text) = ln :: lines text := by
  rw [lines, List.splitOn_append_cons_self_of_not_mem h text, lines]

/-- A text is one line, or a line with its ending and a text after it. -/
theorem line_induction {motive : Text → Prop} (last : ∀ ln, (10 : Byte) ∉ ln → motive ln)
    (line : ∀ ln text, (10 : Byte) ∉ ln → motive text → motive (ln ++ 10 :: text)) (text : Text) :
    motive text := by
  induction hlength : text.length using Nat.strong_induction_on generalizing text with
  | _ n ih =>
    by_cases hmem : (10 : Byte) ∈ text
    · obtain ⟨ln, rest, rfl, hln⟩ := List.eq_append_cons_of_mem hmem
      refine line ln rest hln (ih rest.length ?_ rest rfl)
      rw [← hlength, List.length_append, List.length_cons]
      omega
    · exact last text hmem

/-- `Written ls text`: the lines `ls` in order, each ended by LF or CRLF, with
the ending of the last one optional. -/
inductive Written : List Text → Text → Prop
  | nil : Written [] []
  | last {ln : Text} : (10 : Byte) ∉ ln → Written [ln] ln
  | lf {ln : Text} {ls : List Text} {text : Text} :
      (10 : Byte) ∉ ln → Written ls text → Written (ln :: ls) (ln ++ 10 :: text)
  | crlf {ln : Text} {ls : List Text} {text : Text} :
      (10 : Byte) ∉ ln → Written ls text → Written (ln :: ls) (ln ++ 13 :: 10 :: text)

/-- A reader that sees each line without its ending, and may lose a carriage
return of the line itself, reads written lines back; a final ending shows as
one more empty line. -/
theorem Written.foldl_lines {σ : Type*} {step : σ → Text → σ} {good : Text → Prop}
    (hstrip : ∀ s ln, good ln → step s (stripCr ln) = step s ln) (hnil : ∀ s, step s [] = s)
    {ls : List Text} {text : Text} (h : Written ls text) (hgood : ∀ ln ∈ ls, good ln) (s : σ) :
    ((lines text).map stripCr).foldl step s = ls.foldl step s := by
  induction h generalizing s with
  | nil => simp [lines_of_notMem, hnil]
  | @last ln hln =>
    simpa [lines_of_notMem hln] using hstrip s ln (hgood ln (by simp))
  | @lf ln ls text hln _ ih =>
    rw [lines_append_newline hln, List.map_cons, List.foldl_cons, List.foldl_cons,
      hstrip s ln (hgood ln (by simp)), ih fun l hl => hgood l (by simp [hl])]
  | @crlf ln ls text hln _ ih =>
    have hcr : (10 : Byte) ∉ ln ++ [13] := by simpa using hln
    have hassoc : ln ++ 13 :: 10 :: text = (ln ++ [13]) ++ 10 :: text := by simp
    rw [hassoc, lines_append_newline hcr, List.map_cons, stripCr_append_cr, List.foldl_cons,
      List.foldl_cons, ih fun l hl => hgood l (by simp [hl])]

def firstNonempty : List Text → Text
  | [] => []
  | t :: ts => if t.isEmpty then firstNonempty ts else t

/-- Lines that yield nothing do not count before the first that yields a text. -/
theorem firstNonempty_map_of_first {yield : Text → Text} {before : List Text} {ln : Text}
    (hbefore : ∀ l ∈ before, yield l = []) (hln : yield ln ≠ []) (after : List Text) :
    firstNonempty ((before ++ ln :: after).map yield) = yield ln := by
  induction before with
  | nil => rw [List.nil_append, List.map_cons, firstNonempty, if_neg (by simpa using hln)]
  | cons l before ih =>
    rw [List.cons_append, List.map_cons, firstNonempty, hbefore l List.mem_cons_self,
      List.isEmpty_nil, if_pos rfl]
    exact ih fun u hu => hbefore u (List.mem_cons_of_mem l hu)

/-- A field that each line fills while it is empty holds what the first line to
yield a text yields. -/
theorem foldl_settled {σ : Type*} {step : σ → Text → σ} (field : σ → Text) {yield : Text → Text}
    (hstep : ∀ s ln, field (step s ln) = if (field s).isEmpty then yield ln else field s)
    (s : σ) (ls : List Text) :
    field (ls.foldl step s) =
      if (field s).isEmpty then firstNonempty (ls.map yield) else field s := by
  induction ls generalizing s with
  | nil => cases h : field s <;> simp [h, firstNonempty]
  | cons ln ls ih =>
    rw [List.foldl_cons, ih, hstep]
    by_cases h : (field s).isEmpty = true
    · simp [h, firstNonempty]
    · simp [h]

/-- What every line preserves and one line of the text establishes holds at the end. -/
theorem foldl_of_mem {σ : Type*} {step : σ → Text → σ} {P : σ → Prop}
    (hstep : ∀ s ln, P s → P (step s ln)) {ls : List Text} {ln : Text} (hln : ln ∈ ls)
    (h : ∀ s, P (step s ln)) (s : σ) : P (ls.foldl step s) := by
  obtain ⟨before, after, rfl⟩ := List.append_of_mem hln
  rw [List.foldl_append, List.foldl_cons]
  exact List.foldlRecOn after step (h _) fun s hs l _ => hstep s l hs

end Lines
