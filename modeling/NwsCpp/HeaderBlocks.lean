import NwsCpp.HttpClient

/-! The header lines of a transfer, block by block, and the headers they leave. -/

namespace NwsCpp

open Bytes

theorem findFirstNotOf_eq {p : Byte → Bool} {s : Text} {i : Nat} (h : findFirstNotOf p s = some i) :
    i = (s.takeWhile p).length := by
  obtain ⟨hlt, hi⟩ := List.findIdx?_eq_some_iff_findIdx_eq.mp h
  rw [List.takeWhile_eq_take_findIdx_not, List.length_take, hi]
  omega

theorem findFirstNotOf_eq_none_iff {p : Byte → Bool} {s : Text} :
    findFirstNotOf p s = none ↔ ∀ c ∈ s, p c = true := by
  simp [findFirstNotOf]

/-- The text without the blanks at both ends. -/
def trimmed (raw : Text) : Text := (raw.dropWhile isHeaderSpace).rdropWhile isHeaderSpace

theorem take_rdropWhile (p : Byte → Bool) (s : Text) :
    s.take (s.length - (s.reverse.takeWhile p).length) = s.rdropWhile p := by
  have hsplit : s = s.rdropWhile p ++ (s.reverse.takeWhile p).reverse := by
    rw [List.rdropWhile, ← List.reverse_append, List.takeWhile_append_dropWhile, List.reverse_reverse]
  have hlength := congrArg List.length hsplit
  rw [List.length_append, List.length_reverse] at hlength
  have htake : s.length - (s.reverse.takeWhile p).length = (s.rdropWhile p).length := by omega
  rw [htake]
  exact List.prefix_iff_eq_take.mp (List.rdropWhile_prefix p s) |>.symm

theorem length_takeWhile_lt {p : Byte → Bool} {s : Text} (h : ¬∀ c ∈ s, p c = true) :
    (s.takeWhile p).length < s.length := by
  refine lt_of_le_of_ne (List.takeWhile_prefix p).length_le fun hlength => h ?_
  exact List.takeWhile_eq_self_iff.mp ((List.takeWhile_prefix p).eq_of_length hlength)

theorem not_all_dropWhile {p : Byte → Bool} {s : Text} (h : ¬∀ c ∈ s, p c = true) :
    ¬∀ c ∈ (s.dropWhile p).reverse, p c = true := by
  refine fun hall => h fun c hc => ?_
  rw [← List.takeWhile_append_dropWhile (p := p) (l := s), List.mem_append] at hc
  rcases hc with hc | hc
  · exact List.mem_takeWhile_imp hc
  · exact hall c (List.mem_reverse.mpr hc)

/-- Blanks before a text that has another byte do not move its last other byte. -/
theorem takeWhile_reverse_dropWhile {p : Byte → Bool} {s : Text} (h : ¬∀ c ∈ s, p c = true) :
    (s.dropWhile p).reverse.takeWhile p = s.reverse.takeWhile p := by
  have hstop := (length_takeWhile_lt (not_all_dropWhile h)).ne
  conv_rhs => rw [← List.takeWhile_append_dropWhile (p := p) (l := s), List.reverse_append,
    List.takeWhile_append, if_neg hstop]

/-- The positions of the first and the last byte that is not blank cut the trimmed text. -/
theorem headerValue_eq (raw : Text) : headerValue raw = trimmed raw := by
  rw [headerValue, findLastNotOf]
  cases hfirst : findFirstNotOf isHeaderSpace raw with
  | none =>
    have hall := findFirstNotOf_eq_none_iff.mp hfirst
    have hdrop : raw.dropWhile isHeaderSpace = [] := List.dropWhile_eq_nil_iff.mpr hall
    rw [trimmed, hdrop]
    rfl
  | some start =>
    have hsome : ¬∀ c ∈ raw, isHeaderSpace c = true := by
      rw [← findFirstNotOf_eq_none_iff, hfirst]
      exact Option.some_ne_none _
    obtain ⟨back, hback⟩ : ∃ back, findFirstNotOf isHeaderSpace raw.reverse = some back := by
      refine Option.ne_none_iff_exists'.mp fun hnone => hsome fun c hc => ?_
      exact findFirstNotOf_eq_none_iff.mp hnone c (List.mem_reverse.mpr hc)
    have hsplit := List.takeWhile_append_dropWhile (p := isHeaderSpace) (l := raw)
    have hdrop : raw.drop start = raw.dropWhile isHeaderSpace := by
      rw [List.dropWhile_eq_drop_findIdx_not, (List.findIdx?_eq_some_iff_findIdx_eq.mp hfirst).2]
    have hwhole := congrArg List.length hsplit
    rw [List.length_append, ← findFirstNotOf_eq hfirst] at hwhole
    have hlast := length_takeWhile_lt (not_all_dropWhile hsome)
    rw [takeWhile_reverse_dropWhile hsome, ← findFirstNotOf_eq hback, List.length_reverse] at hlast
    have hcut : raw.length - 1 - back - start + 1 = (raw.dropWhile isHeaderSpace).length - back := by
      omega
    rw [hback, trimmed, ← take_rdropWhile, takeWhile_reverse_dropWhile hsome,
      ← findFirstNotOf_eq hback, ← hcut, ← hdrop]
    rfl

/-- What the callback does to the headers, from the text of the line alone. -/
def headerLine (headers : List (Text × Text)) (line : Text) : List (Text × Text) :=
  let headers := if (ascii "HTTP/").isPrefixOf line then [] else headers
  match line.findIdx? (· == 58) with
  | some colon => headers ++ [(line.take colon, headerValue (line.drop (colon + 1)))]
  | none => headers

theorem headers_headerCallback {d : Delivery} {sink : ResponseSink}
    (h : (headerCallback d sink).1.toNat = d.byteCount) :
    (headerCallback d sink).2.response.headers = headerLine sink.response.headers d.chunk := by
  by_cases hover : d.Overflows
  · rw [headerCallback, if_pos hover] at h
    rw [Delivery.overflows_iff, ← h, UInt64.toNat_zero] at hover
    omega
  · have hread : d.take (d.size * d.count).toNat = d.chunk := by
      rw [Delivery.toNat_mul hover, Delivery.chunk]
    rw [headerCallback, if_neg hover] at h ⊢
    simp only [hread] at h ⊢
    rw [headerLine]
    cases hcolon : d.chunk.findIdx? (· == 58) with
    | none => split_ifs <;> rfl
    | some colon =>
      simp only [hcolon] at h ⊢
      by_cases halloc : d.allocates = true
      · simp only [halloc, if_true]
        split_ifs <;> rfl
      · have hlength := (List.findIdx?_eq_some_iff_findIdx_eq.mp hcolon).1
        simp only [halloc, Bool.false_eq_true, if_false, UInt64.toNat_zero] at h
        rw [d.length_chunk, ← h] at hlength
        exact absurd hlength (Nat.not_lt_zero _)

namespace Curl

theorem headers_deliver {ds : List Delivery} {sink : ResponseSink}
    (h : (deliver (ds.map CurlEvent.header) sink).1 = true) :
    (deliver (ds.map CurlEvent.header) sink).2.response.headers =
      (ds.map Delivery.chunk).foldl headerLine sink.response.headers := by
  induction ds generalizing sink with
  | nil => rfl
  | cons d ds ih =>
    rw [List.map_cons, deliver] at h ⊢
    by_cases htaken : (headerCallback d sink).1.toNat = d.byteCount
    · rw [callback, CurlEvent.delivery, if_pos htaken] at h ⊢
      rw [ih h, headers_headerCallback htaken]
      rfl
    · rw [callback, CurlEvent.delivery, if_neg htaken] at h
      cases h

end Curl

/-- The characters of a token. -/
def isTokenChar (c : Byte) : Bool := isalpha c || isdigit c || (ascii "!#$%&'*+-.^_`|~").contains c

/-- One response head: the status line behind its first five bytes, the fields as names and
what follows the colon, and the line that ends it. -/
structure HeaderBlock where
  status : Text
  fields : List (Text × Text)
  blank : Text
  name_ne_nil : ∀ field ∈ fields, field.1 ≠ []
  name_token : ∀ field ∈ fields, ∀ c ∈ field.1, isTokenChar c = true
  blank_end : blank ∈ [[], [10], [13, 10]]

namespace HeaderBlock

variable (block : HeaderBlock)

def statusLine : Text := ascii "HTTP/" ++ block.status

def fieldLine (field : Text × Text) : Text := field.1 ++ 58 :: field.2

def lines : List Text := block.statusLine :: (block.fields.map fieldLine ++ [block.blank])

def headers : List (Text × Text) := block.fields.map fun field => (field.1, trimmed field.2)

end HeaderBlock

theorem token_not_delimiter {c : Byte} (h : isTokenChar c = true) : c ≠ 58 ∧ c ≠ 47 := by
  constructor <;> rintro rfl <;> exact absurd h (by decide)

theorem headerLine_of_notMem {line : Text} (headers : List (Text × Text))
    (hhttp : (ascii "HTTP/").isPrefixOf line = false) (hcolon : (58 : Byte) ∉ line) :
    headerLine headers line = headers := by
  rw [headerLine, hhttp, findIdx?_of_notMem hcolon]
  rfl

theorem headerLine_fieldLine {field : Text × Text} (headers : List (Text × Text))
    (htoken : ∀ c ∈ field.1, isTokenChar c = true) :
    headerLine headers (HeaderBlock.fieldLine field) = headers ++ [(field.1, trimmed field.2)] := by
  have hcolon : (58 : Byte) ∉ field.1 := fun h => (token_not_delimiter (htoken 58 h)).1 rfl
  have hslash : (47 : Byte) ∉ field.1 := fun h => (token_not_delimiter (htoken 47 h)).2 rfl
  have hhttp : (ascii "HTTP/").isPrefixOf (HeaderBlock.fieldLine field) = false := by
    refine Bool.eq_false_iff.mpr fun hhttp => ?_
    have hname : field.1 ++ [58] <+: HeaderBlock.fieldLine field := ⟨field.2, by
      rw [HeaderBlock.fieldLine, List.append_assoc]
      rfl⟩
    rcases List.prefix_or_prefix_of_prefix hname (List.isPrefixOf_iff_prefix.mp hhttp) with h | h
    · exact absurd (h.subset (List.mem_append_right _ (List.mem_singleton_self _)))
        (by decide)
    · have hmem : (47 : Byte) ∈ field.1 ++ [58] := h.subset (by decide)
      simp [hslash] at hmem
  rw [headerLine, hhttp, HeaderBlock.fieldLine, findIdx?_append_of_notMem hcolon]
  simp [headerValue_eq]

theorem foldl_fieldLines {fields : List (Text × Text)} (headers : List (Text × Text))
    (htoken : ∀ field ∈ fields, ∀ c ∈ field.1, isTokenChar c = true) :
    (fields.map HeaderBlock.fieldLine).foldl headerLine headers =
      headers ++ fields.map fun field => (field.1, trimmed field.2) := by
  induction fields generalizing headers with
  | nil => exact (List.append_nil _).symm
  | cons field fields ih =>
    rw [List.map_cons, List.foldl_cons, headerLine_fieldLine headers
      (htoken field (List.mem_cons_self ..)),
      ih _ fun f hf => htoken f (List.mem_cons_of_mem _ hf), List.append_assoc]
    rfl

namespace HeaderBlock

variable (block : HeaderBlock)

/-- What the status line itself leaves in the headers. -/
def statusHeaders : List (Text × Text) := headerLine [] block.statusLine

theorem headerLine_blank (headers : List (Text × Text)) :
    headerLine headers block.blank = headers := by
  obtain h | h | h : block.blank = [] ∨ block.blank = [10] ∨ block.blank = [13, 10] := by
    simpa using block.blank_end
  all_goals
    rw [h]
    exact headerLine_of_notMem headers (by decide) (by decide)

theorem headerLine_statusLine (headers : List (Text × Text)) :
    headerLine headers block.statusLine = block.statusHeaders := by
  have hhttp : (ascii "HTTP/").isPrefixOf block.statusLine = true :=
    List.isPrefixOf_iff_prefix.mpr (List.prefix_append _ _)
  rw [statusHeaders, headerLine, headerLine, hhttp, if_pos rfl, if_pos rfl]

/-- A block discards what came before it, and keeps its status line's part and its fields. -/
theorem foldl_lines (headers : List (Text × Text)) :
    block.lines.foldl headerLine headers = block.statusHeaders ++ block.headers := by
  rw [lines, List.foldl_cons, headerLine_statusLine, List.foldl_append,
    foldl_fieldLines _ block.name_token, List.foldl_cons, headerLine_blank]
  rfl

theorem statusHeaders_eq_nil_iff : block.statusHeaders = [] ↔ (58 : Byte) ∉ block.status := by
  have hhttp : (58 : Byte) ∉ ascii "HTTP/" := by decide
  rw [statusHeaders, headerLine]
  cases hcolon : block.statusLine.findIdx? (· == 58) with
  | none =>
    have hnone : (58 : Byte) ∉ block.statusLine := fun h => by
      simpa using List.findIdx?_eq_none_iff.mp hcolon 58 h
    rw [statusLine, List.mem_append, not_or] at hnone
    simp [hnone.2]
  | some colon =>
    obtain ⟨hlt, hat, -⟩ := List.findIdx?_eq_some_iff_getElem.mp hcolon
    have hmem : (58 : Byte) ∈ block.statusLine := by
      rw [← beq_iff_eq.mp hat]
      exact List.getElem_mem hlt
    rw [statusLine, List.mem_append] at hmem
    simp [hmem.resolve_left hhttp]

end HeaderBlock

theorem foldl_blocks {blocks : List HeaderBlock} {last : HeaderBlock}
    (hlast : blocks.getLast? = some last) (headers : List (Text × Text)) :
    (blocks.flatMap HeaderBlock.lines).foldl headerLine headers =
      last.statusHeaders ++ last.headers := by
  obtain ⟨before, rfl⟩ := List.getLast?_eq_some_iff.mp hlast
  rw [List.flatMap_append, List.foldl_append, List.flatMap_singleton, HeaderBlock.foldl_lines]

/-- The headers of a transfer are the fields of its last block exactly when the status line
of that block has no colon. -/
theorem headers_iff {blocks : List HeaderBlock} {last : HeaderBlock} {ds : List Delivery}
    {sink : ResponseSink} (hlast : blocks.getLast? = some last)
    (hlines : ds.map Delivery.chunk = blocks.flatMap HeaderBlock.lines)
    (htaken : (Curl.deliver (ds.map CurlEvent.header) sink).1 = true) :
    (Curl.deliver (ds.map CurlEvent.header) sink).2.response.headers =
        last.fields.map (fun field => (field.1, trimmed field.2)) ↔
      (58 : Byte) ∉ last.status := by
  rw [Curl.headers_deliver htaken, hlines, foldl_blocks hlast,
    ← HeaderBlock.statusHeaders_eq_nil_iff]
  exact List.append_left_eq_self

def Delivery.ofLine (line : Text) : Delivery where
  data i := line.getD i 0
  size := 1
  count := UInt64.ofNat line.length

/-- Characters that a reason phrase may have. -/
def isReasonChar (c : Byte) : Bool := c == 9 || (32 ≤ c && c ≤ 126) || 128 ≤ c

def fineBlock : HeaderBlock where
  status := ascii "1.1 200 " ++ ascii "OK: fine" ++ [13, 10]
  fields := [(ascii "X-A", ascii " 1" ++ [13, 10])]
  blank := [13, 10]
  name_ne_nil := by decide +kernel
  name_token := by decide +kernel
  blank_end := by decide +kernel

/-- The part of the status line before its colon is taken for a name. -/
theorem headers_fine :
    (∀ c ∈ ascii "OK: fine", isReasonChar c = true) ∧
      fineBlock.statusLine = ascii "HTTP/1.1 200 " ++ ascii "OK: fine" ++ [13, 10] ∧
      (fineBlock.lines.map Delivery.ofLine).map Delivery.chunk = [fineBlock].flatMap HeaderBlock.lines ∧
      (Curl.deliver ((fineBlock.lines.map Delivery.ofLine).map CurlEvent.header)
        { limit := 0 }).1 = true ∧
      (Curl.deliver ((fineBlock.lines.map Delivery.ofLine).map CurlEvent.header)
        { limit := 0 }).2.response.headers =
          [(ascii "HTTP/1.1 200 OK", ascii "fine"), (ascii "X-A", ascii "1")] ∧
      (Curl.deliver ((fineBlock.lines.map Delivery.ofLine).map CurlEvent.header)
        { limit := 0 }).2.response.headers ≠
          fineBlock.fields.map fun field => (field.1, trimmed field.2) := by
  decide

def plainBlock : HeaderBlock := { fineBlock with status := ascii "1.1 200 OK" ++ [13, 10] }

def plainDeliveries : List Delivery :=
  [fineBlock, plainBlock].flatMap fun block => block.lines.map Delivery.ofLine

theorem headers_iff_plain :
    (Curl.deliver (plainDeliveries.map CurlEvent.header) { limit := 0 }).2.response.headers =
      [(ascii "X-A", ascii "1")] := by
  have hfields : plainBlock.fields.map (fun field => (field.1, trimmed field.2)) =
      [(ascii "X-A", ascii "1")] := by decide
  rw [← hfields]
  exact (headers_iff (show [fineBlock, plainBlock].getLast? = some plainBlock from rfl)
    (by decide) (by decide)).mpr (by decide)

end NwsCpp
