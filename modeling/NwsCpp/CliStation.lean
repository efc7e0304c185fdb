import NwsCpp.Cf6Table
import NwsCpp.CliLines

/-! Which station the CLI and the CF6 parser name: the CLI scan reads the
issuing office of the WMO heading, the CF6 scan the site of the AWIPS line. -/

namespace NwsCpp

open Bytes Runs Lines Decimal

section Products

def ThreeLetters (w : Text) : Prop := w.length = 3 ∧ ∀ c ∈ w, isupper c = true

instance (w : Text) : Decidable (ThreeLetters w) :=
  inferInstanceAs (Decidable (w.length = 3 ∧ ∀ c ∈ w, isupper c = true))

/-- The WMO heading line `TTAAii Kooo ddhhmm`. -/
def wmoHeading (designator office time : Text) : Text :=
  designator ++ 32 :: 75 :: office ++ 32 :: time

/-- A product text: lines of digits and blanks, the WMO heading of the issuing
office, the AWIPS line of the site, and a body. -/
def HeadedProduct (ttaai kind office site : Text) (body : List Text) (text : Text) : Prop :=
  ∃ preamble n time,
    (∀ ln ∈ preamble, ∀ c ∈ ln, isdigit c = true ∨ isspace c = true) ∧
    isdigit n = true ∧ time.length = 6 ∧ (∀ c ∈ time, isdigit c = true) ∧
    linesOf text =
      preamble ++ wmoHeading (ttaai ++ [n]) office time :: (kind ++ site) :: body

def CompleteRow (ln : Text) : Prop :=
  ∃ t d, ∃ hi lo : Int, ∃ more,
    words (fun c => !isspace c) (ln.dropWhile isspace) = t :: intText hi :: intText lo :: more ∧
    IsDecimal t d ∧ 1 ≤ d ∧ d ≤ 31 ∧ intMin ≤ hi ∧ hi ≤ intMax ∧ intMin ≤ lo ∧ lo ≤ intMax

/-- A CF6 body: metadata with a month and a year, the first table header, and a
table with a complete row before anything that ends it. -/
def Cf6Body (body : List Text) : Prop :=
  ∃ metadata header rows row after,
    body = metadata ++ header :: (rows ++ row :: after) ∧
    (∀ ln ∈ metadata, isDataHeader ln = false) ∧
    (∃ ln ∈ metadata, icontains ln (ascii "MONTH:") = true ∧ (monthNum ln).1 ≠ 0) ∧
    (∃ ln ∈ metadata, icontains ln (ascii "YEAR:") = true ∧ cf6Year ln ≠ 0) ∧
    isDataHeader header = true ∧
    (∀ ln ∈ rows, endsTable ln = false) ∧ endsTable row = false ∧ CompleteRow row

def CliProduct (office site text : Text) : Prop :=
  hasF6Banner text = false ∧
    ∃ body, HeadedProduct (ascii "CDUS4") (ascii "CLI") office site body text

def Cf6Product (office site text : Text) : Prop :=
  hasF6Banner text = true ∧
    ∃ body, Cf6Body body ∧ HeadedProduct (ascii "CXUS5") (ascii "CF6") office site body text

end Products

section Scans

theorem ThreeLetters.exists_eq {w : Text} (h : ThreeLetters w) :
    ∃ a b c, w = [a, b, c] ∧ isupper a = true ∧ isupper b = true ∧ isupper c = true := by
  obtain ⟨hlen, hup⟩ := h
  obtain ⟨a, b, c, rfl⟩ := List.length_eq_three.mp hlen
  exact ⟨a, b, c, rfl, hup a (by simp), hup b (by simp), hup c (by simp)⟩

theorem ThreeLetters.ne_nil {w : Text} (h : ThreeLetters w) : w ≠ [] := by
  obtain ⟨a, b, c, rfl, -⟩ := h.exists_eq
  exact List.cons_ne_nil a [b, c]

theorem mem_of_cliStation {ln : Text} (h : cliStation ln ≠ []) : (75 : Byte) ∈ ln := by
  simp only [cliStation] at h
  split at h
  · split_ifs at h with hlen hcand
    · simp only [Bool.and_eq_true, beq_iff_eq] at hcand
      have hmem := List.mem_of_mem_head? (Option.mem_def.mpr hcand.1.2)
      exact List.mem_of_mem_drop (List.mem_of_mem_take hmem)
    · exact absurd rfl h
    · exact absurd rfl h
  · exact absurd rfl h

theorem cliStation_wmoHeading {n : Byte} {office time : Text} (hn : isdigit n = true)
    (ho : ThreeLetters office) :
    cliStation (wmoHeading (ascii "CDUS4" ++ [n]) office time) = 75 :: office := by
  obtain ⟨hlen, hup⟩ := ho
  have hspace : (32 : Byte) ∉ ascii "CDUS4" ++ [n] := by
    intro hm
    rcases List.mem_append.mp hm with hm | hm
    · exact absurd hm (by decide)
    · rw [List.mem_singleton] at hm
      rw [← hm] at hn
      exact absurd hn (by decide)
  have hdl : (ascii "CDUS4" ++ [n]).length = 6 := by simp [ascii]
  have hline : wmoHeading (ascii "CDUS4" ++ [n]) office time =
      (ascii "CDUS4" ++ [n]) ++ (32 :: [75]) ++ (office ++ 32 :: time) := by simp [wmoHeading]
  have hfind : find ((ascii "CDUS4" ++ [n]) ++ (32 :: [75]) ++ (office ++ 32 :: time))
      (32 :: [75]) = some (ascii "CDUS4" ++ [n]).length := find_append_of_notMem hspace
  have hcand : substr ((ascii "CDUS4" ++ [n]) ++ (32 :: [75]) ++ (office ++ 32 :: time)) 7 4 =
      75 :: office := by
    have hdrop : (ascii "CDUS4" ++ [n]) ++ (32 :: [75]) ++ (office ++ 32 :: time) =
        ((ascii "CDUS4" ++ [n]) ++ [32]) ++ (75 :: office ++ 32 :: time) := by simp
    rw [substr, hdrop, List.drop_left' (by simp [ascii]), List.take_left' (by simp [hlen])]
  rw [hdl] at hfind
  rw [hline, cliStation, show ascii " K" = 32 :: [75] from by decide, hfind]
  simp only [hcand]
  rw [if_pos (by simp [ascii, hlen]), if_pos (by simpa [hlen] using hup)]

theorem exists_of_cf6Station {ln : Text} (h : cf6Station ln ≠ []) :
    ∃ p u q, ln = p ++ ascii "CF6" ++ u ++ q ∧ ThreeLetters u := by
  simp only [cf6Station] at h
  split at h
  · rename_i pos hpos
    split_ifs at h with hlen hcand
    · obtain ⟨q, hq⟩ := prefix_of_find hpos
      simp only [Bool.and_eq_true, beq_iff_eq, List.all_eq_true] at hcand
      refine ⟨ln.take pos, substr ln (pos + 3) 3, (ln.drop (pos + 3)).drop 3, ?_, hcand⟩
      have hq3 : ln.drop (pos + 3) = q := by
        rw [← List.drop_drop, ← hq]
        rfl
      rw [substr, List.append_assoc, List.take_append_drop, hq3, List.append_assoc, hq,
        List.take_append_drop]
    · exact absurd rfl h
    · exact absurd rfl h
  · exact absurd rfl h

theorem cf6Station_awips {site : Text} (hs : ThreeLetters site) :
    cf6Station (ascii "CF6" ++ site) = site := by
  obtain ⟨a, b, c, rfl, ha, hb, hc⟩ := hs.exists_eq
  simp [cf6Station, find, search, ascii, substr, ha, hb, hc]

theorem isDataHeader_spec {ln : Text} (h : isDataHeader ln = true) :
    (∃ i < 5, ascii "DY" <+: ln.drop i) ∧ ascii "MAX" <:+: ln ∧ ascii "MIN" <:+: ln := by
  rw [isDataHeader] at h
  split at h
  · rename_i dy hdy
    simp only [Bool.and_eq_true, decide_eq_true_eq] at h
    exact ⟨⟨dy, h.1.1, prefix_of_find hdy⟩, contains_iff.mp h.1.2, contains_iff.mp h.2⟩
  · exact absurd h (by simp)

end Scans

section Heading

theorem preamble_scans {ln : Text} (h : ∀ c ∈ ln, isdigit c = true ∨ isspace c = true) :
    cliStation ln = [] ∧ cf6Station ln = [] ∧ isDataHeader ln = false := by
  have hmem : ∀ c, isdigit c = false → isspace c = false → c ∉ ln := by
    intro c hd hs hc
    rcases h c hc with hc | hc
    · simp [hd] at hc
    · simp [hs] at hc
  refine ⟨?_, ?_, ?_⟩
  · by_contra hne
    exact hmem 75 (by decide) (by decide) (mem_of_cliStation hne)
  · by_contra hne
    obtain ⟨p, u, q, rfl, -⟩ := exists_of_cf6Station hne
    exact hmem 67 (by decide) (by decide) (by simp [ascii])
  · refine Bool.eq_false_iff.mpr fun hh => ?_
    have hsub := (isDataHeader_spec hh).2.1.subset
    exact hmem 77 (by decide) (by decide) (hsub (by decide))

/-- In the WMO heading line a digit is never followed by a letter, so no `CF6`
candidate starts in it, and its first five bytes hold no `D`. -/
theorem wmoHeading_scans {n : Byte} {office time : Text} (ho : ThreeLetters office)
    (ht : ∀ c ∈ time, isdigit c = true) :
    cf6Station (wmoHeading (ascii "CXUS5" ++ [n]) office time) = [] ∧
      isDataHeader (wmoHeading (ascii "CXUS5" ++ [n]) office time) = false := by
  obtain ⟨a, b, c, rfl, ha, hb, hc⟩ := ho.exists_eq
  have hline : wmoHeading (ascii "CXUS5" ++ [n]) [a, b, c] time =
      [67, 88, 85, 83, 53, n, 32, 75, a, b, c, 32] ++ time := by simp [wmoHeading, ascii]
  constructor
  · by_contra hne
    obtain ⟨p, u, q, hsplit, hu⟩ := exists_of_cf6Station hne
    obtain ⟨x, y, z, rfl, hx, -, -⟩ := hu.exists_eq
    have hget : ∀ i v, [67, 70, 54, x, y, z][i]? = some v →
        ([67, 88, 85, 83, 53, n, 32, 75, a, b, c, 32] ++ time)[p.length + i]? = some v := by
      intro i v hv
      have happ : p ++ ascii "CF6" ++ [x, y, z] ++ q = p ++ ([67, 70, 54, x, y, z] ++ q) := by
        simp [ascii]
      rw [← hline, hsplit, happ, List.getElem?_append_right (by omega), Nat.add_sub_cancel_left,
        List.getElem?_append_left (List.getElem?_eq_some_iff.mp hv).1, hv]
    have h0 := hget 0 67 rfl
    have h2 := hget 2 54 rfl
    have h3 := hget 3 x rfl
    have hk : p.length < 9 := by
      by_contra hge
      have hlen : [67, 88, 85, 83, 53, n, 32, 75, a, b, c, 32].length ≤ p.length + 3 := by
        simp only [List.length_cons, List.length_nil]
        omega
      rw [List.getElem?_append_right hlen] at h3
      exact absurd (ht x (List.mem_of_getElem? h3)) (by simp [isupper_not_isdigit hx])
    generalize p.length = k at hk h0 h2
    interval_cases k <;> simp at h0 h2
    subst h2
    exact absurd hc (by decide)
  · refine Bool.eq_false_iff.mpr fun hh => ?_
    obtain ⟨⟨i, hi, hdy⟩, -, -⟩ := isDataHeader_spec hh
    rw [hline] at hdy
    interval_cases i <;> simp [ascii] at hdy

theorem awips_not_dataHeader {site : Text} (hs : ThreeLetters site) :
    isDataHeader (ascii "CF6" ++ site) = false := by
  obtain ⟨a, b, c, rfl, -, -, -⟩ := hs.exists_eq
  refine Bool.eq_false_iff.mpr fun hh => ?_
  obtain ⟨-, hmax, hmin⟩ := isDataHeader_spec hh
  simp [ascii, List.infix_cons_iff] at hmax hmin
  grind

end Heading

section Runs

theorem CliProduct.parse_station {office site text : Text} (h : CliProduct office site text)
    (ho : ThreeLetters office) :
    ∃ r, parseCliProductText text = .ok r ∧ r.station = 75 :: office := by
  obtain ⟨hcli, body, preamble, n, time, hpre, hn, -, -, hlines⟩ := h
  have hheading : cliStation (wmoHeading (ascii "CDUS4" ++ [n]) office time) = 75 :: office :=
    cliStation_wmoHeading hn ho
  have hfirst : firstNonempty ((linesOf text).map cliStation) = 75 :: office := by
    rw [hlines, firstNonempty_map_of_first (fun ln hln => (preamble_scans (hpre ln hln)).1)
      (hheading ▸ List.cons_ne_nil _ _), hheading]
  obtain ⟨r, hr, hs, -⟩ := parseCli_heading hcli (.inl (hfirst ▸ List.cons_ne_nil _ _))
  exact ⟨r, hr, hs.trans hfirst⟩

theorem CompleteRow.bestDay_pos {ln : Text} (h : CompleteRow ln) {st : Cf6State}
    (hpast : st.pastDataHeader = true) (hst : 0 ≤ st.bestDay) : 1 ≤ (cf6Step st ln).bestDay := by
  obtain ⟨t, d, hi, lo, more, hwords, ht, hd1, hd31, hhi1, hhi2, hlo1, hlo2⟩ := h
  by_cases hbest : st.bestDay = 0
  · have hnone : Best st none := hbest
    let row : DayRow := ⟨d, some hi, some lo, hd1, hd31⟩
    have hreading : row.reading = some ⟨d, hi, lo⟩ := by
      simp [row, DayRow.reading, Option.filter, fitsInt_iff.mpr ⟨hhi1, hhi2⟩,
        fitsInt_iff.mpr ⟨hlo1, hlo2⟩]
    rw [words_dropWhile_space] at hwords
    have hline : TableLine ln (some row) :=
      .row hwords ht (tempColumn_intText hi) (tempColumn_intText lo)
    have hstep := hline.step hpast hnone
    rw [Option.bind_some, hreading] at hstep
    have hday : (cf6Step st ln).bestDay = d := hstep.1
    omega
  · have hkept := cf6Step_bestDay_le st ln
    omega

def Settled (site : Text) (st : Cf6State) : Prop :=
  st.station3letter = site ∧ st.month ≠ 0 ∧ st.year ≠ 0 ∧ 0 ≤ st.bestDay

theorem Settled.step {site : Text} (hs : site ≠ []) {st : Cf6State} (h : Settled site st)
    (ln : Text) : Settled site (cf6Step st ln) := by
  obtain ⟨h1, h2, h3, h4⟩ := h
  refine ⟨?_, ?_, ?_, h4.trans (cf6Step_bestDay_le st ln)⟩
  · rw [cf6Step_station, h1, if_neg (by simpa using hs)]
  · rw [cf6Step_month, if_neg fun h => h2 h.1]
    exact h2
  · rw [cf6Step_year, if_neg fun h => h3 h.1]
    exact h3

theorem Settled.foldl {site : Text} (hs : site ≠ []) {st : Cf6State} (h : Settled site st)
    (ls : List Text) : Settled site (ls.foldl cf6Step st) :=
  List.foldlRecOn ls cf6Step h fun _ hst ln _ => Settled.step hs hst ln

theorem settled_of_metadata {site : Text} {before metadata : List Text} (hs : ThreeLetters site)
    (hbefore : ∀ ln ∈ before, cf6Station ln = [])
    (hmonth : ∃ ln ∈ metadata, icontains ln (ascii "MONTH:") = true ∧ (monthNum ln).1 ≠ 0)
    (hyear : ∃ ln ∈ metadata, icontains ln (ascii "YEAR:") = true ∧ cf6Year ln ≠ 0) :
    Settled site ((before ++ (ascii "CF6" ++ site) :: metadata).foldl cf6Step {}) := by
  refine ⟨?_, ?_, ?_, ?_⟩
  · have hsite := hs.ne_nil
    have hawips := cf6Station_awips hs
    rw [foldl_cf6Step_station, List.isEmpty_nil, if_pos rfl,
      firstNonempty_map_of_first hbefore (hawips.symm ▸ hsite), hawips]
  · obtain ⟨ln, hln, hlabel, hm⟩ := hmonth
    refine foldl_of_mem (P := fun st : Cf6State => st.month ≠ 0) (fun st l hst => ?_)
      (List.mem_append_right _ (List.mem_cons_of_mem _ hln)) (fun st => ?_) {}
    · rw [cf6Step_month, if_neg fun h => hst h.1]
      exact hst
    · rw [cf6Step_month]
      split_ifs with h0
      · exact hm
      · exact fun hzero => h0 ⟨hzero, hlabel⟩
  · obtain ⟨ln, hln, hlabel, hy⟩ := hyear
    refine foldl_of_mem (P := fun st : Cf6State => st.year ≠ 0) (fun st l hst => ?_)
      (List.mem_append_right _ (List.mem_cons_of_mem _ hln)) (fun st => ?_) {}
    · rw [cf6Step_year, if_neg fun h => hst h.1]
      exact hst
    · rw [cf6Step_year]
      split_ifs with h0
      · exact hy
      · exact fun hzero => h0 ⟨hzero, hlabel⟩
  · exact List.foldlRecOn (motive := fun st : Cf6State => 0 ≤ st.bestDay) _ cf6Step (le_refl 0)
      fun st hst ln _ => hst.trans (cf6Step_bestDay_le st ln)

theorem settled_of_body {site : Text} {before body : List Text} (hs : ThreeLetters site)
    (hbefore : ∀ ln ∈ before, cf6Station ln = [] ∧ isDataHeader ln = false) (hbody : Cf6Body body) :
    Settled site (cf6Loop {} (before ++ (ascii "CF6" ++ site) :: body)) ∧
      1 ≤ (cf6Loop {} (before ++ (ascii "CF6" ++ site) :: body)).bestDay := by
  obtain ⟨metadata, header, rows, row, after, rfl, hmeta, hmonth, hyear, hheader, hrows, hrow,
    hcomplete⟩ := hbody
  let head := before ++ (ascii "CF6" ++ site) :: metadata
  have hheads : ∀ ln ∈ head, isDataHeader ln = false := by
    intro ln hln
    rcases List.mem_append.mp hln with hln | hln
    · exact (hbefore ln hln).2
    · rcases List.mem_cons.mp hln with rfl | hln
      · exact awips_not_dataHeader hs
      · exact hmeta ln hln
  have hset := settled_of_metadata hs (fun ln hln => (hbefore ln hln).1) hmonth hyear
  have hpast0 : (head.foldl cf6Step {}).pastDataHeader = false := by
    rw [foldl_cf6Step_pastDataHeader, List.any_eq_false.mpr (by simpa using hheads)]
    rfl
  let st := rows.foldl cf6Step (cf6Step (head.foldl cf6Step {}) header)
  have hst : Settled site st := Settled.foldl hs.ne_nil (Settled.step hs.ne_nil hset header) rows
  have hpast : st.pastDataHeader = true := by
    simp [st, foldl_cf6Step_pastDataHeader, cf6Step_pastDataHeader, hheader]
  have hsplit : before ++ (ascii "CF6" ++ site) :: (metadata ++ header :: (rows ++ row :: after)) =
      head ++ header :: (rows ++ row :: after) := by
    simp [head]
  rw [hsplit, cf6Loop_metadata _ rfl hheads, cf6Loop_cons_of_continue _ (by simp [hpast0]),
    cf6Loop_rows _ hrows, cf6Loop_cons_of_continue _ (by rw [hrow, Bool.and_false])]
  refine cf6Loop_invariant (P := fun s => Settled site s ∧ 1 ≤ s.bestDay)
    (fun s ln hP => ⟨hP.1.step hs.ne_nil ln, hP.2.trans (cf6Step_bestDay_le s ln)⟩) ⟨?_, ?_⟩ after
  · exact hst.step hs.ne_nil row
  · exact hcomplete.bestDay_pos hpast hst.2.2.2

theorem parse_of_settled {site text : Text} (hs : ThreeLetters site)
    (hcf6 : hasF6Banner text = true) (h : Settled site (cf6Loop {} (linesOf text)))
    (hday : 1 ≤ (cf6Loop {} (linesOf text)).bestDay) :
    ∃ r, parseCliProductText text = .ok r ∧ r.station = 75 :: site := by
  obtain ⟨hstation, hmonth, hyear, -⟩ := h
  have htext : text.isEmpty = false := by
    cases text with
    | nil => exact absurd hcf6 (by decide)
    | cons c cs => rfl
  have hok : ¬ ((cf6Loop {} (linesOf text)).month = 0 ∨ (cf6Loop {} (linesOf text)).year = 0 ∨
      (cf6Loop {} (linesOf text)).bestDay = 0) := by
    rintro (h | h | h)
    · exact hmonth h
    · exact hyear h
    · omega
  rw [parseCliProductText, htext, hcf6]
  simp only [Bool.false_eq_true, if_false, if_true, parseCf6ProductText, if_neg hok]
  exact ⟨_, rfl, by simp [hstation, hs.ne_nil]⟩

theorem Cf6Product.parse_station {office site text : Text} (h : Cf6Product office site text)
    (ho : ThreeLetters office) (hs : ThreeLetters site) :
    ∃ r, parseCliProductText text = .ok r ∧ r.station = 75 :: site := by
  obtain ⟨hcf6, body, hbody, preamble, n, time, hpre, -, -, htd, hlines⟩ := h
  have hbefore : ∀ ln ∈ preamble ++ [wmoHeading (ascii "CXUS5" ++ [n]) office time],
      cf6Station ln = [] ∧ isDataHeader ln = false := by
    intro ln hln
    rcases List.mem_append.mp hln with hln | hln
    · exact (preamble_scans (hpre ln hln)).2
    · rw [List.mem_singleton.mp hln]
      exact wmoHeading_scans ho htd
  have hsplit : linesOf text = preamble ++ [wmoHeading (ascii "CXUS5" ++ [n]) office time] ++
      (ascii "CF6" ++ site) :: body := by
    rw [hlines, List.append_assoc, List.singleton_append]
  have hfinal := settled_of_body hs hbefore hbody
  rw [← hsplit] at hfinal
  exact parse_of_settled hs hcf6 hfinal.1 hfinal.2

/-- Both products parse and name the site exactly when the site's own office
issued the CLI product. -/
theorem same_station_iff {office site cliText cf6Text : Text} (ho : ThreeLetters office)
    (hs : ThreeLetters site) (hcli : CliProduct office site cliText)
    (hcf6 : Cf6Product office site cf6Text) :
    (∃ r r', parseCliProductText cliText = .ok r ∧ parseCliProductText cf6Text = .ok r' ∧
      r.station = r'.station ∧ r.station = 75 :: site) ↔ office = site := by
  obtain ⟨r, hr, hrs⟩ := hcli.parse_station ho
  obtain ⟨r', hr', hrs'⟩ := hcf6.parse_station ho hs
  constructor
  · rintro ⟨q, -, hq, -, -, hqs⟩
    rw [hr, Except.ok.injEq] at hq
    rw [← hq, hrs, List.cons.injEq] at hqs
    exact hqs.2
  · rintro rfl
    exact ⟨r, r', hr, hr', hrs.trans hrs'.symm, hrs⟩

end Runs

section Samples

def cliSample (office site : String) : Text :=
  ascii ("000\nCDUS41 K" ++ office ++ " 161000\nCLI" ++ site ++ "\nMAXIMUM 72")

def cf6Sample (office site : String) : Text :=
  ascii ("000\nCXUS51 K" ++ office ++ " 161010\nCF6" ++ site ++
    "\nWS FORM: F-6\nMONTH: MAY\nYEAR: 2026\nDY MAX MIN AVG\n 1  66  57  62")

theorem sample_lines {ttaai kind : Text} {office site time : String}
    (ho : ThreeLetters (ascii office)) (hs : ThreeLetters (ascii site))
    (hplain : ∀ c ∈ ttaai ++ (kind ++ ascii time), c ≠ 10 ∧ c ≠ 13) (rest : Text) :
    linesOf (ascii "000" ++ 10 :: (wmoHeading ttaai (ascii office) (ascii time) ++
        10 :: (kind ++ ascii site ++ 10 :: rest))) =
      ascii "000" :: wmoHeading ttaai (ascii office) (ascii time) ::
        (kind ++ ascii site) :: linesOf rest := by
  have hletters : ∀ w, ThreeLetters w → ∀ c ∈ w, c ≠ 10 ∧ c ≠ 13 := by
    intro w hw c hc
    have hupper := hw.2 c hc
    constructor <;>
    · rintro rfl
      exact absurd hupper (by decide)
  have hdigits : ∀ c ∈ ascii "000", c ≠ 10 ∧ c ≠ 13 := by decide
  have hheading : ∀ c ∈ wmoHeading ttaai (ascii office) (ascii time), c ≠ 10 ∧ c ≠ 13 := by
    intro c hc
    simp only [wmoHeading, List.mem_append, List.mem_cons] at hc
    rcases hc with (hc | rfl | rfl | hc) | rfl | hc
    · exact hplain c (by simp [hc])
    · decide
    · decide
    · exact hletters _ ho c hc
    · decide
    · exact hplain c (by simp [hc])
  have hawips : ∀ c ∈ kind ++ ascii site, c ≠ 10 ∧ c ≠ 13 := by
    intro c hc
    rcases List.mem_append.mp hc with hc | hc
    · exact hplain c (by simp [hc])
    · exact hletters _ hs c hc
  rw [linesOf_append_newline hdigits, linesOf_append_newline hheading,
    linesOf_append_newline hawips]

theorem cliSample_headed {office site : String} (ho : ThreeLetters (ascii office))
    (hs : ThreeLetters (ascii site)) (hbanner : hasF6Banner (cliSample office site) = false) :
    CliProduct (ascii office) (ascii site) (cliSample office site) := by
  have htext : cliSample office site = ascii "000" ++ 10 ::
      (wmoHeading (ascii "CDUS4" ++ [49]) (ascii office) (ascii "161000") ++
        10 :: (ascii "CLI" ++ ascii site ++ 10 :: ascii "MAXIMUM 72")) := by
    have hhead : ascii "000\nCDUS41 K" = ascii "000" ++ 10 :: (ascii "CDUS4" ++ [49, 32, 75]) := by
      decide
    have htime : ascii " 161000\nCLI" = 32 :: (ascii "161000" ++ 10 :: ascii "CLI") := by
      decide
    have hbody : ascii "\nMAXIMUM 72" = 10 :: ascii "MAXIMUM 72" := by decide
    simp only [cliSample, ascii_append, hhead, htime, hbody, wmoHeading, List.append_assoc,
      List.cons_append, List.nil_append]
  refine ⟨hbanner, [ascii "MAXIMUM 72"], [ascii "000"], 49, ascii "161000", by decide,
    by decide, by decide, by decide, ?_⟩
  rw [htext, sample_lines ho hs (by decide)]
  rfl

theorem sample_body : Cf6Body [ascii "WS FORM: F-6", ascii "MONTH: MAY", ascii "YEAR: 2026",
    ascii "DY MAX MIN AVG", ascii " 1  66  57  62"] := by
  refine ⟨[ascii "WS FORM: F-6", ascii "MONTH: MAY", ascii "YEAR: 2026"], ascii "DY MAX MIN AVG",
    [], ascii " 1  66  57  62", [], rfl, by decide, by decide, by decide,
    by decide, by simp, by decide, ?_⟩
  exact ⟨ascii "1", 1, 66, 57, [ascii "62"], by decide +kernel,
    by unfold IsDecimal; decide +kernel, by decide, by decide, by decide, by decide, by decide,
    by decide⟩

theorem cf6Sample_headed {office site : String} (ho : ThreeLetters (ascii office))
    (hs : ThreeLetters (ascii site)) :
    Cf6Product (ascii office) (ascii site) (cf6Sample office site) := by
  obtain ⟨table, htable⟩ : ∃ table, table =
    ascii "MONTH: MAY\nYEAR: 2026\nDY MAX MIN AVG\n 1  66  57  62" := ⟨_, rfl⟩
  let head := ascii "000" ++ 10 :: (wmoHeading (ascii "CXUS5" ++ [49]) (ascii office)
    (ascii "161010") ++ 10 :: (ascii "CF6" ++ ascii site ++ [10]))
  have htext : cf6Sample office site = head ++ (ascii "WS FORM: F-6" ++ 10 :: table) := by
    have hstart : ascii "000\nCXUS51 K" = ascii "000" ++ 10 :: (ascii "CXUS5" ++ [49, 32, 75]) := by
      decide
    have htime : ascii " 161010\nCF6" = 32 :: (ascii "161010" ++ 10 :: ascii "CF6") := by
      decide
    have hbody : ascii "\nWS FORM: F-6\nMONTH: MAY\nYEAR: 2026\nDY MAX MIN AVG\n 1  66  57  62" =
        10 :: (ascii "WS FORM: F-6" ++ 10 :: table) := by
      rw [htable, ascii_ofList, ascii_ofList, ascii_ofList]
      decide
    simp only [cf6Sample, head, ascii_append, hstart, htime, hbody, wmoHeading, List.append_assoc,
      List.cons_append, List.nil_append]
  have hbanner : hasF6Banner (cf6Sample office site) = true := by
    rw [htext, hasF6Banner, icontains_of_append rfl]
    rfl
  have hrows : linesOf table = [ascii "MONTH: MAY", ascii "YEAR: 2026", ascii "DY MAX MIN AVG",
      ascii " 1  66  57  62"] := by
    rw [htable, ascii_ofList]
    decide
  refine ⟨hbanner, _, sample_body, [ascii "000"], 49, ascii "161010", by decide, by decide,
    by decide, by decide, ?_⟩
  have hhead : head ++ (ascii "WS FORM: F-6" ++ 10 :: table) = ascii "000" ++ 10 ::
      (wmoHeading (ascii "CXUS5" ++ [49]) (ascii office) (ascii "161010") ++
        10 :: (ascii "CF6" ++ ascii site ++ 10 :: (ascii "WS FORM: F-6" ++ 10 :: table))) := by
    simp [head]
  rw [htext, hhead, sample_lines ho hs (by decide),
    linesOf_append_newline (by decide), hrows]
  rfl

theorem same_station_topeka :
    ∃ r r', parseCliProductText (cliSample "TOP" "TOP") = .ok r ∧
      parseCliProductText (cf6Sample "TOP" "TOP") = .ok r' ∧
      r.station = r'.station ∧ r.station = 75 :: ascii "TOP" :=
  have htop : ThreeLetters (ascii "TOP") := by decide
  (same_station_iff htop htop (cliSample_headed htop htop (by decide))
    (cf6Sample_headed htop htop)).mpr rfl

/-- New York's CLI product is filed under its issuing office, as is Newark's,
while its CF6 product is filed under the site. -/
theorem station_mismatch_new_york :
    CliProduct (ascii "OKX") (ascii "NYC") (cliSample "OKX" "NYC") ∧
      CliProduct (ascii "OKX") (ascii "EWR") (cliSample "OKX" "EWR") ∧
      Cf6Product (ascii "OKX") (ascii "NYC") (cf6Sample "OKX" "NYC") ∧
      (∃ r r', parseCliProductText (cliSample "OKX" "NYC") = .ok r ∧
        parseCliProductText (cliSample "OKX" "EWR") = .ok r' ∧ r.station = r'.station) ∧
      ¬ ∃ r r', parseCliProductText (cliSample "OKX" "NYC") = .ok r ∧
        parseCliProductText (cf6Sample "OKX" "NYC") = .ok r' ∧
        r.station = r'.station ∧ r.station = 75 :: ascii "NYC" := by
  have hoffice : ThreeLetters (ascii "OKX") := by decide
  have hsite : ThreeLetters (ascii "NYC") := by decide
  have hnyc : CliProduct (ascii "OKX") (ascii "NYC") (cliSample "OKX" "NYC") :=
    cliSample_headed hoffice hsite (by decide)
  have hewr : CliProduct (ascii "OKX") (ascii "EWR") (cliSample "OKX" "EWR") :=
    cliSample_headed hoffice (by decide) (by decide)
  obtain ⟨r, hr, hs⟩ := hnyc.parse_station hoffice
  obtain ⟨r', hr', hs'⟩ := hewr.parse_station hoffice
  refine ⟨hnyc, hewr, cf6Sample_headed hoffice hsite,
    ⟨r, r', hr, hr', hs.trans hs'.symm⟩, ?_⟩
  rintro ⟨q, -, hq, -, -, hqs⟩
  rw [hr, Except.ok.injEq] at hq
  rw [← hq, hs] at hqs
  exact absurd hqs (by decide)

end Samples

end NwsCpp
