import NwsCpp.GeoJson

/-! The bulk feed of climate reports: an array of rows, of which those with a date count. -/

namespace NwsCpp

open Bytes Json

/-- A report whose temperatures are any numbers. -/
structure IemReport (D : Type*) where
  station : Text := []
  date : Text := []
  tmaxF : Option D := none
  tminF : Option D := none
  isPreliminary : Bool := true
  isCorrected : Bool := false
  source : Text := []
  issuanceTime : Text := []

variable {D : Type*}

section Parse

/-- The day of a row under either of its names. -/
def iemDate (row : Json D) : Text :=
  let valid := row.getString (ascii "valid")
  if valid.isEmpty then row.getString (ascii "date") else valid

def iemRow (row : Json D) : IemReport D where
  source := ascii "iem_json"
  isPreliminary := true
  station := row.getString (ascii "station")
  date := iemDate row
  tmaxF := row.getOptionalDouble (ascii "high")
  tminF := row.getOptionalDouble (ascii "low")

def iemRows (root : Json D) : Option (List (Json D)) :=
  match root.findArray (ascii "results") with
  | some rows => some rows
  | none => root.findArray (ascii "data")

def iemReports (rows : List (Json D)) : List (IemReport D) :=
  (rows.map iemRow).filter fun r => !r.date.isEmpty

def noResults : Error := .parse (ascii "IEM cli.py: no results array")

variable (parseRoot : Text → Result (Json D))

def parseIemCliJson (json : Text) : Result (List (IemReport D)) :=
  match parseRoot json with
  | .error error => .error error
  | .ok root =>
    match iemRows root with
    | none => .error noResults
    | some rows => .ok (iemReports rows)

end Parse

section Render

structure IemReport.Valid (r : IemReport D) : Prop where
  date : r.date ≠ []
  isPreliminary : r.isPreliminary = true
  isCorrected : r.isCorrected = false
  source : r.source = ascii "iem_json"
  issuanceTime : r.issuanceTime = []

def iemKeys : List Text :=
  ["results", "data", "station", "valid", "date", "high", "low"].map ascii

/-- The names of the array, and those of the day in a row. -/
def iemArrays : List Text := ["results", "data"].map ascii

def iemDays : List Text := ["valid", "date"].map ascii

def renderIemRow (day : Text) (r : IemReport D) : Json D :=
  .obj [(ascii "station", .str r.station), (day, .str r.date),
    (ascii "high", ofOptionalNumber r.tmaxF), (ascii "low", ofOptionalNumber r.tminF)]

/-- A feed of the reports, or one without any array. -/
def renderIem (array day : Text) : Option (List (IemReport D)) → Json D
  | some rs => .obj [(array, .arr (rs.map (renderIemRow day)))]
  | none => .obj []

theorem agree_iemRow {a b : Json D} (h : Agree iemKeys a b) : iemRow a = iemRow b := by
  simp (disch := decide) only [iemRow, iemDate, h.getString, h.getOptionalDouble]

theorem iemRow_render {day : Text} (hday : day ∈ iemDays) {r : IemReport D} (h : r.Valid) :
    iemRow (renderIemRow day r) = r := by
  have hdate : iemDate (renderIemRow day r) = r.date := by
    rw [iemDate]
    rcases List.mem_pair.mp hday with rfl | rfl
    · have hvalid : (renderIemRow (ascii "valid") r).getString (ascii "valid") = r.date :=
        getString_of_lookup rfl
      simp [hvalid, h.date]
    · have hvalid : (renderIemRow (ascii "date") r).getString (ascii "valid") = [] := rfl
      have hread : (renderIemRow (ascii "date") r).getString (ascii "date") = r.date :=
        getString_of_lookup rfl
      simp [hvalid, hread]
  have hstation : (renderIemRow day r).getString (ascii "station") = r.station :=
    getString_of_lookup rfl
  have hnumbers : (renderIemRow day r).getOptionalDouble (ascii "high") = r.tmaxF ∧
      (renderIemRow day r).getOptionalDouble (ascii "low") = r.tminF := by
    rcases List.mem_pair.mp hday with rfl | rfl <;>
      exact ⟨getOptionalDouble_of_lookup rfl, getOptionalDouble_of_lookup rfl⟩
  rw [iemRow, hdate, hstation, hnumbers.1, hnumbers.2, ← h.source]
  obtain ⟨-, hpreliminary, hcorrected, -, hissuance⟩ := h
  cases r
  simp_all

theorem valid_of_mem_iemReports {rows : List (Json D)} {r : IemReport D}
    (h : r ∈ iemReports rows) : r.Valid := by
  obtain ⟨hmem, hdate⟩ := List.mem_filter.mp h
  obtain ⟨row, -, rfl⟩ := List.mem_map.mp hmem
  exact ⟨by simpa using hdate, rfl, rfl, rfl, rfl⟩

theorem iemReports_render {day : Text} (hday : day ∈ iemDays) {rs : List (IemReport D)}
    (h : ∀ r ∈ rs, r.Valid) : iemReports (rs.map (renderIemRow day)) = rs := by
  have hid : ∀ r ∈ rs, (iemRow ∘ renderIemRow day) r = id r :=
    fun r hr => iemRow_render hday (h r hr)
  rw [iemReports, List.map_map, List.map_congr_left hid, List.map_id, List.filter_eq_self]
  exact fun r hr => by simpa using (h r hr).date

theorem iemReports_eq (rows : List (Json D)) :
    iemReports rows = (rows.filter fun row => !(iemDate row).isEmpty).map iemRow := by
  rw [iemReports, List.filter_map]
  rfl

theorem reads_iem {array day : Text} (harray : array ∈ iemArrays) (hday : day ∈ iemDays) :
    Reads iemKeys (fun found => ∀ rs ∈ found, ∀ r ∈ rs, r.Valid)
      (fun root : Json D => (iemRows root).map iemReports) (renderIem array day) where
  valid root rs hrs := by
    obtain ⟨rows, -, rfl⟩ := Option.map_eq_some_iff.mp hrs
    exact fun r hr => valid_of_mem_iemReports hr
  agree a b h := by
    have hreports (key : Text) (hkey : key ∈ iemKeys) :
        (a.findArray key).map iemReports = (b.findArray key).map iemReports := by
      have hsplit : (iemReports : List (Json D) → _) =
          (List.filter fun r => !r.date.isEmpty) ∘ List.map iemRow := rfl
      rw [hsplit, ← Option.map_map, ← Option.map_map,
        h.map_findArray (fun _ _ => agree_iemRow) hkey]
    have hresults := hreports (ascii "results") (by decide)
    have hdata := hreports (ascii "data") (by decide)
    simp only [iemRows]
    cases ha : a.findArray (ascii "results") <;> cases hb : b.findArray (ascii "results") <;>
      simp_all
  render found h := by
    cases found with
    | none => rfl
    | some rs =>
      have hrows : iemRows (renderIem array day (some rs)) = some (rs.map (renderIemRow day)) := by
        rw [iemRows, renderIem]
        rcases List.mem_pair.mp harray with rfl | rfl
        · rw [findArray_of_lookup rfl]
        · exact findArray_of_lookup rfl
      rw [hrows, Option.map_some, iemReports_render hday (h rs rfl)]

end Render

section Decode

variable (parseRoot : Text → Result (Json D))

theorem parseIem_eq {json : Text} {root : Json D} (hroot : parseRoot json = .ok root) :
    parseIemCliJson parseRoot json =
      (((iemRows root).map iemReports).map Except.ok).getD (.error noResults) := by
  rw [parseIemCliJson, hroot]
  cases h : iemRows root with
  | none => simp only [h, Option.map_none, Option.getD_none]
  | some rows => simp only [h, Option.map_some, Option.getD_some]

/-- What the feed parser does with every body: it passes on the error of a malformed one and
refuses one without an array; of any other the reports have a day each, are the same for the
same trees and whatever the rows without a day, and are those of the tree that stands for them. -/
theorem iem_decode :
    (∀ json error, parseRoot json = .error error →
      parseIemCliJson parseRoot json = .error error) ∧
    (∀ json root, parseRoot json = .ok root →
      ((∃ error, parseIemCliJson parseRoot json = .error error) ↔
        ∀ array ∈ iemArrays, root.findArray array = none) ∧
      ∀ rs, parseIemCliJson parseRoot json = .ok rs → ∀ r ∈ rs, r.Valid) ∧
    (∀ json json' root root', parseRoot json = .ok root → parseRoot json' = .ok root' →
      (Agree iemKeys root root' ∨ ∃ rows rows', iemRows root = some rows ∧
        iemRows root' = some rows' ∧ rows.filter (fun row => !(iemDate row).isEmpty) =
          rows'.filter fun row => !(iemDate row).isEmpty) →
      parseIemCliJson parseRoot json = parseIemCliJson parseRoot json') ∧
    ∀ rs : List (IemReport D), (∀ r ∈ rs, r.Valid) → ∀ array ∈ iemArrays, ∀ day ∈ iemDays,
      ∀ json root, parseRoot json = .ok root → Agree iemKeys root (renderIem array day (some rs)) →
        parseIemCliJson parseRoot json = .ok rs := by
  have hreads := reads_iem (D := D) (show ascii "results" ∈ iemArrays by decide)
    (show ascii "valid" ∈ iemDays by decide)
  refine ⟨fun json error h => by rw [parseIemCliJson, h], fun json root hroot => ⟨?_, ?_⟩, ?_, ?_⟩
  · rw [parseIem_eq parseRoot hroot, iemRows]
    have hboth : (∀ array ∈ iemArrays, root.findArray array = none) ↔
        root.findArray (ascii "results") = none ∧ root.findArray (ascii "data") = none := by
      simp [iemArrays]
    rw [hboth]
    cases root.findArray (ascii "results") <;> cases root.findArray (ascii "data") <;> simp
  · intro rs hrs
    have hvalid := hreads.valid root
    rw [parseIem_eq parseRoot hroot] at hrs
    cases hfound : (iemRows root).map iemReports with
    | none =>
      rw [hfound] at hrs
      cases hrs
    | some found =>
      rw [hfound] at hrs
      exact Except.ok.inj hrs ▸ hvalid found hfound
  · intro json json' root root' hroot hroot' hsame
    rw [parseIem_eq parseRoot hroot, parseIem_eq parseRoot hroot']
    rcases hsame with hagree | ⟨rows, rows', hrows, hrows', hfilter⟩
    · rw [hreads.agree root root' hagree]
    · rw [hrows, hrows', Option.map_some, Option.map_some, iemReports_eq, hfilter, ← iemReports_eq]
      rfl
  · intro rs hrs array harray day hday json root hroot hagree
    have hreads := reads_iem (D := D) harray hday
    have hfound := hreads.render (some rs) fun found hfound => Option.some.inj hfound ▸ hrs
    rw [parseIem_eq parseRoot hroot, hreads.agree root _ hagree, hfound]
    rfl

end Decode

end NwsCpp
