import Mathlib

/-! Byte strings, the character classes of the C locale, and first-position
search in a list. -/

namespace Bytes

abbrev Byte := UInt8

abbrev Text := List Byte

instance : LawfulBEq Text := inferInstance

/-- Over the bytes of a text, not over all bytes. -/
instance (priority := 2000) (w : Text) (p : Byte → Prop) [DecidablePred p] :
    Decidable (∀ c ∈ w, p c) := List.decidableBAll p w

def ascii (s : String) : Text := s.toList.map fun c => UInt8.ofNat c.toNat

/-- A literal is read as its list of characters, which is quick to evaluate. -/
theorem ascii_ofList (cs : List Char) :
    ascii (String.ofList cs) = cs.map fun c => UInt8.ofNat c.toNat := by
  rw [ascii, String.toList_ofList]

theorem ascii_append (s t : String) : ascii (s ++ t) = ascii s ++ ascii t := by
  rw [ascii, String.toList_append, List.map_append, ascii, ascii]

def isdigit (c : Byte) : Bool := 48 ≤ c && c ≤ 57

def isupper (c : Byte) : Bool := 65 ≤ c && c ≤ 90

def islower (c : Byte) : Bool := 97 ≤ c && c ≤ 122

def isalpha (c : Byte) : Bool := isupper c || islower c

/-- Space, tab, line feed, vertical tab, form feed and carriage return. -/
def isspace (c : Byte) : Bool := c == 32 || (9 ≤ c && c ≤ 13)

def toupper (c : Byte) : Byte := if islower c then c - 32 else c

theorem forall_byte {p : Byte → Bool} (h : ∀ i : Fin 256, p (UInt8.ofFin i) = true) (c : Byte) :
    p c = true := h c.toFin

theorem isdigit_not_isalpha {c : Byte} (h : isdigit c = true) : isalpha c = false := by
  simp only [isdigit, isalpha, isupper, islower, Bool.and_eq_true, decide_eq_true_eq] at *
  grind

theorem isdigit_not_isspace {c : Byte} (h : isdigit c = true) : isspace c = false := by
  simp only [isdigit, isspace, Bool.and_eq_true, decide_eq_true_eq] at *
  grind

theorem isupper_not_isdigit {c : Byte} (h : isupper c = true) : isdigit c = false := by
  cases hd : isdigit c with
  | false => rfl
  | true => simpa [isalpha, h] using isdigit_not_isalpha hd

theorem isspace_not_isdigit {c : Byte} (h : isspace c = true) : isdigit c = false := by
  cases hd : isdigit c with
  | false => rfl
  | true => simp [isdigit_not_isspace hd] at h

theorem isupper_toupper_iff (c : Byte) : isupper (toupper c) = isalpha c := by
  have hc := forall_byte (p := fun c => isupper (toupper c) == isalpha c) (by decide +kernel) c
  simpa using hc

theorem takeWhile_append_stop {α : Type*} {p : α → Bool} {w rest : List α}
    (hw : ∀ c ∈ w, p c = true) (hrest : ∀ c, rest.head? = some c → p c = false) :
    (w ++ rest).takeWhile p = w ∧ (w ++ rest).dropWhile p = rest := by
  have hstop : rest.takeWhile p = [] ∧ rest.dropWhile p = rest := by
    cases rest with
    | nil => simp
    | cons c rest => simp [hrest c rfl]
  rw [List.takeWhile_append_of_pos hw, List.dropWhile_append_of_pos hw, hstop.1, hstop.2]
  simp

theorem takeWhile_ne_append {d : Byte} {s rest : Text} (hs : d ∉ s)
    (hrest : ∀ c, rest.head? = some c → c = d) :
    (s ++ rest).takeWhile (· != d) = s ∧ (s ++ rest).dropWhile (· != d) = rest := by
  apply takeWhile_append_stop
  · intro c hc
    simpa using fun he : c = d => hs (he ▸ hc)
  · intro c hc
    simp [hrest c hc]

theorem findIdx?_of_notMem {d : Byte} {s : Text} (hs : d ∉ s) : s.findIdx? (· == d) = none := by
  rw [List.findIdx?_eq_none_iff]
  intro c hc
  exact beq_eq_false_iff_ne.mpr fun he => hs (he ▸ hc)

theorem findIdx?_append_of_notMem {d : Byte} {s : Text} (hs : d ∉ s) (rest : Text) :
    (s ++ d :: rest).findIdx? (· == d) = some s.length := by
  rw [List.findIdx?_append, findIdx?_of_notMem hs, Option.none_or, List.findIdx?_cons,
    beq_self_eq_true, if_pos rfl, Option.map_some, Nat.zero_add]

section Search

variable {α : Type*} {p : List α → Bool} {s r : List α} {i : Nat}

/-- The least position from which `p` accepts the rest of the list. -/
def search (p : List α → Bool) : List α → Option Nat
  | [] => if p [] then some 0 else none
  | c :: cs => if p (c :: cs) then some 0 else (search p cs).map (· + 1)

theorem search_eq_some_iff : search p s = some i ↔
    i ≤ s.length ∧ p (s.drop i) = true ∧ ∀ j < i, p (s.drop j) = false := by
  induction s generalizing i with
  | nil =>
    by_cases hp : p []
    · simp only [search, hp, if_true, Option.some.injEq, List.length_nil, Nat.le_zero_eq,
        List.drop_nil, Bool.true_eq_false, imp_false, not_lt]
      exact ⟨fun h => ⟨h.symm, trivial, fun j => by omega⟩, fun h => h.1.symm⟩
    · simp [search, hp]
  | cons c cs ih =>
    by_cases hp : p (c :: cs)
    · simp only [search, hp, if_true, Option.some.injEq]
      constructor
      · rintro rfl
        exact ⟨by omega, by simpa using hp, fun j hj => by omega⟩
      · rintro ⟨-, -, hmin⟩
        by_contra hne
        have h0 := hmin 0 (by omega)
        simp [hp] at h0
    · simp only [search, hp, Bool.false_eq_true, if_false, Option.map_eq_some_iff]
      constructor
      · rintro ⟨k, hk, rfl⟩
        obtain ⟨hle, hpk, hmin⟩ := ih.mp hk
        refine ⟨by simpa using hle, by simpa using hpk, fun j hj => ?_⟩
        cases j with
        | zero => simpa using hp
        | succ j => simpa using hmin j (by omega)
      · rintro ⟨hle, hpi, hmin⟩
        cases i with
        | zero => simp [hp] at hpi
        | succ k =>
          refine ⟨k, ih.mpr ⟨by simpa using hle, by simpa using hpi, fun j hj => ?_⟩, rfl⟩
          simpa using hmin (j + 1) (by omega)

theorem search_isSome_iff : (search p s).isSome = true ↔ ∃ t, t <:+ s ∧ p t = true := by
  induction s with
  | nil => by_cases hp : p [] <;> simp [search, hp]
  | cons c cs ih =>
    by_cases hp : p (c :: cs)
    · simp only [search, hp, if_true, Option.isSome_some, true_iff]
      exact ⟨_, List.suffix_refl _, hp⟩
    · simp only [search, hp, Bool.false_eq_true, if_false, Option.isSome_map, ih,
        List.suffix_cons_iff]
      constructor
      · rintro ⟨t, ht, hpt⟩
        exact ⟨t, Or.inr ht, hpt⟩
      · rintro ⟨t, rfl | ht, hpt⟩
        · exact absurd hpt hp
        · exact ⟨t, ht, hpt⟩

theorem search_map {β : Type*} (f : β → α) (s : List β) :
    search p (s.map f) = search (fun t => p (t.map f)) s := by
  induction s with
  | nil => rfl
  | cons c s ih => rw [List.map_cons, search, ih, search, List.map_cons]

theorem search_append (hs : ∀ j < s.length, p (s.drop j ++ r) = false) (hr : p r = true) :
    search p (s ++ r) = some s.length := by
  refine search_eq_some_iff.mpr ⟨by simp, by simpa using hr, fun j hj => ?_⟩
  rw [List.drop_append_of_le_length hj.le]
  exact hs j hj

end Search

/-- `std::string_view::find`, with `none` for `npos`. -/
def find (hay needle : Text) : Option Nat := search needle.isPrefixOf hay

def contains (hay needle : Text) : Bool := (find hay needle).isSome

def substr (s : Text) (pos len : Nat) : Text := (s.drop pos).take len

theorem contains_iff {hay needle : Text} : contains hay needle = true ↔ needle <:+: hay := by
  simp only [contains, find, search_isSome_iff, List.isPrefixOf_iff_prefix]
  rw [List.infix_iff_prefix_suffix]
  exact ⟨fun ⟨t, hs, hp⟩ => ⟨t, hp, hs⟩, fun ⟨t, hp, hs⟩ => ⟨t, hs, hp⟩⟩

theorem prefix_of_find {hay needle : Text} {i : Nat} (h : find hay needle = some i) :
    needle <+: hay.drop i :=
  List.isPrefixOf_iff_prefix.mp (search_eq_some_iff.mp h).2.1

theorem find_eq_of_first {pre needle post : Text}
    (hfirst : ∀ p q, pre ++ needle ++ post = p ++ needle ++ q → pre.length ≤ p.length) :
    find (pre ++ needle ++ post) needle = some pre.length := by
  rw [List.append_assoc]
  refine search_append (fun j hj => ?_) (by simp [List.isPrefixOf_iff_prefix])
  refine Bool.eq_false_iff.mpr fun hp => ?_
  obtain ⟨q, hq⟩ := List.isPrefixOf_iff_prefix.mp hp
  have hsplit : pre ++ needle ++ post = pre.take j ++ needle ++ q := by
    rw [List.append_assoc (pre.take j), hq, ← List.append_assoc (pre.take j), List.take_append_drop,
      List.append_assoc]
  have := hfirst _ _ hsplit
  simp only [List.length_take] at this
  omega

theorem find_append_of_notMem {c : Byte} {pre needle post : Text} (hpre : c ∉ pre) :
    find (pre ++ (c :: needle) ++ post) (c :: needle) = some pre.length := by
  refine find_eq_of_first fun p q hpq => ?_
  by_contra hlt
  have hget : (pre ++ c :: needle ++ post)[p.length]? = some c := by
    rw [hpq]
    simp
  rw [List.append_assoc, List.getElem?_append_left (by omega)] at hget
  exact hpre (List.mem_of_getElem? hget)

end Bytes
