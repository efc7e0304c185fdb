import NwsCpp.Bytes

/-! Percent-decoding, and the encoders it inverts: those that keep some bytes
other than `%` and write every other byte as `%` and two hexadecimal digits. -/

namespace Percent

open Bytes

def hexValue (c : Byte) : Option Nat :=
  if isdigit c then some (c.toNat - 48)
  else if 65 ≤ c && c ≤ 70 then some (c.toNat - 55)
  else if 97 ≤ c && c ≤ 102 then some (c.toNat - 87)
  else none

/-- A `%` that two hexadecimal digits do not follow stands for itself. -/
def decode : Text → Text
  | [] => []
  | 37 :: a :: b :: rest =>
    match hexValue a, hexValue b with
    | some x, some y => UInt8.ofNat (16 * x + y) :: decode rest
    | _, _ => 37 :: decode (a :: b :: rest)
  | c :: rest => c :: decode rest

theorem decode_cons_of_ne {c : Byte} (hc : c ≠ 37) (rest : Text) :
    decode (c :: rest) = c :: decode rest := by
  rw [decode]
  rintro a b r rfl
  exact absurd rfl hc

theorem decode_of_notMem {s : Text} (hs : (37 : Byte) ∉ s) : decode s = s := by
  induction s with
  | nil => rfl
  | cons c s ih =>
    have hc : c ≠ 37 := fun he => hs (by simp [he])
    rw [decode_cons_of_ne hc, ih fun h => hs (List.mem_cons_of_mem c h)]

theorem decode_triple {a b : Byte} {x y : Nat} (ha : hexValue a = some x) (hb : hexValue b = some y)
    (rest : Text) : decode (37 :: a :: b :: rest) = UInt8.ofNat (16 * x + y) :: decode rest := by
  simp only [decode, ha, hb]

/-- What `decode` needs of an encoding of single bytes. -/
def Inverted (encodeByte : Byte → Text) : Prop :=
  ∀ b rest, decode (encodeByte b ++ rest) = b :: decode rest

theorem Inverted.decode_flatMap {encodeByte : Byte → Text} (h : Inverted encodeByte) (s : Text) :
    decode (s.flatMap encodeByte) = s := by
  induction s with
  | nil => rfl
  | cons b s ih => rw [List.flatMap_cons, h b, ih]

section Grammar

/-- The characters that RFC 3986 leaves unreserved. -/
def unreserved (c : Byte) : Bool :=
  isalpha c || isdigit c || c == 45 || c == 46 || c == 95 || c == 126

def upperHex (c : Byte) : Bool := isdigit c || (65 ≤ c && c ≤ 70)

/-- Unreserved characters, and `%` with two upper-case hexadecimal digits. -/
inductive Encoded : Text → Prop
  | nil : Encoded []
  | unreserved {c : Byte} {rest : Text} : unreserved c = true → Encoded rest → Encoded (c :: rest)
  | triplet {a b : Byte} {rest : Text} : upperHex a = true → upperHex b = true → Encoded rest →
      Encoded (37 :: a :: b :: rest)

variable {c : Byte} {s t : Text}

theorem Encoded.append (hs : Encoded s) (ht : Encoded t) : Encoded (s ++ t) := by
  induction hs with
  | nil => exact ht
  | unreserved hc _ ih => exact .unreserved hc ih
  | triplet ha hb _ ih => exact .triplet ha hb ih

theorem Encoded.flatMap {encodeByte : Byte → Text} (h : ∀ b, Encoded (encodeByte b)) (s : Text) :
    Encoded (s.flatMap encodeByte) := by
  induction s with
  | nil => exact .nil
  | cons b s ih =>
    rw [List.flatMap_cons]
    exact (h b).append ih

theorem unreserved_of_upperHex (h : upperHex c = true) : unreserved c = true := by
  have hc := forall_byte (p := fun c => !upperHex c || unreserved c) (by decide +kernel) c
  simpa [h] using hc

theorem Encoded.unreserved_or (h : Encoded s) (hc : c ∈ s) : Percent.unreserved c = true ∨ c = 37 := by
  induction h with
  | nil => cases hc
  | unreserved hd _ ih =>
    rcases List.mem_cons.mp hc with rfl | hc
    · exact .inl hd
    · exact ih hc
  | triplet ha hb _ ih =>
    simp only [List.mem_cons] at hc
    rcases hc with rfl | rfl | rfl | hc
    · exact .inr rfl
    · exact .inl (unreserved_of_upperHex ha)
    · exact .inl (unreserved_of_upperHex hb)
    · exact ih hc

/-- Neither a delimiter nor a blank, nor outside the printed characters of ASCII. -/
theorem Encoded.plain (h : Encoded s) (hc : c ∈ s) :
    c ∉ ascii "&=,?#/" ∧ isspace c = false ∧ c ≠ 0 ∧ c ≤ 127 := by
  have hplain := forall_byte (p := fun c => !(Percent.unreserved c || c == 37) ||
    (!(ascii "&=,?#/").contains c && !isspace c && c != 0 && decide (c ≤ 127))) (by decide +kernel) c
  have hin : (Percent.unreserved c || c == 37) = true := by simpa using h.unreserved_or hc
  simpa [hin, and_assoc] using hplain

end Grammar

end Percent
