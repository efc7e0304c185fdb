import NwsCpp.PercentCoding
import NwsCpp.Decimal

/-! `encode_query_value`: which bytes it keeps, and that decoding undoes it. -/

namespace NwsCpp

open Bytes Decimal

def hex : Text := ascii "0123456789ABCDEF"

def keptByte (byte : Byte) : Bool :=
  islower byte || isupper byte || isdigit byte || byte == 45 || byte == 46 || byte == 95 ||
    byte == 126

def encodeByte (byte : Byte) : Text :=
  if keptByte byte then [byte]
  else [37, hex.getD (byte >>> 4).toNat 0, hex.getD (byte &&& 15).toNat 0]

def encodeQueryValue (value : Text) : Text := value.flatMap encodeByte

@[simp] theorem encodeQueryValue_nil : encodeQueryValue [] = [] := rfl

theorem hex_digit : ∀ d < 16, Percent.hexValue (hex.getD d 0) = some d := by decide

theorem hex_upper : ∀ d < 16, Percent.upperHex (hex.getD d 0) = true := by decide

theorem nibbles (b : Byte) : (b >>> 4).toNat < 16 ∧ (b &&& 15).toNat < 16 ∧
    UInt8.ofNat (16 * (b >>> 4).toNat + (b &&& 15).toNat) = b := by
  have hb := forall_byte (p := fun b => decide ((b >>> 4).toNat < 16) &&
    decide ((b &&& 15).toNat < 16) &&
    UInt8.ofNat (16 * (b >>> 4).toNat + (b &&& 15).toNat) == b) (by decide +kernel) b
  simpa [and_assoc] using hb

theorem encodeByte_inverted : Percent.Inverted encodeByte := by
  intro b rest
  obtain ⟨hhigh, hlow, hvalue⟩ := nibbles b
  rw [encodeByte]
  by_cases hb : keptByte b = true
  · rw [if_pos hb, List.singleton_append]
    apply Percent.decode_cons_of_ne
    rintro rfl
    exact absurd hb (by decide)
  · rw [if_neg hb]
    simp only [List.cons_append, List.nil_append]
    rw [Percent.decode_triple (hex_digit _ hhigh) (hex_digit _ hlow), hvalue]

theorem decode_encodeQueryValue (s : Text) : Percent.decode (encodeQueryValue s) = s :=
  encodeByte_inverted.decode_flatMap s

theorem encodeQueryValue_injective : Function.Injective encodeQueryValue :=
  Function.LeftInverse.injective decode_encodeQueryValue

theorem encodeQueryValue_of_kept {s : Text} (h : ∀ c ∈ s, keptByte c = true) :
    encodeQueryValue s = s := by
  induction s with
  | nil => rfl
  | cons c s ih =>
    have hrest := ih fun d hd => h d (List.mem_cons_of_mem c hd)
    rw [encodeQueryValue, List.flatMap_cons, encodeByte, if_pos (h c (by simp))]
    exact congrArg (c :: ·) hrest

theorem intText_kept (v : Int) : ∀ c ∈ intText v, keptByte c = true := by
  have hdigit : ∀ c ∈ natText v.natAbs, keptByte c = true := fun c hc => by
    simp [keptByte, natText_isdigit _ c hc]
  intro c hc
  rw [intText] at hc
  split_ifs at hc with hv
  · rcases List.mem_cons.mp hc with rfl | hc
    · decide
    · exact hdigit c hc
  · exact hdigit c hc

theorem encodeQueryValue_intText (v : Int) : encodeQueryValue (intText v) = intText v :=
  encodeQueryValue_of_kept (intText_kept v)

theorem keptByte_eq_unreserved (b : Byte) : keptByte b = Percent.unreserved b := by
  rw [keptByte, Percent.unreserved, isalpha, Bool.or_comm (islower b)]

theorem encodeByte_encoded (b : Byte) : Percent.Encoded (encodeByte b) := by
  obtain ⟨hhigh, hlow, -⟩ := nibbles b
  rw [encodeByte]
  by_cases hb : keptByte b = true
  · rw [if_pos hb]
    exact .unreserved (keptByte_eq_unreserved b ▸ hb) .nil
  · rw [if_neg hb]
    exact .triplet (hex_upper _ hhigh) (hex_upper _ hlow) .nil

theorem encodeQueryValue_encoded (s : Text) : Percent.Encoded (encodeQueryValue s) :=
  Percent.Encoded.flatMap encodeByte_encoded s

theorem encodeQueryValue_append (s t : Text) :
    encodeQueryValue (s ++ t) = encodeQueryValue s ++ encodeQueryValue t := List.flatMap_append

theorem mem_encodeQueryValue {c : Byte} {s : Text} (h : c ∈ encodeQueryValue s) :
    keptByte c = true ∨ c = 37 := by
  rw [keptByte_eq_unreserved]
  exact (encodeQueryValue_encoded s).unreserved_or h

theorem notMem_encodeQueryValue {c : Byte} (hc : keptByte c = false) (h37 : c ≠ 37) (s : Text) :
    c ∉ encodeQueryValue s := by
  intro h
  rcases mem_encodeQueryValue h with h | h
  · simp [hc] at h
  · exact h37 h

/-- Encoding is undone by decoding, goes byte by byte, and writes no byte that has a
meaning in a query or a path. -/
theorem encodeQueryValue_homomorphism :
    (∀ s, Percent.decode (encodeQueryValue s) = s) ∧
      (∀ s t, encodeQueryValue (s ++ t) = encodeQueryValue s ++ encodeQueryValue t) ∧
      (∀ s, Percent.Encoded (encodeQueryValue s)) ∧
      (∀ s, ∀ c ∈ encodeQueryValue s, c ∉ ascii "&=,?#/" ∧ isspace c = false ∧ c ≠ 0 ∧ c ≤ 127) ∧
      Function.Injective encodeQueryValue :=
  ⟨decode_encodeQueryValue, encodeQueryValue_append, encodeQueryValue_encoded,
    fun s _ hc => (encodeQueryValue_encoded s).plain hc, encodeQueryValue_injective⟩

example : encodeQueryValue (ascii "a+/=&?# %") = ascii "a%2B%2F%3D%26%3F%23%20%25" := by
  decide

end NwsCpp
