import NwsCpp.Bytes

/-! Decimal numerals: rendering, reading, and the bounded reader of
`std::from_chars`. -/

namespace Decimal

open Bytes

def digitVal (c : Byte) : Nat := c.toNat - 48

def digit (d : Nat) : Byte := UInt8.ofNat (48 + d)

def digitsVal (ds : Text) : Nat := ds.foldl (fun n c => 10 * n + digitVal c) 0

def IsDecimal (ds : Text) (n : Nat) : Prop :=
  ds ≠ [] ∧ (∀ c ∈ ds, isdigit c = true) ∧ digitsVal ds = n

instance (ds : Text) (n : Nat) : Decidable (IsDecimal ds n) :=
  inferInstanceAs (Decidable (_ ∧ _ ∧ _))

/-- `std::to_string` of an unsigned value. -/
def natText (n : Nat) : Text :=
  if n < 10 then [digit n] else natText (n / 10) ++ [digit (n % 10)]

/-- `std::to_string` of a signed value. -/
def intText (v : Int) : Text :=
  if v < 0 then 45 :: natText v.natAbs else natText v.natAbs

def intMin : Int := -2147483648

def intMax : Int := 2147483647

/-- The outcome of `std::from_chars` into an `int`, with the unread rest. -/
inductive CharsResult where
  | invalid
  | outOfRange (rest : Text)
  | ok (value : Int) (rest : Text)
  deriving DecidableEq

/-- `std::from_chars` into an `int`: an optional minus sign and the longest run
of digits, checked against the range of `int`. -/
def fromChars (s : Text) : CharsResult :=
  let neg := s.head? == some 45
  let body := if neg then s.tail else s
  let digits := body.takeWhile isdigit
  let rest := body.dropWhile isdigit
  if digits.isEmpty then .invalid
  else
    let v : Int := if neg then -(digitsVal digits : Int) else digitsVal digits
    if intMin ≤ v ∧ v ≤ intMax then .ok v rest else .outOfRange rest

/-- The variable left by `int v = 0; std::from_chars(first, last, v);` where
only the value is looked at. -/
def readInt (s : Text) : Int :=
  match fromChars s with
  | .ok v _ => v
  | _ => 0

/-- The conversion `%0<width>d` of `printf`. -/
def zeroPad (width : Nat) (v : Int) : Text :=
  let sign : Text := if v < 0 then [45] else []
  let body := natText v.natAbs
  sign ++ List.replicate (width - sign.length - body.length) 48 ++ body

theorem digit_isdigit {d : Nat} (hd : d < 10) : isdigit (digit d) = true := by
  interval_cases d <;> decide

theorem digitVal_digit {d : Nat} (hd : d < 10) : digitVal (digit d) = d := by
  interval_cases d <;> decide

theorem digitsVal_append_singleton (ds : Text) (c : Byte) :
    digitsVal (ds ++ [c]) = 10 * digitsVal ds + digitVal c := by
  simp [digitsVal]

theorem natText_ne_nil (n : Nat) : natText n ≠ [] := by
  rw [natText]
  split <;> simp

theorem natText_isdigit (n : Nat) : ∀ c ∈ natText n, isdigit c = true := by
  induction n using Nat.strongRecOn with
  | ind n ih =>
    intro c hc
    rw [natText] at hc
    by_cases hn : n < 10
    · simp only [hn, if_true, List.mem_singleton] at hc
      exact hc ▸ digit_isdigit hn
    · simp only [hn, if_false, List.mem_append, List.mem_singleton] at hc
      rcases hc with hc | rfl
      · exact ih (n / 10) (by omega) c hc
      · exact digit_isdigit (by omega)

theorem digitsVal_natText (n : Nat) : digitsVal (natText n) = n := by
  induction n using Nat.strongRecOn with
  | ind n ih =>
    rw [natText]
    by_cases hn : n < 10
    · simp [hn, digitsVal, digitVal_digit hn]
    · rw [if_neg hn, digitsVal_append_singleton, ih (n / 10) (by omega),
        digitVal_digit (by omega)]
      omega

theorem fromChars_run {w : Text} (rest : Text) (hne : w ≠ []) (hw : ∀ c ∈ w, isdigit c = true)
    (hrest : ∀ c, rest.head? = some c → isdigit c = false) :
    fromChars (w ++ rest) =
      if (digitsVal w : Int) ≤ intMax then .ok (digitsVal w) rest else .outOfRange rest := by
  obtain ⟨ht, hd⟩ := takeWhile_append_stop hw hrest
  have hneg : ((w ++ rest).head? == some 45) = false := by
    cases w with
    | nil => exact absurd rfl hne
    | cons c w =>
      have hc := hw c (by simp)
      refine beq_eq_false_iff_ne.mpr fun he => ?_
      simp only [List.cons_append, List.head?_cons, Option.some.injEq] at he
      simp [he, isdigit] at hc
  have hmin : intMin ≤ (digitsVal w : Int) := by simp only [intMin]; omega
  simp only [fromChars, hneg, Bool.false_eq_true, if_false, ht, hd, hmin, true_and]
  rw [if_neg (by simpa using hne)]

theorem fromChars_neg_run {w : Text} (rest : Text) (hne : w ≠ []) (hw : ∀ c ∈ w, isdigit c = true)
    (hrest : ∀ c, rest.head? = some c → isdigit c = false) :
    fromChars (45 :: w ++ rest) =
      if intMin ≤ -(digitsVal w : Int) then .ok (-(digitsVal w : Int)) rest
      else .outOfRange rest := by
  obtain ⟨ht, hd⟩ := takeWhile_append_stop hw hrest
  have hmax : -(digitsVal w : Int) ≤ intMax := by simp only [intMax]; omega
  simp only [fromChars, List.cons_append, List.head?_cons, beq_self_eq_true, if_true,
    List.tail_cons, ht, hd, hmax, and_true]
  rw [if_neg (by simpa using hne)]

theorem fromChars_digits {w : Text} (rest : Text) (hne : w ≠ []) (hw : ∀ c ∈ w, isdigit c = true)
    (hrest : ∀ c, rest.head? = some c → isdigit c = false) (hmax : (digitsVal w : Int) ≤ intMax) :
    fromChars (w ++ rest) = .ok (digitsVal w) rest := by
  rw [fromChars_run rest hne hw hrest, if_pos hmax]

theorem fromChars_neg_digits {w : Text} (rest : Text) (hne : w ≠ []) (hw : ∀ c ∈ w, isdigit c = true)
    (hrest : ∀ c, rest.head? = some c → isdigit c = false)
    (hmin : intMin ≤ -(digitsVal w : Int)) :
    fromChars (45 :: w ++ rest) = .ok (-(digitsVal w : Int)) rest := by
  rw [fromChars_neg_run rest hne hw hrest, if_pos hmin]

theorem readInt_digits {w : Text} (hne : w ≠ []) (hw : ∀ c ∈ w, isdigit c = true)
    (hmax : (digitsVal w : Int) ≤ intMax) : readInt w = digitsVal w := by
  have h := fromChars_digits [] hne hw (by simp) hmax
  rw [List.append_nil] at h
  simp [readInt, h]

theorem IsDecimal.readInt_eq {ds : Text} {n : Nat} (h : IsDecimal ds n) (hn : (n : Int) ≤ intMax) :
    readInt ds = n := by
  rw [readInt_digits h.1 h.2.1 (h.2.2 ▸ hn), h.2.2]

theorem fromChars_intText {v : Int} (hmin : intMin ≤ v) (hmax : v ≤ intMax) :
    fromChars (intText v) = .ok v [] := by
  have hdig := natText_isdigit v.natAbs
  have hne := natText_ne_nil v.natAbs
  have hval := digitsVal_natText v.natAbs
  by_cases hv : v < 0
  · have h := fromChars_neg_digits [] hne hdig (by simp) (by rw [hval]; omega)
    rw [List.append_nil, hval] at h
    rw [intText, if_pos hv, h]
    congr
    omega
  · have h := fromChars_digits [] hne hdig (by simp) (by rw [hval]; omega)
    rw [List.append_nil, hval] at h
    rw [intText, if_neg hv, h]
    congr
    omega

end Decimal
