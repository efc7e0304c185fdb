import NwsCpp.Units
import NwsCpp.Affine

/-! The conversions between units form one coherent system. -/

namespace NwsCpp

open MeasureUnit

inductive Quantity where
  | temperature
  | speed
  | distance
  | pressure
  | precipitation
  | angle
  | percent
  | unknown
  deriving DecidableEq

namespace MeasureUnit

def quantity : MeasureUnit → Quantity
  | degC | degF | kelvin => .temperature
  | kmH | mS | knot | miH => .speed
  | meter | kilometer | mile => .distance
  | pascal | millibar => .pressure
  | millimeter | inch | centimeter => .precipitation
  | degreeAngle => .angle
  | percent => .percent
  | unknown => .unknown

/-- The map from one unit to another, read off at two values. -/
def toUnit (a b : MeasureUnit) : Affine ℚ where
  slope := (convert 1 a b).getD 0 - (convert 0 a b).getD 0
  offset := (convert 0 a b).getD 0

end MeasureUnit

theorem convert_eq_none {a b : MeasureUnit} (h : a.quantity ≠ b.quantity) (x : ℚ) :
    convert x a b = none := by
  cases a <;> cases b <;> first | rfl | exact (h rfl).elim

theorem convert_eq_some {a b : MeasureUnit} (h : a.quantity = b.quantity) (x : ℚ) :
    convert x a b = some ((a.toUnit b).apply x) := by
  cases a <;> cases b <;> first
    | exact absurd h (by decide)
    | refine congrArg some ?_
      simp only [Affine.apply, toUnit, convert, reduceCtorEq, if_false, if_true, and_self, and_false,
        and_true, Option.getD_some, celsiusToFahrenheit, fahrenheitToCelsius, kmhToMph, mphToKmh,
        msToMph, mphToMs, msToKmh, knotsToMph, mphToKnots, pascalToMillibar, millibarToPascal,
        mmToInches, inchesToMm, metersToMiles, kmToMiles]
      norm_num <;> ring

namespace MeasureUnit

theorem toUnit_pairs : ∀ a ∈ all, ∀ b ∈ all, a.quantity = b.quantity →
    0 < (a.toUnit b).slope ∧ (b.toUnit a).comp (a.toUnit b) = Affine.id := by
  decide +kernel

theorem toUnit_triangles : ∀ a ∈ all, ∀ b ∈ all, a.quantity = b.quantity → ∀ c ∈ all,
    b.quantity = c.quantity →
      if a.quantity = .temperature ∨ a.quantity = .pressure then
        (b.toUnit c).comp (a.toUnit b) = a.toUnit c
      else Affine.Near (1 / 100000) ((b.toUnit c).comp (a.toUnit b)) (a.toUnit c) := by
  decide +kernel

end MeasureUnit

theorem convert_isSome_iff {x : ℚ} {a b : MeasureUnit} :
    (convert x a b).isSome = true ↔ a.quantity = b.quantity := by
  by_cases h : a.quantity = b.quantity
  · simp [convert_eq_some h, h]
  · simp [convert_eq_none h, h]

/-- A conversion that has a value is an increasing map that the reverse one undoes. -/
theorem convert_eq_some_iff {x y : ℚ} {a b : MeasureUnit} :
    convert x a b = some y ↔ a.quantity = b.quantity ∧ (a.toUnit b).apply x = y := by
  by_cases h : a.quantity = b.quantity
  · simp [convert_eq_some h, h]
  · simp [convert_eq_none h, h]

theorem convert_reverse {x y : ℚ} {a b : MeasureUnit} (h : convert x a b = some y) :
    convert y b a = some x := by
  obtain ⟨hab, rfl⟩ := convert_eq_some_iff.mp h
  have hid := (toUnit_pairs a a.mem_all b b.mem_all hab).2
  exact convert_eq_some_iff.mpr ⟨hab.symm, Affine.apply_apply_of_comp hid x⟩

theorem convert_strictMono {x x' y y' : ℚ} {a b : MeasureUnit} (h : convert x a b = some y)
    (h' : convert x' a b = some y') (hlt : x < x') : y < y' := by
  obtain ⟨hab, rfl⟩ := convert_eq_some_iff.mp h
  obtain ⟨-, rfl⟩ := convert_eq_some_iff.mp h'
  exact Affine.strictMono_apply (toUnit_pairs a a.mem_all b b.mem_all hab).1 hlt

theorem convert_mono {x x' y y' : ℚ} {a b : MeasureUnit} (h : convert x a b = some y)
    (h' : convert x' a b = some y') (hle : x ≤ x') : y ≤ y' := by
  rcases hle.lt_or_eq with hlt | rfl
  · exact (convert_strictMono h h' hlt).le
  · rw [h] at h'
    exact (Option.some.inj h').le

theorem convert_triangle {x y z : ℚ} {a b c : MeasureUnit} (h : convert x a b = some y)
    (h' : convert y b c = some z) :
    ∃ w, convert x a c = some w ∧
      (a.quantity = .temperature ∨ a.quantity = .pressure → z = w) ∧
      |z - w| ≤ 1 / 100000 * |w| := by
  obtain ⟨hab, rfl⟩ := convert_eq_some_iff.mp h
  obtain ⟨hbc, rfl⟩ := convert_eq_some_iff.mp h'
  refine ⟨(a.toUnit c).apply x, convert_eq_some (hab.trans hbc) x, ?_⟩
  have htriangle := toUnit_triangles a a.mem_all b b.mem_all hab c c.mem_all hbc
  by_cases hexact : a.quantity = .temperature ∨ a.quantity = .pressure
  · rw [if_pos hexact] at htriangle
    have heq : (b.toUnit c).apply ((a.toUnit b).apply x) = (a.toUnit c).apply x := by
      rw [← Affine.apply_comp, htriangle]
    refine ⟨fun _ => heq, ?_⟩
    rw [heq, sub_self, abs_zero]
    positivity
  · rw [if_neg hexact] at htriangle
    refine ⟨fun h => (hexact h).elim, ?_⟩
    rw [← Affine.apply_comp]
    exact htriangle.abs_sub_le x

/-- A measurement that still has a value is got back by converting again. -/
theorem Measurement.to_to {m : Measurement} {target : MeasureUnit}
    (h : (m.to target).value ≠ none) : (m.to target).to m.unit = m := by
  obtain ⟨value, unit⟩ := m
  cases value with
  | none => exact (h rfl).elim
  | some x =>
    cases hx : convert x unit target with
    | none =>
      rw [Measurement.to] at h
      simp only [hx] at h
      exact (h rfl).elim
    | some y => simp [Measurement.to, hx, convert_reverse hx]

namespace QuantitativeValue

/-- The bounds enclose the value, as far as they are known. -/
def Ordered (q : QuantitativeValue ℚ) : Prop :=
  (∀ low ∈ q.minValue, ∀ v ∈ q.value, low ≤ v) ∧ ∀ v ∈ q.value, ∀ high ∈ q.maxValue, v ≤ high

theorem convert_bind_mono {x y : Option ℚ} {a b : MeasureUnit}
    (h : ∀ u ∈ x, ∀ v ∈ y, u ≤ v) :
    ∀ u ∈ x.bind (fun v => convert v a b), ∀ v ∈ y.bind (fun v => convert v a b), u ≤ v := by
  intro u hu v hv
  obtain ⟨x, hx, hu⟩ := Option.bind_eq_some_iff.mp hu
  obtain ⟨y, hy, hv⟩ := Option.bind_eq_some_iff.mp hv
  exact convert_mono hu hv (h x hx y hy)

theorem isSome_bind_convert {x : Option ℚ} {a b : MeasureUnit} (h : a.quantity = b.quantity) :
    (x.bind fun v => convert v a b).isSome = x.isSome := by
  cases x with
  | none => rfl
  | some v => exact convert_isSome_iff.mpr h

end QuantitativeValue

/-- Which conversions exist, that they are increasing and undone by their reverse, that
bounds stay bounds, and how far two in a row are from one. -/
theorem convert_coherent :
    (∀ a b x y, (convert x a b).isSome = (convert y a b).isSome) ∧
      Equivalence (fun a b => ∀ x, (convert x a b).isSome = true) ∧
      (∀ a b x y, convert x a b = some y → convert y b a = some x) ∧
      (∀ a b x x' y y', convert x a b = some y → convert x' a b = some y' → x < x' → y < y') ∧
      (∀ (q : QuantitativeValue ℚ) target, q.Ordered → (q.convertedTo target).Ordered) ∧
      (∀ (q : QuantitativeValue ℚ) target, (∀ x, (convert x q.unit target).isSome = true) →
        (q.convertedTo target).minValue.isSome = q.minValue.isSome ∧
          (q.convertedTo target).value.isSome = q.value.isSome ∧
          (q.convertedTo target).maxValue.isSome = q.maxValue.isSome) ∧
      ∀ a b c x y z, convert x a b = some y → convert y b c = some z →
        ∃ w, convert x a c = some w ∧
          (a.quantity = .temperature ∨ a.quantity = .pressure → z = w) ∧
          |z - w| ≤ 1 / 100000 * |w| := by
  have hsupported (a b : MeasureUnit) :
      (∀ x, (convert x a b).isSome = true) ↔ a.quantity = b.quantity :=
    ⟨fun h => convert_isSome_iff.mp (h 0), fun h _ => convert_isSome_iff.mpr h⟩
  refine ⟨fun a b x y => ?_, ?_, fun _ _ _ _ => convert_reverse,
    fun _ _ _ _ _ _ => convert_strictMono, ?_, ?_, fun _ _ _ _ _ _ => convert_triangle⟩
  · rw [Bool.eq_iff_iff, convert_isSome_iff, convert_isSome_iff]
  · simp only [hsupported]
    exact ⟨fun _ => rfl, fun h => h.symm, fun h h' => h.trans h'⟩
  · intro q target h
    exact ⟨QuantitativeValue.convert_bind_mono h.1, QuantitativeValue.convert_bind_mono h.2⟩
  · intro q target h
    rw [hsupported] at h
    exact ⟨QuantitativeValue.isSome_bind_convert h, QuantitativeValue.isSome_bind_convert h,
      QuantitativeValue.isSome_bind_convert h⟩

end NwsCpp
