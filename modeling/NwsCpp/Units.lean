import NwsCpp.Bytes

/-! Units of measurement and the conversions between them, over exact rationals. -/

namespace NwsCpp

open Bytes

inductive MeasureUnit where
  | degC
  | degF
  | kelvin
  | kmH
  | mS
  | knot
  | miH
  | meter
  | kilometer
  | mile
  | pascal
  | millibar
  | millimeter
  | inch
  | centimeter
  | degreeAngle
  | percent
  | unknown
  deriving DecidableEq

namespace MeasureUnit

def all : List MeasureUnit :=
  [degC, degF, kelvin, kmH, mS, knot, miH, meter, kilometer, mile, pascal, millibar, millimeter,
    inch, centimeter, degreeAngle, percent, unknown]

theorem mem_all (u : MeasureUnit) : u ∈ all := by cases u <;> decide

def unitMap : List (Text × MeasureUnit) :=
  [(ascii "wmoUnit:degC", degC), (ascii "wmoUnit:degF", degF), (ascii "wmoUnit:K", kelvin),
    (ascii "wmoUnit:km_h-1", kmH), (ascii "wmoUnit:m_s-1", mS), (ascii "wmoUnit:kt", knot),
    (ascii "wmoUnit:mi_h-1", miH), (ascii "wmoUnit:m", meter), (ascii "wmoUnit:km", kilometer),
    (ascii "unit:mi", mile), (ascii "wmoUnit:Pa", pascal), (ascii "wmoUnit:mbar", millibar),
    (ascii "wmoUnit:hPa", millibar), (ascii "wmoUnit:mm", millimeter), (ascii "unit:in", inch),
    (ascii "wmoUnit:cm", centimeter), (ascii "wmoUnit:degree_(angle)", degreeAngle),
    (ascii "wmoUnit:percent", percent)]

def parseUnitCode (unitCode : Text) : MeasureUnit := (unitMap.lookup unitCode).getD unknown

end MeasureUnit

section Helpers

variable (x : ℚ)

def celsiusToFahrenheit : ℚ := x * 9.0 / 5.0 + 32.0

def fahrenheitToCelsius : ℚ := (x - 32.0) * 5.0 / 9.0

def kmhToMph : ℚ := x * 0.621371

def mphToKmh : ℚ := x / 0.621371

def msToMph : ℚ := x * 2.23694

def mphToMs : ℚ := x / 2.23694

def msToKmh : ℚ := x * 3.6

def knotsToMph : ℚ := x * 1.15078

def mphToKnots : ℚ := x / 1.15078

def pascalToMillibar : ℚ := x / 100.0

def millibarToPascal : ℚ := x * 100.0

def mmToInches : ℚ := x / 25.4

def inchesToMm : ℚ := x * 25.4

def metersToMiles : ℚ := x / 1609.344

def kmToMiles : ℚ := x * 0.621371

end Helpers

open MeasureUnit in
/-- `none` where no conversion is listed. -/
def convert (value : ℚ) (source target : MeasureUnit) : Option ℚ :=
  if source = target then some value
  -- Temperature
  else if source = degC ∧ target = degF then some (celsiusToFahrenheit value)
  else if source = degF ∧ target = degC then some (fahrenheitToCelsius value)
  else if source = kelvin ∧ target = degC then some (value - 273.15)
  else if source = degC ∧ target = kelvin then some (value + 273.15)
  else if source = kelvin ∧ target = degF then some (celsiusToFahrenheit (value - 273.15))
  else if source = degF ∧ target = kelvin then some (fahrenheitToCelsius value + 273.15)
  -- Speed
  else if source = kmH ∧ target = miH then some (kmhToMph value)
  else if source = miH ∧ target = kmH then some (mphToKmh value)
  else if source = mS ∧ target = miH then some (msToMph value)
  else if source = miH ∧ target = mS then some (mphToMs value)
  else if source = mS ∧ target = kmH then some (msToKmh value)
  else if source = kmH ∧ target = mS then some (value / 3.6)
  else if source = knot ∧ target = miH then some (knotsToMph value)
  else if source = miH ∧ target = knot then some (mphToKnots value)
  else if source = knot ∧ target = kmH then some (value * 1.852)
  else if source = kmH ∧ target = knot then some (value / 1.852)
  else if source = knot ∧ target = mS then some (value * 0.514444)
  else if source = mS ∧ target = knot then some (value / 0.514444)
  -- Pressure
  else if source = pascal ∧ target = millibar then some (pascalToMillibar value)
  else if source = millibar ∧ target = pascal then some (millibarToPascal value)
  -- Length
  else if source = millimeter ∧ target = inch then some (mmToInches value)
  else if source = inch ∧ target = millimeter then some (inchesToMm value)
  else if source = meter ∧ target = mile then some (metersToMiles value)
  else if source = mile ∧ target = meter then some (value * 1609.344)
  else if source = kilometer ∧ target = mile then some (kmToMiles value)
  else if source = mile ∧ target = kilometer then some (value / 0.621371)
  else if source = meter ∧ target = kilometer then some (value / 1000.0)
  else if source = kilometer ∧ target = meter then some (value * 1000.0)
  else if source = centimeter ∧ target = inch then some (value / 2.54)
  else if source = inch ∧ target = centimeter then some (value * 2.54)
  else if source = centimeter ∧ target = millimeter then some (value * 10.0)
  else if source = millimeter ∧ target = centimeter then some (value / 10.0)
  else none

structure Measurement where
  value : Option ℚ
  unit : MeasureUnit := .unknown

def Measurement.to (m : Measurement) (target : MeasureUnit) : Measurement :=
  match m.value with
  | none => { value := none, unit := target }
  | some value =>
    match convert value m.unit target with
    | some result => { value := some result, unit := target }
    | none => { value := none, unit := target }

/-- `D` stands for `double`. -/
structure QuantitativeValue (D : Type*) where
  value : Option D := none
  unitCode : Text := []
  unit : MeasureUnit := .unknown
  maxValue : Option D := none
  minValue : Option D := none
  qualityControl : Option Text := none

def QuantitativeValue.convertedTo (q : QuantitativeValue ℚ) (target : MeasureUnit) :
    QuantitativeValue ℚ :=
  { q with
    unit := target
    value := q.value.bind fun v => convert v q.unit target
    minValue := q.minValue.bind fun v => convert v q.unit target
    maxValue := q.maxValue.bind fun v => convert v q.unit target }

end NwsCpp
