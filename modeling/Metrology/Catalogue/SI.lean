import Metrology.Catalogue.Dimensions
import Metrology.Quantity

/-!
# SI units

The SI units, the units accepted for use with them and some plain numbers, after NIST SP 811.
Every unit is a quantity in terms of the SI base units, and a `Constant` is what a catalogue gives a
name to.
-/

namespace Metrology

/-! ## Values in a catalogue -/

/-- A value with a name. -/
inductive Constant where
  | quantity (q : Quantity)
  | real (x : Float)
  | whole (n : Int)
  | dimension (d : Dimension)
  | text (s : String)
  | list (items : List Constant)

/-- The quantity that a constant stands for: a number stands for a plain one. -/
def Constant.toQuantity? : Constant → Option Quantity
  | .quantity q => some q
  | .real x => some ⟨1, x⟩
  | _ => none

namespace SI

/-! ## Units that others are defined from -/

/-- The ratio of the circumference of a circle to its diameter. -/
def pi : Float := 3.141592653589793

def meter : Quantity := ⟨.length, 1⟩

def kilogram : Quantity := ⟨.mass, 1⟩

def second : Quantity := ⟨.timeInterval, 1⟩

def ampere : Quantity := ⟨.electricCurrent, 1⟩

def kelvin : Quantity := ⟨.thermodynamicTemperature, 1⟩

def mole : Quantity := ⟨.amountOfSubstance, 1⟩

def candela : Quantity := ⟨.luminousIntensity, 1⟩

def gram : Quantity := kilogram.overNumber 1000

def newton : Quantity := meter * kilogram / second.square

def pascal : Quantity := newton / meter.square

def joule : Quantity := newton * meter

def watt : Quantity := joule / second

def coulomb : Quantity := second * ampere

def volt : Quantity := watt / ampere

def farad : Quantity := coulomb / volt

def ohm : Quantity := volt / ampere

def siemens : Quantity := ampere / volt

def weber : Quantity := volt * second

def tesla : Quantity := weber / meter.square

def henry : Quantity := weber / ampere

/-- The degree Celsius, as a difference of temperatures. -/
def degreeCelsius : Quantity := kelvin

def lumen : Quantity := candela.scale 1

def lux : Quantity := lumen / meter / meter

def becquerel : Quantity := Quantity.numberOver 1 second

def gray : Quantity := joule / kilogram

def sievert : Quantity := joule / kilogram

def hertz : Quantity := Quantity.numberOver 1 second

def day : Quantity := second.scale 86400

/-- The degree of a plane angle, in radians. -/
def degreeAngle : Float := pi / 180

def hour : Quantity := second.scale 3600

def liter : Quantity := meter.cube.scale 1e-3

def minute : Quantity := second.scale 60

def tonMetric : Quantity := kilogram.scale 1e3

end SI

namespace Catalogue

open SI

/-- The SI units and the units used with them. -/
def siUnits : List (String × Constant) := [
  ("PI", .real pi),
  ("PERCENT", .real (1 / 100)),
  ("NUMBER", .quantity .one),
  ("METER", .quantity meter),
  ("KILOGRAM", .quantity kilogram),
  ("SECOND", .quantity second),
  ("AMPERE", .quantity ampere),
  ("KELVIN", .quantity kelvin),
  ("MOLE", .quantity mole),
  ("CANDELA", .quantity candela),
  ("GRAM", .quantity gram),
  ("RADIAN", .real 1),
  ("STERADIAN", .real 1),
  ("NEWTON", .quantity newton),
  ("PASCAL", .quantity pascal),
  ("JOULE", .quantity joule),
  ("WATT", .quantity watt),
  ("COULOMB", .quantity coulomb),
  ("VOLT", .quantity volt),
  ("FARAD", .quantity farad),
  ("OHM", .quantity ohm),
  ("SIEMENS", .quantity siemens),
  ("WEBER", .quantity weber),
  ("TESLA", .quantity tesla),
  ("HENRY", .quantity henry),
  ("DEGREE_CELSIUS", .quantity degreeCelsius),
  ("LUMEN", .quantity lumen),
  ("LUX", .quantity lux),
  ("BECQUEREL", .quantity becquerel),
  ("GRAY", .quantity gray),
  ("SIEVERT", .quantity sievert),
  ("HERTZ", .quantity hertz),
  ("ANGSTROM", .quantity (meter.scale 1e-10)),
  ("ARE", .quantity (meter.square.scale 1e2)),
  ("BAR", .quantity (pascal.scale 1e5)),
  ("BARN", .quantity (meter.square.scale 1e-28)),
  ("CURIE", .quantity (becquerel.scale 3.7e10)),
  ("DAY", .quantity day),
  ("DEGREE_ANGLE", .real degreeAngle),
  ("GAL", .quantity (meter.scale 1e-2 / second.square)),
  ("HECTARE", .quantity (meter.square.scale 1e4)),
  ("HOUR", .quantity hour),
  ("KNOT", .quantity (meter.scale (1852 / 3600) / second)),
  ("LITER", .quantity liter),
  ("MINUTE", .quantity minute),
  ("MINUTE_ANGLE", .real (pi / 10800)),
  ("MILE_NAUTICAL", .quantity (meter.scale 1852)),
  ("RAD", .quantity (gray.scale 1e-2)),
  ("REM", .quantity (sievert.scale 1e-2)),
  ("ROENTGEN", .quantity (coulomb.scale 2.58e-4 / kilogram)),
  ("SECOND_ANGLE", .real (pi / 648000)),
  ("TON_METRIC", .quantity tonMetric),
  ("MICRON", .quantity (meter.scale 1e-6)),
  ("METRE", .quantity meter),
  ("LITRE", .quantity liter),
  ("TONNE", .quantity tonMetric),
  ("EXTRA_UNITS", .list ((List.range Dimension.extensionCount).map fun slot =>
    .quantity ⟨.extension slot, 1⟩))]

end Catalogue

end Metrology
