import Metrology.Catalogue.SI

/-!
# Units outside SI

Units outside SI, with the conversion factors of NIST SP 811.
-/

namespace Metrology.Catalogue

open SI

/-- The British thermal unit of the International Table. -/
def britishThermalUnit : Quantity := joule.scale 1.055056e3

/-- The units outside SI. -/
def otherUnits : List (String × Constant) := [
  ("ABAMPERE", .quantity (ampere.scale 1e1)),
  ("ABCOULOMB", .quantity (coulomb.scale 1e1)),
  ("ABFARAD", .quantity (farad.scale 1e9)),
  ("ABHENRY", .quantity (henry.scale 1e-9)),
  ("ABMHO", .quantity (siemens.scale 1e9)),
  ("ABOHM", .quantity (ohm.scale 1e-9)),
  ("ABVOLT", .quantity (volt.scale 1e-8)),
  ("ACRE", .quantity (meter.square.scale 4.046873e3)),
  ("ACRE_FOOT", .quantity (meter.cube.scale 1.233489e3)),
  ("ASTRONOMICAL_UNIT", .quantity (meter.scale 1.495979e11)),
  ("ATMOSPHERE_STD", .quantity (pascal.scale 1.01325e5)),
  ("ATMOSPHERE_TECH", .quantity (pascal.scale 9.80665e4)),
  ("BARREL", .quantity (meter.cube.scale 1.589873e-1)),
  ("BIOT", .quantity (ampere.scale 1e1)),
  ("BTU", .quantity (joule.scale 1.05587e3)),
  ("BTU_IT", .quantity britishThermalUnit),
  ("BTU_TH", .quantity (joule.scale 1.054350e3)),
  ("BUSHEL", .quantity (meter.cube.scale 3.523907e-2)),
  ("CALORIE", .quantity (joule.scale 4.19002)),
  ("CALORIE_IT", .quantity (joule.scale 4.1868)),
  ("CALORIE_TH", .quantity (joule.scale 4.184)),
  ("CARAT_METRIC", .quantity (kilogram.scale 2e-4)),
  ("CHAIN", .quantity (meter.scale 2.011684e1)),
  ("CLO", .quantity (meter.square.scale 1.55e-1 * kelvin / watt)),
  ("CM_MERCURY", .quantity (pascal.scale 1.333224e3)),
  ("CORD", .quantity (meter.cube.scale 3.624556)),
  ("CUP", .quantity (meter.cube.scale 2.365882e-4)),
  ("DARCY", .quantity (meter.square.scale 9.869233e-13)),
  ("DAY_SIDEREAL", .quantity (second.scale 8.616409e4)),
  ("DEBYE", .quantity (coulomb.scale 3.335641e-30 * meter)),
  ("DEGREE_FAHRENHEIT", .quantity (kelvin.scale 5.555556e-1)),
  ("DEGREE_RANKINE", .quantity (kelvin.scale 5.555556e-1)),
  ("DENIER", .quantity (kilogram.scale 1.111111e-7 / meter)),
  ("DYNE", .quantity (newton.scale 1e-5)),
  ("ERG", .quantity (joule.scale 1e-7)),
  ("FARADAY", .quantity (coulomb.scale 9.648531e4)),
  ("FATHOM", .quantity (meter.scale 1.828804)),
  ("FERMI", .quantity (meter.scale 1e-15)),
  ("FOOT", .quantity (meter.scale 3.048e-1)),
  ("FOOT_POUND_FORCE", .quantity (joule.scale 1.355818)),
  ("FOOT_POUNDAL", .quantity (joule.scale 4.214011e-2)),
  ("FOOT_US_SURVEY", .quantity (meter.scale 3.048006e-1)),
  ("FOOTCANDLE", .quantity (lux.scale 1.076391e1)),
  ("FOOTLAMBERT", .quantity (candela.scale 3.426259 / meter.square)),
  ("FORTNIGHT", .quantity (day.scale 14)),
  ("FRANKLIN", .quantity (coulomb.scale 3.335641e-10)),
  ("FURLONG", .quantity (meter.scale 2.01168e2)),
  ("GALLON_IMPERIAL", .quantity (meter.cube.scale 4.54609e-3)),
  ("GALLON_US", .quantity (meter.cube.scale 3.785412e-3)),
  ("GAMMA", .quantity (tesla.scale 1e-9)),
  ("GAMMA_MASS", .quantity (kilogram.scale 1e-9)),
  ("GAUSS", .quantity (tesla.scale 1e-4)),
  ("GILBERT", .quantity (ampere.scale 7.957747e-1)),
  ("GON", .real (9e-1 * degreeAngle)),
  ("GRAIN", .quantity (kilogram.scale 6.479891e-5)),
  ("HORSEPOWER", .quantity (watt.scale 7.456999e2)),
  ("HORSEPOWER_BOILER", .quantity (watt.scale 9.80950e3)),
  ("HORSEPOWER_ELECTRIC", .quantity (watt.scale 7.46e2)),
  ("HORSEPOWER_METRIC", .quantity (watt.scale 7.354988e2)),
  ("HOUR_SIDEREAL", .quantity (second.scale 3.590170e3)),
  ("HUNDREDWEIGHT_LONG", .quantity (kilogram.scale 5.080235e1)),
  ("HUNDREDWEIGHT_SHORT", .quantity (kilogram.scale 4.535924e1)),
  ("INCH", .quantity (meter.scale 2.54e-2)),
  ("INCHES_MERCURY", .quantity (pascal.scale 3.386389e3)),
  ("KAYSER", .quantity (Quantity.numberOver 1e2 meter)),
  ("KILOGRAM_FORCE", .quantity (newton.scale 9.80665)),
  ("KIP", .quantity (newton.scale 4.448222e3)),
  ("LAMBERT", .quantity (candela.scale 3.183099e3 / meter.square)),
  ("LANGLEY", .quantity (joule.scale 4.184e4 / meter.square)),
  ("LIGHT_YEAR", .quantity (meter.scale 9.46073e15)),
  ("MAXWELL", .quantity (weber.scale 1e-8)),
  ("MHO", .quantity siemens),
  ("MIL", .quantity (meter.scale 2.54e-5)),
  ("MILE", .quantity (meter.scale 1.609344e3)),
  ("MILE_US_SURVEY", .quantity (meter.scale 1.609347e3)),
  ("OERSTED", .quantity (ampere.scale 7.957747e1 / meter)),
  ("OUNCE_AVDP", .quantity (kilogram.scale 2.834952e-2)),
  ("OUNCE_FLUID_US", .quantity (meter.cube.scale 2.957353e-5)),
  ("OUNCE_FORCE", .quantity (newton.scale 2.780139e-1)),
  ("OUNCE_TROY", .quantity (kilogram.scale 3.110348e-2)),
  ("PARSEC", .quantity (meter.scale 3.085678e16)),
  ("PINT_LIQUID", .quantity (meter.cube.scale 4.731765e-4)),
  ("POISE", .quantity (pascal.scale 1e-1 * second)),
  ("POUND_AVDP", .quantity (kilogram.scale 4.5359237e-1)),
  ("POUND_FORCE", .quantity (newton.scale 4.448222)),
  ("POUNDAL", .quantity (newton.scale 1.382550e-1)),
  ("PSI", .quantity (pascal.scale 6.894757e3)),
  ("QUAD", .quantity (britishThermalUnit.scale 1e15)),
  ("QUART_LIQUID", .quantity (meter.cube.scale 9.463529e-4)),
  ("REVOLUTION", .real (2 * pi)),
  ("RPM", .quantity (Quantity.numberOver 1.047198e-1 second)),
  ("SHAKE", .quantity (second.scale 1e-8)),
  ("SLUG", .quantity (kilogram.scale 1.459390e1)),
  ("STATAMPERE", .quantity (ampere.scale 3.335641e-10)),
  ("STATCOULOMB", .quantity (coulomb.scale 3.335641e-10)),
  ("STATVOLT", .quantity (volt.scale 2.997925e2)),
  ("STERE", .quantity meter.cube),
  ("STOKES", .quantity (meter.square.scale 1e-4 / second)),
  ("TABLESPOON", .quantity (meter.cube.scale 1.478676e-5)),
  ("TEASPOON", .quantity (meter.cube.scale 4.928922e-6)),
  ("TEX", .quantity (kilogram.scale 1e-6 / meter)),
  ("THERM_US", .quantity (joule.scale 1.054804e8)),
  ("TON_FORCE", .quantity (newton.scale 8.896443e3)),
  ("TON_LONG", .quantity (kilogram.scale 1.016047e3)),
  ("TON_REFRIGERATION", .quantity (watt.scale 3.516853e3)),
  ("TON_SHORT", .quantity (kilogram.scale 9.071847e2)),
  ("TON_TNT", .quantity (joule.scale 4.184e9)),
  ("TORR", .quantity (pascal.scale 1.333224e2)),
  ("WEEK", .quantity (second.scale 604800)),
  ("YARD", .quantity (meter.scale 9.144e-1)),
  ("YEAR_SIDEREAL", .quantity (second.scale 3.155815e7)),
  ("YEAR_STD", .quantity (second.scale 3.1536e7)),
  ("YEAR_TROPICAL", .quantity (second.scale 3.155693e7))]

end Metrology.Catalogue
