import Metrology.Catalogue.SI

/-!
# Physical constants

Physical constants with the values that NIST SP 811 carries, and the short names customary for
some of them.
-/

namespace Metrology.Catalogue

open SI

/-- The standard acceleration of gravity. -/
def standardGravity : Quantity := meter.scale 9.80665 / second.square

/-- The Avogadro constant. -/
def avogadro : Quantity := Quantity.numberOver 6.02214199e23 mole

/-- The electron volt. -/
def electronVolt : Quantity := joule.scale 1.60217733e-19

/-- The elementary charge. -/
def elementaryCharge : Quantity := coulomb.scale 1.602176462e-19

/-- The Planck constant. -/
def planck : Quantity := joule.scale 6.62606876e-34 * second

/-- The speed of light in vacuum. -/
def speedOfLight : Quantity := meter.scale 299792458 / second

/-- The atomic mass unit. -/
def atomicMassUnit : Quantity := kilogram.scale 1.6605402e-27

/-- The magnetic constant. -/
def magneticConstant : Quantity := newton.scale (4e-7 * pi) / ampere.square

/-- The physical constants, then their short names. -/
def physicalConstants : List (String × Constant) := [
  ("STANDARD_GRAVITY", .quantity standardGravity),
  ("AVOGADRO", .quantity avogadro),
  ("ELECTRON_VOLT", .quantity electronVolt),
  ("ELEMENTARY_CHARGE", .quantity elementaryCharge),
  ("PLANCK", .quantity planck),
  ("SPEED_OF_LIGHT", .quantity speedOfLight),
  ("ATOMIC_MASS_UNIT", .quantity atomicMassUnit),
  ("BOLTZMANN", .quantity (joule.scale 1.3806503e-23 / kelvin)),
  ("MOLAR_GAS", .quantity (joule.scale 8.314472 / mole / kelvin)),
  ("MAGNETIC_CONSTANT", .quantity magneticConstant),
  ("ELECTRIC_CONSTANT", .quantity (Quantity.numberOver 1 (magneticConstant * speedOfLight.square))),
  ("g_sub_n", .quantity standardGravity),
  ("N_sub_A", .quantity avogadro),
  ("eV", .quantity electronVolt),
  ("e", .quantity elementaryCharge),
  ("h", .quantity planck),
  ("c", .quantity speedOfLight),
  ("u", .quantity atomicMassUnit)]

end Metrology.Catalogue
