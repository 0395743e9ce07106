import Metrology.Dimension

/-!
# Named dimensions

The base dimensions and the derived dimensions of NIST SP 811, and the table of all their names.
-/

namespace Metrology

namespace Dimension

def length : Dimension := single 0

def mass : Dimension := single 1

def timeInterval : Dimension := single 2

def electricCurrent : Dimension := single 3

def thermodynamicTemperature : Dimension := single 4

def amountOfSubstance : Dimension := single 5

def luminousIntensity : Dimension := single 6

def frequency : Dimension := ofList [0, 0, -1]

def force : Dimension := ofList [1, 1, -2]

def pressure : Dimension := ofList [-1, 1, -2]

def energy : Dimension := ofList [2, 1, -2]

def power : Dimension := ofList [2, 1, -3]

def electricCharge : Dimension := ofList [0, 0, 1, 1]

def electricPotential : Dimension := ofList [2, 1, -3, -1]

def capacitance : Dimension := ofList [-2, -1, 4, 2]

def electricResistance : Dimension := ofList [2, 1, -3, -2]

def electricConductance : Dimension := ofList [-2, -1, 3, 2]

def magneticFlux : Dimension := ofList [2, 1, -2, -1]

def magneticFluxDensity : Dimension := ofList [0, 1, -2, -1]

def inductance : Dimension := ofList [2, 1, -2, -2]

def luminousFlux : Dimension := ofList [0, 0, 0, 0, 0, 0, 1]

def illuminance : Dimension := ofList [-2, 0, 0, 0, 0, 0, 1]

def activityOfANuclide : Dimension := ofList [0, 0, -1]

def doseEquivalent : Dimension := ofList [2, 0, -2]

end Dimension

namespace Catalogue

/-- The named dimensions. -/
def dimensions : List (String × Dimension) := [
  ("DIMENSIONLESS", 1),
  ("LENGTH", .length),
  ("MASS", .mass),
  ("TIME_INTERVAL", .timeInterval),
  ("ELECTRIC_CURRENT", .electricCurrent),
  ("THERMODYNAMIC_TEMPERATURE", .thermodynamicTemperature),
  ("AMOUNT_OF_SUBSTANCE", .amountOfSubstance),
  ("LUMINOUS_INTENSITY", .luminousIntensity),
  ("ABSORBED_DOSE", .ofList [2, 0, -2]),
  ("ABSORBED_DOSE_RATE", .ofList [2, 0, -3]),
  ("ACCELERATION", .ofList [1, 0, -2]),
  ("ACTIVITY_OF_A_NUCLIDE", .activityOfANuclide),
  ("ANGULAR_VELOCITY", .ofList [0, 0, -1]),
  ("ANGULAR_ACCELERATION", .ofList [0, 0, -2]),
  ("AREA", .ofList [2]),
  ("CAPACITANCE", .capacitance),
  ("CONCENTRATION", .ofList [-3, 0, 0, 0, 0, 1]),
  ("CURRENT_DENSITY", .ofList [-2, 0, 0, 1]),
  ("DOSE_EQUIVALENT", .doseEquivalent),
  ("DYNAMIC_VISCOSITY", .ofList [-1, 1, -1]),
  ("ELECTRIC_CHARGE", .electricCharge),
  ("ELECTRIC_CHARGE_DENSITY", .ofList [-3, 0, 1, 1]),
  ("ELECTRIC_CONDUCTANCE", .electricConductance),
  ("ELECTRIC_FIELD_STRENGTH", .ofList [1, 1, -3, -1]),
  ("ELECTRIC_FLUX_DENSITY", .ofList [-2, 0, 1, 1]),
  ("ELECTRIC_POTENTIAL", .electricPotential),
  ("ELECTRIC_RESISTANCE", .electricResistance),
  ("ENERGY", .energy),
  ("ENERGY_DENSITY", .ofList [-1, 1, -2]),
  ("EXPOSURE", .ofList [0, -1, 1, 1]),
  ("FORCE", .force),
  ("FREQUENCY", .frequency),
  ("HEAT_CAPACITY", .ofList [2, 1, -2, 0, -1]),
  ("HEAT_DENSITY", .ofList [0, 1, -2]),
  ("HEAT_DENSITY_FLOW_RATE", .ofList [0, 1, -3]),
  ("HEAT_FLOW_RATE", .ofList [2, 1, -3]),
  ("HEAT_FLUX_DENSITY", .ofList [0, 1, -3]),
  ("HEAT_TRANSFER_COEFFICIENT", .ofList [0, 1, -3, 0, -1]),
  ("ILLUMINANCE", .illuminance),
  ("INDUCTANCE", .inductance),
  ("IRRADIANCE", .ofList [0, 1, -3]),
  ("KINEMATIC_VISCOSITY", .ofList [2, 0, -1]),
  ("LUMINANCE", .ofList [-2, 0, 0, 0, 0, 0, 1]),
  ("LUMINOUS_FLUX", .luminousFlux),
  ("MAGNETIC_FIELD_STRENGTH", .ofList [-1, 0, 0, 1]),
  ("MAGNETIC_FLUX", .magneticFlux),
  ("MAGNETIC_FLUX_DENSITY", .magneticFluxDensity),
  ("MAGNETIC_PERMEABILITY", .ofList [1, 1, -2, -2]),
  ("MASS_DENSITY", .ofList [-3, 1]),
  ("MASS_FLOW_RATE", .ofList [0, 1, -1]),
  ("MOLAR_ENERGY", .ofList [2, 1, -2, 0, 0, -1]),
  ("MOLAR_ENTROPY", .ofList [2, 1, -2, -1, 0, -1]),
  ("MOMENT_OF_FORCE", .ofList [2, 1, -2]),
  ("PERMITTIVITY", .ofList [-3, -1, 4, 2]),
  ("POWER", .power),
  ("PRESSURE", .pressure),
  ("RADIANCE", .ofList [0, 1, -3]),
  ("RADIANT_INTENSITY", .ofList [2, 1, -3]),
  ("SPEED", .ofList [1, 0, -1]),
  ("SPECIFIC_ENERGY", .ofList [2, 0, -2]),
  ("SPECIFIC_HEAT_CAPACITY", .ofList [2, 0, -2, 0, -1]),
  ("SPECIFIC_VOLUME", .ofList [3, -1]),
  ("SUBSTANCE_PERMEABILITY", .ofList [-1, 0, 1]),
  ("SURFACE_TENSION", .ofList [0, 1, -2]),
  ("THERMAL_CONDUCTIVITY", .ofList [1, 1, -3, 0, -1]),
  ("THERMAL_DIFFUSIVITY", .ofList [2, 0, -1]),
  ("THERMAL_INSULANCE", .ofList [0, -1, 3, 0, 1]),
  ("THERMAL_RESISTANCE", .ofList [-2, -1, 3, 0, 1]),
  ("THERMAL_RESISTIVITY", .ofList [-1, -1, 3, 0, 1]),
  ("TORQUE", .ofList [2, 1, -2]),
  ("VOLUME", .ofList [3]),
  ("VOLUME_FLOW_RATE", .ofList [3, 0, -1]),
  ("WAVE_NUMBER", .ofList [-1])]

end Catalogue

end Metrology
