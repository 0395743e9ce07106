import Metrology.Catalogue.SI
import Metrology.Log
import Metrology.Prefix
import Metrology.Text.Quoted

/-!
# The unit registry

A registry knows the predefined units, hands out the extension slots to new units in the order of
their first request, and keeps a display name for some dimensions: the last name written wins.
`Registry.unit` looks a unit up and may define it; `Registry.symbol` displays a dimension, by its
name or as a product of powers of the slots.
-/

namespace Metrology

/-- The units that every registry knows, by the names they have in unit expressions. -/
def predefinedUnits : List (String × Quantity) := [
  ("m", SI.meter),
  ("kg", SI.kilogram),
  ("s", SI.second),
  ("A", SI.ampere),
  ("K", SI.kelvin),
  ("mol", SI.mole),
  ("cd", SI.candela),
  ("g", SI.gram),
  ("Hz", SI.hertz),
  ("N", SI.newton),
  ("Pa", SI.pascal),
  ("J", SI.joule),
  ("W", SI.watt),
  ("C", SI.coulomb),
  ("V", SI.volt),
  ("F", SI.farad),
  ("Ohm", SI.ohm),
  ("S", SI.siemens),
  ("Wb", SI.weber),
  ("T", SI.tesla),
  ("H", SI.henry),
  ("'C", SI.degreeCelsius),
  ("lm", SI.lumen),
  ("lx", SI.lux),
  ("Bq", SI.becquerel),
  ("Gy", SI.gray),
  ("Sv", SI.sievert),
  ("d", SI.day),
  ("min", SI.minute),
  ("h", SI.hour),
  ("l", SI.liter)]

/-- The display names that every registry starts with.  Where dimensions coincide, the first name
counts. -/
def predefinedNames : List (Dimension × String) := [
  (.length, "m"),
  (.mass, "kg"),
  (.timeInterval, "s"),
  (.electricCurrent, "A"),
  (.thermodynamicTemperature, "K"),
  (.amountOfSubstance, "mol"),
  (.luminousIntensity, "cd"),
  (.frequency, "Hz"),
  (.force, "N"),
  (.pressure, "Pa"),
  (.energy, "J"),
  (.power, "W"),
  (.electricCharge, "C"),
  (.electricPotential, "V"),
  (.capacitance, "F"),
  (.electricResistance, "Ohm"),
  (.electricConductance, "S"),
  (.magneticFlux, "Wb"),
  (.magneticFluxDensity, "T"),
  (.inductance, "H"),
  (.luminousFlux, "lm"),
  (.illuminance, "lx"),
  (.activityOfANuclide, "Bq"),
  (.doseEquivalent, "Sv"),
  (.length / .timeInterval, "m/s"),
  (.electricPotential / .timeInterval, "V/s")] ++
  (List.range Dimension.extensionCount).map fun slot => (.extension slot, s!"x{slot}")

/-- Units and display names. -/
structure Registry where
  /-- The names of the extension units, in the order of their slots. -/
  extensions : List String := []
  /-- The slots of the extension units by their names, the last one defined first. -/
  index : List (String × Nat) := []
  /-- The display names, the last one written first. -/
  names : List (Dimension × String) := predefinedNames
deriving DecidableEq

namespace Registry

instance : Inhabited Registry := ⟨{}⟩

def capacity : Nat := Dimension.extensionCount

/-- The registry without extension units and without names of its own. -/
def reset (_ : Registry) : Registry := {}

/-! ## Units -/

def predefined? (name : String) : Option Quantity :=
  (predefinedUnits.find? fun entry => entry.1 = name).map Prod.snd

def slot? (r : Registry) (name : String) : Option Nat :=
  (r.index.find? fun entry => entry.1 = name).map Prod.snd

/-- The unit in an extension slot. -/
def extensionUnit (slot : Nat) : Quantity := ⟨.extension slot, 1⟩

/-- The unit that a name has so far. -/
def find? (r : Registry) (name : String) : Option Quantity :=
  match predefined? name with
  | some q => some q
  | none => (r.slot? name).map extensionUnit

def hasUnit (r : Registry) (name : String) : Bool := (r.find? name).isSome

/-- The registry with a new unit in the next slot, which is displayed by its name. -/
def define (r : Registry) (name : String) : Registry where
  extensions := r.extensions ++ [name]
  index := (name, r.extensions.length) :: r.index
  names := (.extension r.extensions.length, name) :: r.names

/-- What a request for a unit answers, and what it leaves behind. -/
structure Answer where
  result : Except UnitFault Quantity
  registry : Registry
  log : List Log.Record := []

/-- The record of a new extension unit. -/
def definedRecord (name : String) (slot : Nat) : Log.Record :=
  ⟨.info, .registry, s!"defined extension unit {Text.quoted name} in slot x{slot}"⟩

/-- The record of a unit that the full table has no slot for. -/
def tableFullRecord (name : String) : Log.Record :=
  ⟨.warning, .registry, s!"extension table full, cannot define unit {Text.quoted name}"⟩

/-- The unit of a name.  With `extend`, a name that has none gets the next slot. -/
def unit (r : Registry) (name : String) (extend : Bool := false) : Answer :=
  match r.find? name with
  | some q => { result := .ok q, registry := r }
  | none =>
    if !extend || name.isEmpty then { result := .error (.undefined name), registry := r }
    else if r.extensions.length < capacity then
      let slot := r.extensions.length
      { result := .ok (extensionUnit slot)
        registry := r.define name
        log := [definedRecord name slot] }
    else
      { result := .error (.tableFull name)
        registry := r
        log := [tableFullRecord name] }

/-! ## Prefixes -/

def prefixFactor (code : String) : Except Error Float :=
  match Prefix.factor? code with
  | some x => .ok x
  | none => .error (.unknownPrefix code)

/-! ## Display names -/

def defineName (r : Registry) (d : Dimension) (name : String) : Registry :=
  { r with names := (d, name) :: r.names }

def name? (r : Registry) (d : Dimension) : Option String :=
  (r.names.find? fun entry => entry.1 = d).map Prod.snd

/-- Whether a dimension has a display name. -/
def hasName (r : Registry) (d : Dimension) : Bool := (r.name? d).isSome

/-- The display name of a dimension, empty if it has none. -/
def nameOf (r : Registry) (d : Dimension) : String := (r.name? d).getD ""

/-- A label with an exponent other than zero: one is left out, and a positive one has a sign. -/
def symbolTerm (label : String) (n : Int) : String :=
  if n = 1 then label else if 1 < n then s!"{label}+{n}" else s!"{label}{n}"

/-- The term of a slot: its label with the exponent that a dimension has there. -/
def slotTerm (r : Registry) (d : Dimension) (i : Fin Dimension.size) : Except TextFault String :=
  match r.name? (.single i) with
  | none => .error (.unnamed (.single i))
  | some label =>
    if Whole.isWritable (d.exponent i) then .ok (symbolTerm label (d.exponent i))
    else .error .tooManyDigits

/-- The product of powers that a dimension is: a term for each exponent that is not zero, with
blanks between them. -/
def baseSymbol (r : Registry) (d : Dimension) : Except TextFault String :=
  (d.slots.mapM (r.slotTerm d)).map (" ".intercalate ·)

/-- The symbol of a dimension: its display name if it has one and that is preferred, or else its
product of powers. -/
def symbol (r : Registry) (d : Dimension) (preferName : Bool := false) : Except TextFault String :=
  match if preferName then r.name? d else none with
  | some name => .ok name
  | none => r.baseSymbol d

end Registry

end Metrology
