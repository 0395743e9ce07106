import Metrology.Registry

/-!
# Quantities in text

A quantity is displayed as its magnitude with six significant digits and the symbol of its
dimension.
-/

namespace Metrology

/-- A magnitude and a symbol, with a blank between them unless the symbol is empty. -/
def joinSymbol (magnitude symbol : String) : String :=
  if symbol.isEmpty then magnitude else s!"{magnitude} {symbol}"

namespace Quantity

/-- The significant digits of a displayed magnitude. -/
def displayDigits : Nat := 6

def magnitudeText (q : Quantity) : String := Binary64.general displayDigits q.value

/-- The display name of the dimension, or else its product of powers. -/
def symbol (q : Quantity) (r : Registry) : Except TextFault String := r.symbol q.dimension true

/-- The product of powers of the dimension. -/
def baseSymbol (q : Quantity) (r : Registry) : Except TextFault String := r.symbol q.dimension

def text (q : Quantity) (r : Registry) : Except TextFault String :=
  (q.symbol r).map (joinSymbol q.magnitudeText)

end Quantity

end Metrology
