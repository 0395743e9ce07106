import Metrology.Catalogue.OtherUnits
import Metrology.Catalogue.PhysicalConstants
import Metrology.Prefix

/-!
# The catalogue

All values that the library gives a name to, by the part of the catalogue that they are in, and
the quantities among them.
-/

namespace Metrology

namespace Catalogue

/-- The numbers and lists of the dimensions, and the named dimensions. -/
def dimensionConstants : List (String × Constant) :=
  [("BASE_COUNT", .whole Dimension.baseCount),
   ("EXTENSION_COUNT", .whole Dimension.extensionCount),
   ("DIMENSION_SIZE", .whole Dimension.size),
   ("EXTRA_DIMENSIONS", .list ((List.range Dimension.extensionCount).map fun slot =>
      .dimension (.extension slot)))] ++
  dimensions.map fun entry => (entry.1, .dimension entry.2)

/-- The prefixes and the glyphs of engineering notation. -/
def prefixConstants : List (String × Constant) :=
  (Prefix.metric ++ Prefix.powersOf1024).map (fun entry => (entry.1, .real entry.2)) ++
  [("ENG_EXPONENT_MIN", .whole Prefix.leastGlyphExponent),
   ("ENG_EXPONENT_MAX", .whole Prefix.greatestGlyphExponent),
   ("ENG_PREFIX_GLYPHS", .list (Prefix.glyphs.map .text))]

/-- The value of a name in a part of the catalogue. -/
def lookup? (part : List (String × Constant)) (name : String) : Option Constant :=
  (part.find? fun entry => entry.1 = name).map Prod.snd

/-- The quantity of a name: units come first, then other units, then physical constants. -/
def quantity? (name : String) : Option Quantity :=
  (lookup? (siUnits ++ otherUnits ++ physicalConstants) name).bind Constant.toQuantity?

def dimension? (name : String) : Option Dimension :=
  (dimensions.find? fun entry => entry.1 = name).map Prod.snd

end Catalogue

end Metrology
