/-!
# Prefixes

Metric and binary prefixes with their factors, the codes that prefixes have in unit expressions,
and the glyphs of engineering notation.
-/

namespace Metrology

namespace Prefix

/-! ## Factors -/

/-- The factor of a prefix that raises to the power `n` of 1024. -/
def binary (n : Nat) : Float := Float.ofNat (Nat.pow 1024 n)

/-- The metric prefixes, the least first. -/
def metric : List (String × Float) := [
  ("YOCTO", 1e-24),
  ("ZEPTO", 1e-21),
  ("ATTO", 1e-18),
  ("FEMTO", 1e-15),
  ("PICO", 1e-12),
  ("NANO", 1e-9),
  ("MICRO", 1e-6),
  ("MILLI", 1e-3),
  ("CENTI", 1e-2),
  ("DECI", 1e-1),
  ("DECA", 1e1),
  ("DEKA", 1e1),
  ("HECTO", 1e2),
  ("KILO", 1e3),
  ("MEGA", 1e6),
  ("GIGA", 1e9),
  ("TERA", 1e12),
  ("PETA", 1e15),
  ("EXA", 1e18),
  ("ZETTA", 1e21),
  ("YOTTA", 1e24)]

/-- The binary prefixes, the least first. -/
def powersOf1024 : List (String × Float) := [
  ("KIBI", binary 1),
  ("MEBI", binary 2),
  ("GIBI", binary 3),
  ("TEBI", binary 4),
  ("PEBI", binary 5),
  ("EXBI", binary 6),
  ("ZEBI", binary 7),
  ("YOBI", binary 8)]

/-! ## Codes -/

/-- The code of ten, the one code of two letters. -/
def dekaCode : String := "da"

/-- The factors of the one-letter codes; `u` stands for micro. -/
def letterFactor? : Char → Option Float
  | 'y' => some 1e-24
  | 'z' => some 1e-21
  | 'a' => some 1e-18
  | 'f' => some 1e-15
  | 'p' => some 1e-12
  | 'n' => some 1e-9
  | 'u' => some 1e-6
  | 'm' => some 1e-3
  | 'c' => some 1e-2
  | 'd' => some 1e-1
  | 'h' => some 1e2
  | 'k' => some 1e3
  | 'M' => some 1e6
  | 'G' => some 1e9
  | 'T' => some 1e12
  | 'P' => some 1e15
  | 'E' => some 1e18
  | 'Z' => some 1e21
  | 'Y' => some 1e24
  | _ => none

def deka : Float := 1e1

def factor? (code : String) : Option Float :=
  match code.toList with
  | [c] => letterFactor? c
  | [c, d] => if c = 'd' ∧ d = 'a' then some deka else none
  | _ => none

def letters : List Char :=
  ['y', 'z', 'a', 'f', 'p', 'n', 'u', 'm', 'c', 'd', 'h', 'k', 'M', 'G', 'T', 'P', 'E', 'Z', 'Y']

def codes : List String :=
  dekaCode :: letters.map Char.toString

/-! ## Glyphs -/

/-- The least exponent of engineering notation that has a glyph. -/
def leastGlyphExponent : Int := -24

/-- The greatest exponent of engineering notation that has a glyph. -/
def greatestGlyphExponent : Int := 24

/-- The glyphs of the exponents -24, -21 up to 24. -/
def glyphs : List String :=
  ["y", "z", "a", "f", "p", "n", "µ", "m", "", "k", "M", "G", "T", "P", "E", "Z", "Y"]

/-- The glyph of a multiple of three from -24 to 24, with the glyph `micro` for -6. -/
def glyph (micro : String) (exponent : Int) : String :=
  if exponent = -6 then micro else glyphs.getD ((exponent - leastGlyphExponent) / 3).toNat ""

end Prefix

end Metrology
