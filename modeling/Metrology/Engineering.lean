import Metrology.Display

/-!
# Engineering notation

A magnitude in engineering notation is a mantissa from one up to a thousand and an exponent that
is a multiple of three.  The exponent is shown as the glyph of a metric prefix where the unit
takes one, and as `e<exponent>` otherwise.  Masses take none, because the kilogram has a prefix
already.
-/

namespace Metrology

namespace Engineering

/-! ## Scaling by powers of ten -/

/-- The greatest power of ten applied in one step. -/
def stepExponent : Nat := 300

/-- The double that stands for `10 ^ n`: the nearest one, but the one above for two powers that
lie all but midway between two doubles. -/
def powerOfTen (n : Nat) : Float :=
  let x := Float.ofScientific 1 false n
  if n = 23 ∨ n = 210 then Float.ofBits (x.toBits + 1) else x

/-- The product `x * 10 ^ n`, in steps. -/
def scaleUp (x : Float) (n : Nat) : Float :=
  if n ≤ stepExponent then x * powerOfTen n
  else scaleUp (x * powerOfTen stepExponent) (n - stepExponent)
termination_by n
decreasing_by simp only [stepExponent] at *; omega

/-- The quotient `x / 10 ^ n`, in steps. -/
def scaleDown (x : Float) (n : Nat) : Float :=
  if n ≤ stepExponent then x / powerOfTen n
  else scaleDown (x / powerOfTen stepExponent) (n - stepExponent)
termination_by n
decreasing_by simp only [stepExponent] at *; omega

/-- The product `x * 10 ^ n`: a negative power divides, which keeps small results exact. -/
def shift (x : Float) : Int → Float
  | .ofNat n => scaleUp x n
  | .negSucc n => scaleDown x (n + 1)

/-- Whether the fraction `n / d` below one is within `2 ^ -40` of it. -/
def isNearOne (n d : Nat) : Bool := (d - n) * Nat.pow 2 40 ≤ d

/-- The decimal exponent of a positive double.  A double just below a power of ten has the
exponent of that power if its logarithm is rounded up to it. -/
def exponent (x : Float) : Int :=
  match ExactValue.ofFloat x with
  | .finite _ n d =>
    let k := Decimal.exponent n d
    let (a, b) := Decimal.shifted n d (k + 1)
    if isNearOne a b && Float.ofInt (k + 1) ≤ x.log10 then k + 1 else k
  | _ => 0

/-- A positive double rounded to `digits` significant digits, and its decimal exponent. -/
def round (digits : Nat) (x : Float) : Float × Int :=
  let e := exponent x
  (shift (Binary64.roundHalfUp (shift x (digits - 1 - e))) (e - digits + 1), e)

/-- A double in engineering notation: `mantissa * 10 ^ exponent`. -/
structure Scaled where
  mantissa : Float
  exponent : Int

/-- The greatest multiple of three up to `n`. -/
def alignedExponent (n : Int) : Int := 3 * (n / 3)

/-- A finite double that is not negative, rounded to `digits` significant digits and brought to an
exponent that is a multiple of three. -/
def Scaled.ofFloat (digits : Nat) (x : Float) : Scaled :=
  let (x, e) := if 0 < x then round digits x else (x, 0)
  let e := alignedExponent e
  let m := shift x (-e)
  if 1000 ≤ m then ⟨m / 1000, e + 3⟩ else ⟨m, e⟩

/-- The whole digits of a mantissa below a thousand after the first one. -/
def Scaled.extraWholeDigits (s : Scaled) : Nat :=
  if 1000 ≤ s.mantissa then 0
  else if 100 ≤ s.mantissa then 2
  else if 10 ≤ s.mantissa then 1
  else 0

/-! ## Formats -/

/-- How engineering notation is written. -/
structure Format where
  digits : Nat := 6
  /-- Whether a plus sign stands before a magnitude that is not negative. -/
  showsPlus : Bool := false
  micro : String := "µ"
  /-- Whether zeros at the end of the fraction stay. -/
  fixed : Bool := false
  digits_pos : 0 < digits := by decide

instance : Inhabited Format := ⟨{}⟩

/-- The format with a number of digits that may be too small. -/
def Format.withDigits (f : Format) (digits : Int) : Except Error Format :=
  if h : 1 ≤ digits then
    .ok { f with digits := digits.toNat, digits_pos := by omega }
  else .error .digitsNotPositive

/-- A magnitude and its unit in text. -/
structure Parts where
  magnitude : String
  unit : String
deriving DecidableEq, Repr

/-- The magnitude, a blank and the unit. -/
def Parts.text (p : Parts) : String := joinSymbol p.magnitude p.unit

/-- The most digits after the point, or significant digits, that a text can have. -/
def precisionLimit : Nat := Nat.pow 2 31 - 1

/-- The greatest number of digits that can be asked for. -/
def precisionBound : Nat := Nat.pow 2 63 - 1

/-- Refuses numbers of digits that are too great. -/
def checkPrecision (p : Nat) : Except TextFault Nat :=
  if precisionBound < p then .error .precisionTooLong
  else if precisionLimit < p then .error .precisionTooBig
  else .ok p

namespace Format

/-- The mantissa in text.  A fixed format has as many decimal places as make up the significant
digits, the other one drops the zeros at the end and has three digits or more. -/
def mantissaText (f : Format) (s : Scaled) : Except TextFault String :=
  if f.fixed then
    (checkPrecision (f.digits - s.extraWholeDigits - 1)).map fun p => Binary64.fixed p s.mantissa
  else
    (checkPrecision (max f.digits 3)).map fun p => Binary64.general p s.mantissa

def sign (f : Format) (x : Float) : String :=
  if x < 0 then "-" else if f.showsPlus then "+" else ""

/-- Whether the exponent is shown as the glyph of a prefix before the unit of a dimension. -/
def takesGlyph (r : Registry) (d : Dimension) (exponent : Int) : Bool :=
  d ≠ .mass && r.hasName d &&
    Prefix.leastGlyphExponent ≤ exponent && exponent ≤ Prefix.greatestGlyphExponent

/-- The magnitude and the unit of a quantity in engineering notation. -/
def parts (f : Format) (q : Quantity) (r : Registry) : Except TextFault Parts := do
  let symbol ← q.symbol r
  let sign := f.sign q.value
  let x := if q.value < 0 then -q.value else q.value
  if x.isFinite then
    let s := Scaled.ofFloat f.digits x
    let mantissa ← f.mantissaText s
    if takesGlyph r q.dimension s.exponent then
      return ⟨sign ++ mantissa, Prefix.glyph f.micro s.exponent ++ symbol⟩
    else
      return ⟨s!"{sign}{mantissa}e{s.exponent}", symbol⟩
  else
    return ⟨sign ++ Binary64.general Quantity.displayDigits x, symbol⟩

def text (f : Format) (q : Quantity) (r : Registry) : Except TextFault String :=
  (f.parts q r).map Parts.text

end Format

end Engineering

namespace Quantity

def engineeringMagnitude (q : Quantity) (r : Registry) (f : Engineering.Format := {}) :
    Except TextFault String :=
  (f.parts q r).map Engineering.Parts.magnitude

/-- The unit in engineering notation, with the prefix that six significant digits lead to. -/
def engineeringUnit (q : Quantity) (r : Registry) : Except TextFault String :=
  (Engineering.Format.parts {} q r).map Engineering.Parts.unit

def engineeringText (q : Quantity) (r : Registry) (f : Engineering.Format := {}) :
    Except TextFault String :=
  f.text q r

end Quantity

end Metrology
