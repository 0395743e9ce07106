import Metrology.Number.Decimal

/-!
# Doubles in text

Three texts of a double: `general p` with at most `p` significant digits, `fixed p` with exactly
`p` decimal places, and `shortest` with the fewest digits that read back.  All of them round the
exact value of the double.  A `Layout` decides between positional and scientific notation.
-/

namespace Metrology

/-- How significant digits are laid out. -/
structure Layout where
  /-- The least exponent written positionally. -/
  least : Int
  /-- The least exponent above the positional ones. -/
  bound : Int
  /-- Whether a whole number written positionally ends in `.0`. -/
  marksWhole : Bool

namespace Layout

/-- Reports and displays: numbers of up to `p` whole digits are positional. -/
def general (p : Nat) : Layout :=
  { least := -4, bound := p, marksWhole := false }

/-- Numbers in traces and casts: positional below `10 ^ 16`, always with a point or an
exponent. -/
def shortest : Layout :=
  { least := -4, bound := 16, marksWhole := true }

/-- The digits without the zeros at their end. -/
def stripZeros (ds : List Char) : List Char :=
  (ds.reverse.dropWhile (· == '0')).reverse

/-- The exponent of scientific notation: a sign and two digits or more. -/
def exponentText (e : Int) : List Char :=
  let ds := Decimal.digits e.natAbs
  (if e < 0 then '-' else '+') :: (List.replicate (2 - ds.length) '0' ++ ds)

/-- A point before the digits of the fraction, or nothing. -/
def fractionText (ds : List Char) : List Char :=
  if ds.isEmpty then [] else '.' :: ds

/-- The digits `d₀ d₁ …` of `d₀.d₁… * 10 ^ exponent`, laid out without zeros at their end. -/
def render (l : Layout) (ds : List Char) (exponent : Int) : List Char :=
  let kept := match stripZeros ds with
    | [] => ['0']
    | ds => ds
  if exponent < l.least ∨ l.bound ≤ exponent then
    kept.take 1 ++ fractionText (kept.drop 1) ++ 'e' :: exponentText exponent
  else if exponent < 0 then
    '0' :: '.' :: (List.replicate (exponent.natAbs - 1) '0' ++ kept)
  else
    let whole := exponent.toNat + 1
    let fraction := kept.drop whole
    kept.take whole ++ List.replicate (whole - kept.length) '0' ++
      fractionText (if fraction.isEmpty && l.marksWhole then ['0'] else fraction)

end Layout

namespace Binary64

/-- The text of a double, given the text of its absolute value `n / d`.  The sign of a NaN is
not shown. -/
def textWith (magnitude : Nat → Nat → List Char) (x : Float) : String :=
  match ExactValue.ofFloat x with
  | .nan => "nan"
  | .infinite negative => if negative then "-inf" else "inf"
  | .finite negative n d =>
    String.ofList (if negative then '-' :: magnitude n d else magnitude n d)

/-- No double has more significant decimal digits. -/
def exactDigits : Nat := 767

/-- At most `p` significant digits, without zeros at the end of the fraction. -/
def general (p : Nat) (x : Float) : String :=
  x |> textWith fun n d =>
    if n = 0 then (Layout.general p).render ['0'] 0
    else
      let m := Decimal.significant (min (max p 1) exactDigits) n d
      (Layout.general (max p 1)).render (Decimal.digits m.mantissa) m.exponent

/-- Exactly `p` decimal places. -/
def fixed (p : Nat) (x : Float) : String :=
  x |> textWith fun n d =>
    let ds := Decimal.digits (Decimal.places p n d)
    let padded := List.replicate (p + 1 - ds.length) '0' ++ ds
    let whole := padded.length - p
    padded.take whole ++ Layout.fractionText (padded.drop whole)

/-- The fewest digits that read back. -/
def shortest (x : Float) : String :=
  x |> textWith fun n d =>
    if n = 0 then Layout.shortest.render ['0'] 0
    else
      let m := Decimal.shortest x.abs n d
      Layout.shortest.render (Decimal.digits m.mantissa) m.exponent

end Binary64

end Metrology
