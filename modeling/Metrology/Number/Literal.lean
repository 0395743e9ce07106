import Metrology.Number.Binary64
import Metrology.Number.Whole

/-!
# Real literals

A real literal is scanned by its shape alone, `[sign] {digit | "."} [e [sign] {digit | "."}]`, and
then has a value if it is a decimal numeral: at least one digit, at most one point, and digits
only in the exponent.
-/

namespace Metrology.Literal

def isSign (c : Char) : Bool :=
  c = '+' || c = '-'

/-- The characters of signed digit strings. -/
def isSignedDigit (c : Char) : Bool :=
  c.isDigit || isSign c

/-- The characters of the digits around a decimal point. -/
def isDigitOrPoint (c : Char) : Bool :=
  c.isDigit || c = '.'

/-- The characters that a real literal starts with. -/
def isStart (c : Char) : Bool :=
  c.isDigit || isSign c || c = '.'

/-- The letters before an exponent. -/
def isExponentMark (c : Char) : Bool :=
  c = 'e' || c = 'E'

/-- Splits an optional sign from the text. -/
def splitSign : List Char → List Char × List Char
  | c :: s => if isSign c then ([c], s) else ([], c :: s)
  | [] => ([], [])

/-- Splits the exponent from the text: a mark that a digit or a sign follows, and the signs,
digits and points after it. -/
def splitExponent : List Char → List Char × List Char
  | e :: c :: s =>
    if isExponentMark e && isSignedDigit c then
      let (sign, s) := splitSign (c :: s)
      (e :: (sign ++ s.takeWhile isDigitOrPoint), s.dropWhile isDigitOrPoint)
    else ([], e :: c :: s)
  | s => ([], s)

/-- Splits the longest text of the shape of a real literal from the text. -/
def split (s : List Char) : List Char × List Char :=
  let (sign, s) := splitSign s
  let (exponent, rest) := splitExponent (s.dropWhile isDigitOrPoint)
  (sign ++ s.takeWhile isDigitOrPoint ++ exponent, rest)

/-- The exponent that the text after the digits of a numeral denotes. -/
def exponentValue? : List Char → Option Int
  | [] => some 0
  | e :: s =>
    let (sign, ds) := splitSign s
    if isExponentMark e ∧ ds ≠ [] ∧ ds.all Char.isDigit then
      let n : Int := Whole.ofDigits ds
      some (if sign = ['-'] then -n else n)
    else none

/-- The fraction digits after the whole digits, and what follows them. -/
def splitFraction : List Char → List Char × List Char
  | '.' :: s => (s.takeWhile Char.isDigit, s.dropWhile Char.isDigit)
  | s => ([], s)

/-- The double nearest to the number that a decimal numeral denotes. -/
def value? (s : List Char) : Option Float :=
  let (sign, s) := splitSign s
  let whole := s.takeWhile Char.isDigit
  let (fraction, rest) := splitFraction (s.dropWhile Char.isDigit)
  if whole = [] ∧ fraction = [] then none
  else (exponentValue? rest).map fun e =>
    Binary64.ofDecimal (sign = ['-']) (Whole.ofDigits (whole ++ fraction)) (e - fraction.length)

/-! ## The scan loses nothing -/

theorem splitSign_append (s : List Char) : (splitSign s).1 ++ (splitSign s).2 = s := by
  cases s with
  | nil => rfl
  | cons c s => by_cases h : isSign c <;> simp [splitSign, h]

theorem splitExponent_append (s : List Char) :
    (splitExponent s).1 ++ (splitExponent s).2 = s := by
  fun_cases splitExponent s with
  | case1 e c s h t u hs =>
    have := splitSign_append (c :: s)
    simp only [hs] at this
    simp [List.takeWhile_append_dropWhile, this]
  | case2 => simp
  | case3 => simp

theorem split_append (s : List Char) : (split s).1 ++ (split s).2 = s := by
  simp only [split, List.append_assoc, splitExponent_append, List.takeWhile_append_dropWhile,
    splitSign_append]

end Metrology.Literal
