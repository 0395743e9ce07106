import Metrology.Text.Alphanumeric
import Metrology.Text.Blank

/-!
# Whole numbers in text

The decimal text of whole numbers and the reading of signed digit strings.  Texts of more than
`digitLimit` digits are neither written nor read; leading zeros count.
-/

namespace Metrology.Whole

/-- The most digits a whole number has in text. -/
def digitLimit : Nat := 4300

/-- The least natural number with too many digits. -/
def writableBound : Nat := Nat.pow 10 digitLimit

/-- Whether the digits of `n` fit into a text. -/
def isWritable (n : Int) : Bool :=
  n.natAbs < writableBound

/-- The number that a string of decimal digits denotes. -/
def ofDigits (ds : List Char) : Nat :=
  ds.foldl (fun n d => 10 * n + (d.toNat - '0'.toNat)) 0

/-- Reads a string of decimal digits, at least one and at most `digitLimit`. -/
def ofDigits? (ds : List Char) : Option Nat :=
  if ds ≠ [] ∧ ds.all Char.isDigit ∧ ds.length ≤ digitLimit then some (ofDigits ds) else none

/-- Reads decimal digits with an optional sign before them. -/
def read? : List Char → Option Int
  | '+' :: ds => (ofDigits? ds).map fun n => (n : Int)
  | '-' :: ds => (ofDigits? ds).map fun n => -(n : Int)
  | ds => (ofDigits? ds).map fun n => (n : Int)

/-! ## Whole numbers typed by hand -/

/-- Decimal digits of any script, with single underscores between them.  The digits are
spelled with the ten of ASCII. -/
def plainDigits? : List Char → Option (List Char)
  | [] => none
  | c :: s =>
    (Text.decimalDigitValue? c).bind fun d =>
      match s with
      | [] => some [Nat.digitChar d]
      | '_' :: s => (plainDigits? s).map (Nat.digitChar d :: ·)
      | s => (plainDigits? s).map (Nat.digitChar d :: ·)

/-- The blanks that may stand around a number: all but the separators of ASCII. -/
def isBlankAround (c : Char) : Bool :=
  Text.isBlank c && !('\x1c' ≤ c && c ≤ '\x1f')

/-- Reads a whole number with blanks around it, an optional sign, and decimal digits of any
script that may be grouped by underscores. -/
def readTyped? (s : List Char) : Option Int :=
  match Text.trimWhere isBlankAround s with
  | '+' :: ds => (plainDigits? ds).bind fun ds => (ofDigits? ds).map fun n => (n : Int)
  | '-' :: ds => (plainDigits? ds).bind fun ds => (ofDigits? ds).map fun n => -(n : Int)
  | ds => (plainDigits? ds).bind fun ds => (ofDigits? ds).map fun n => (n : Int)

end Metrology.Whole
