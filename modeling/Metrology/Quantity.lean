import Metrology.Error
import Metrology.Number.Layout
import Metrology.Quantity.Magnitude

/-!
# Quantities

A quantity is a magnitude in a dimension.  Products and quotients combine the dimensions of their
operands; sums, differences and comparisons want operands of one dimension and fail otherwise,
whatever the magnitudes are.  Powers and roots come by a function on doubles: `power` and `root`
take the library's.
-/

namespace Metrology

/-- A magnitude in SI base units, and its dimension. -/
structure Quantity where
  dimension : Dimension := 1
  value : Float := 0
deriving DecidableEq

namespace Quantity

instance : Inhabited Quantity := ⟨{}⟩

/-- The plain number one. -/
def one : Quantity := ⟨1, 1⟩

/-- The zero of the dimension. -/
def zero (q : Quantity) : Quantity := ⟨q.dimension, 0⟩

/-! ## Operations on one dimension -/

/-- Whether two quantities are of one dimension. -/
def sameDimension (a b : Quantity) : Bool := a.dimension = b.dimension

/-- Fails if the operands of an operator differ in dimension. -/
def checkDimension (a b : Quantity) (operator : String) : Except Error Unit :=
  if a.sameDimension b then .ok () else .error (.ofDimensions operator a.dimension b.dimension)

/-- Joins the magnitudes of two quantities of one dimension. -/
def combine (operator : String) (f : Float → Float → Float) (a b : Quantity) :
    Except Error Quantity :=
  (a.checkDimension b operator).map fun _ => ⟨a.dimension, f a.value b.value⟩

/-- The sum; `operator` names it in an error. -/
def add (a b : Quantity) (operator : String := "operator+") : Except Error Quantity :=
  combine operator (· + ·) a b

/-- The difference; `operator` names it in an error. -/
def sub (a b : Quantity) (operator : String := "operator-") : Except Error Quantity :=
  combine operator (· - ·) a b

/-- The six comparisons. -/
inductive Comparison where
  | eq | ne | lt | le | gt | ge
deriving DecidableEq, Repr

/-- The name of a comparison in an error. -/
def Comparison.operator : Comparison → String
  | .eq => "operator=="
  | .ne => "operator!="
  | .lt => "operator<"
  | .le => "operator<="
  | .gt => "operator>"
  | .ge => "operator>="

/-- Comparisons of magnitudes: a NaN differs from everything and is in no order. -/
def Comparison.holds : Comparison → Float → Float → Bool
  | .eq, x, y => x == y
  | .ne, x, y => x != y
  | .lt, x, y => x < y
  | .le, x, y => x ≤ y
  | .gt, x, y => y < x
  | .ge, x, y => y ≤ x

def compare (c : Comparison) (a b : Quantity) : Except Error Bool :=
  (a.checkDimension b c.operator).map fun _ => c.holds a.value b.value

/-! ## Operations on any dimensions -/

def mul (a b : Quantity) : Quantity := ⟨a.dimension * b.dimension, a.value * b.value⟩

/-- The quotient; a zero divisor gives an infinity or a NaN. -/
def div (a b : Quantity) : Quantity := ⟨a.dimension / b.dimension, a.value / b.value⟩

def scale (x : Float) (q : Quantity) : Quantity := ⟨q.dimension, x * q.value⟩

/-- The quantity divided by a plain number. -/
def overNumber (q : Quantity) (x : Float) : Quantity := ⟨q.dimension, q.value / x⟩

/-- A plain number divided by the quantity. -/
def numberOver (x : Float) (q : Quantity) : Quantity := ⟨q.dimension⁻¹, x / q.value⟩

instance : Mul Quantity := ⟨mul⟩
instance : Div Quantity := ⟨div⟩
instance : HMul Float Quantity Quantity := ⟨scale⟩
instance : HDiv Quantity Float Quantity := ⟨overNumber⟩
instance : HDiv Float Quantity Quantity := ⟨numberOver⟩

def neg (q : Quantity) : Quantity := ⟨q.dimension, -q.value⟩

def abs (q : Quantity) : Quantity := ⟨q.dimension, q.value.abs⟩

def square (q : Quantity) : Quantity := q * q

def cube (q : Quantity) : Quantity := q * q * q

/-- The power of a whole order by a power function on doubles. -/
def powerBy (pow : Float → Float → Float) (q : Quantity) (n : Int) : Quantity :=
  ⟨q.dimension ^ n, Magnitude.powerBy pow q.value n⟩

/-- The root of a whole order by a power function on doubles, if the dimension has one. -/
def rootBy (pow : Float → Float → Float) (q : Quantity) (n : Int) : Except Error Quantity :=
  match q.dimension.root n with
  | .ok d => .ok ⟨d, Magnitude.rootBy pow q.value n⟩
  | .error fault => .error (.order fault)

def power (q : Quantity) (n : Int) : Quantity := q.powerBy Float.pow n

def root (q : Quantity) (n : Int) : Except Error Quantity := q.rootBy Float.pow n

/-- The square root, if the dimension has one. -/
def sqrt (q : Quantity) : Except Error Quantity := q.root 2

/-! ## Plain numbers -/

/-- The kinds of values that a plain number is cast to. -/
inductive Cast where
  | real | whole | text | truth
deriving DecidableEq, Repr

/-- The name of a kind of values in an error. -/
def Cast.name : Cast → String
  | .real => "float"
  | .whole => "int"
  | .text => "str"
  | .truth => "bool"

def magnitude? (q : Quantity) (kind : Cast) : Except Error Float :=
  if q.dimension.isDimensionless then .ok q.value else .error (.castOfQuantity kind.name)

def toReal (q : Quantity) : Except Error Float := q.magnitude? .real

/-- The whole part of a plain number. -/
def toWhole (q : Quantity) : Except Error Int :=
  match q.magnitude? .whole with
  | .error e => .error e
  | .ok x =>
    match Binary64.truncate? x with
    | some n => .ok n
    | none => .error (if x.isNaN then .wholeOfNaN else .wholeOfInfinity)

/-- The shortest text of a plain number. -/
def toText (q : Quantity) : Except Error String := (q.magnitude? .text).map Binary64.shortest

/-- Whether a plain number differs from zero. -/
def toTruth (q : Quantity) : Except Error Bool := (q.magnitude? .truth).map fun x => x != 0

def describe (q : Quantity) : Except TextFault String :=
  if q.dimension.isWritable then
    .ok s!"Quantity(value={Binary64.shortest q.value}, dimension=({q.dimension.text}))"
  else .error .tooManyDigits

end Quantity

end Metrology
