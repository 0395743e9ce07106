import Metrology.Quantity

/-!
# Arithmetic on operands of several kinds

Quantities meet plain numbers in products, quotients and powers.  An `Operand` is a quantity, a
number, or a value of another kind, and each operator says which kinds it takes.
-/

namespace Metrology

/-- A plain number: whole, of any size, or a double. -/
inductive Scalar where
  | whole (n : Int)
  | real (x : Float)
deriving DecidableEq

/-- The double nearest to a number; none is near to a whole number beyond their range. -/
def Scalar.toFloat : Scalar → Except Error Float
  | .whole n => match Binary64.ofWhole? n with
    | some x => .ok x
    | none => .error .wholeTooLarge
  | .real x => .ok x

/-- A quantity from a dimension, which may be missing, and a number. -/
def Quantity.make (dimension : Option Dimension) (value : Scalar) : Except Error Quantity :=
  match dimension with
  | none => .error .unsupported
  | some d => value.toFloat.map fun x => ⟨d, x⟩

/-- What stands at either side of an operator. -/
inductive Operand where
  | quantity (q : Quantity)
  | scalar (x : Scalar)
  /-- Neither a quantity nor a number. -/
  | other
deriving DecidableEq

namespace Operand

def add (operator : String := "operator+") : Operand → Operand → Except Error Quantity
  | .quantity a, .quantity b => a.add b operator
  | _, _ => .error .unsupported

def sub (operator : String := "operator-") : Operand → Operand → Except Error Quantity
  | .quantity a, .quantity b => a.sub b operator
  | _, _ => .error .unsupported

/-- The product of two quantities, or of a quantity and a number. -/
def mul : Operand → Operand → Except Error Quantity
  | .quantity a, .quantity b => .ok (a * b)
  | .quantity a, .scalar x => x.toFloat.map fun x => ⟨a.dimension, a.value * x⟩
  | .scalar x, .quantity b => x.toFloat.map fun x => b.scale x
  | _, _ => .error .unsupported

/-- The quotient of two quantities, or of a quantity and a number in either order. -/
def div : Operand → Operand → Except Error Quantity
  | .quantity a, .quantity b => .ok (a / b)
  | .quantity a, .scalar x => x.toFloat.map fun x => a.overNumber x
  | .scalar x, .quantity b => x.toFloat.map fun x => Quantity.numberOver x b
  | _, _ => .error .unsupported

/-- The whole number that an operand is, if it is one. -/
def whole? : Operand → Option Int
  | .scalar (.whole n) => some n
  | _ => none

/-- The power of a quantity to a whole order. -/
def power : Operand → Operand → Except Error Quantity
  | .quantity q, n => match n.whole? with
    | some n => .ok (q.power n)
    | none => .error (.order .powerNotWhole)
  | _, _ => .error .unsupported

/-- The root of a quantity of a whole order. -/
def root : Operand → Operand → Except Error Quantity
  | .quantity q, n => match n.whole? with
    | some n => q.root n
    | none => .error (.order .rootNotWhole)
  | _, _ => .error .unsupported

/-- Comparison of two quantities.  A value of another kind is different from every quantity, and
in no order with it. -/
def compare (c : Quantity.Comparison) : Operand → Operand → Except Error Bool
  | .quantity a, .quantity b => Quantity.compare c a b
  | _, _ => match c with
    | .eq => .ok false
    | .ne => .ok true
    | _ => .error .unsupported

end Operand

end Metrology
