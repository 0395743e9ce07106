/-!
# Exact values of doubles

Every finite double is a signed fraction.  This file gives the fraction, the rounding of a
fraction to a whole number, and the conversions between doubles and whole numbers that the
library uses.
-/

namespace Metrology

/-- The exact value of a double.  A finite one is `± numerator / denominator`. -/
inductive ExactValue where
  | nan
  | infinite (negative : Bool)
  | finite (negative : Bool) (numerator denominator : Nat)
deriving DecidableEq, Repr

namespace ExactValue

/-- The fraction `mantissa * 2 ^ exponent`. -/
def ofBinary (negative : Bool) (mantissa : Nat) : Int → ExactValue
  | .ofNat e => .finite negative (mantissa * Nat.pow 2 e) 1
  | .negSucc e => .finite negative mantissa (Nat.pow 2 (e + 1))

def ofFloat (x : Float) : ExactValue :=
  match x.toModel.unpack with
  | .notANumber => .nan
  | .infinity sign => .infinite (sign == .negative)
  | .zero sign => .finite (sign == .negative) 0 1
  | .finite sign mantissa exponent _ => ofBinary (sign == .negative) mantissa exponent

end ExactValue

/-- The fraction `n / d` rounded to the nearest whole number, a half to the even neighbour. -/
def roundDiv (n d : Nat) : Nat :=
  let q := n / d
  match compare (2 * (n % d)) d with
  | .lt => q
  | .eq => q + q % 2
  | .gt => q + 1

namespace Binary64

/-- The whole part of a finite double. -/
def truncate? (x : Float) : Option Int :=
  match ExactValue.ofFloat x with
  | .finite negative n d =>
    let whole : Int := (n / d : Nat)
    some (if negative then -whole else whole)
  | _ => none

/-- The nearest whole number to a double that is not negative, halves going up.  Other doubles
stay as they are. -/
def roundHalfUp (x : Float) : Float :=
  match ExactValue.ofFloat x with
  | .finite false n d => Float.ofNat ((2 * n + d) / (2 * d))
  | _ => x

/-- The double nearest to a whole number, unless that is an infinity. -/
def ofWhole? (n : Int) : Option Float :=
  let x := Float.ofInt n
  if x.isFinite then some x else none

/-- The double nearest to `± m * 10 ^ e`. -/
def ofDecimal (negative : Bool) (m : Nat) (e : Int) : Float :=
  let x := Float.ofScientific m (e < 0) e.natAbs
  if negative then -x else x

/-- Whether the sign bit is set. -/
def isNegative (x : Float) : Bool :=
  match ExactValue.ofFloat x with
  | .nan => false
  | .infinite negative => negative
  | .finite negative _ _ => negative

/-- The absolute value of `x` under the sign of `y`. -/
def copySign (x y : Float) : Float :=
  if isNegative y then -x.abs else x.abs

end Binary64

end Metrology
