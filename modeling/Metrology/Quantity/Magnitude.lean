import Metrology.Number.Binary64

/-!
# Powers and roots of magnitudes

Powers and roots of doubles with whole orders of any size, by a power function on doubles.  No order
is refused: where a result is out of range, or the order is, the answer is an infinity.
-/

namespace Metrology.Magnitude

def infinity : Float := 1 / 0

def nan : Float := 0 / 0

/-- The infinity that stands for a power out of range: an odd power keeps the sign of its
base. -/
def powerLimit (x : Float) (n : Int) : Float :=
  if n % 2 = 0 then infinity else Binary64.copySign infinity x

variable (pow : Float → Float → Float)

/-- The `n`-th power by a power function on doubles.  A finite base whose power is infinite, and an
order that no double is near to, answer with `powerLimit`. -/
def powerBy (x : Float) (n : Int) : Float :=
  match Binary64.ofWhole? n with
  | none => powerLimit x n
  | some y =>
    let z := pow x y
    if x.isFinite && z.isInf then powerLimit x n else z

/-- The `n`-th root by a power function on doubles, of a magnitude that is not negative, and NaN for
a negative one. -/
def rootOfNonnegativeBy (x : Float) (n : Int) : Float :=
  if x < 0 then nan
  else if x == 0 && n < 0 then infinity
  else match Binary64.ofWhole? n with
    | none => infinity
    | some y => pow x (1 / y)

/-- The `n`-th root by a power function on doubles: odd roots keep the sign of a negative magnitude,
and its even roots are NaN. -/
def rootBy (x : Float) (n : Int) : Float :=
  if x < 0 ∧ n % 2 ≠ 0 then -rootOfNonnegativeBy pow (-x) n else rootOfNonnegativeBy pow x n

end Metrology.Magnitude
