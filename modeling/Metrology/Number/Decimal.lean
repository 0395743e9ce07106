import Metrology.Number.Binary64

/-!
# Decimal digits of fractions

The significant decimal digits of a positive fraction: `significant p n d` rounds `n / d` to `p`
digits, and `shortest` finds the fewest digits from which a double is read back.
-/

namespace Metrology.Decimal

/-- The decimal digits of `n`, the most significant first. -/
def digits (n : Nat) : List Char :=
  Nat.toDigits 10 n

/-- The greatest `k` with `10 ^ k ≤ n / d`, for a positive fraction. -/
def exponent (n d : Nat) : Int :=
  if d ≤ n then (digits (n / d)).length - 1
  else -((digits ((d + n - 1) / n - 1)).length : Int)

/-- The numerator and the denominator of `n / d / 10 ^ k`. -/
def shifted (n d : Nat) : Int → Nat × Nat
  | .ofNat k => (n, d * Nat.pow 10 k)
  | .negSucc k => (n * Nat.pow 10 (k + 1), d)

/-- Significant digits `m` and an exponent: the number `m * 10 ^ (exponent - digits + 1)`, where
`digits` is the number of digits of `m`. -/
structure Numeral where
  mantissa : Nat
  exponent : Int
deriving DecidableEq, Repr

/-- The fraction `n / d` rounded to `p` significant digits. -/
def significant (p n d : Nat) : Numeral :=
  let k := exponent n d
  let (a, b) := shifted n d (k - p + 1)
  let m := roundDiv a b
  if m = Nat.pow 10 p then ⟨Nat.pow 10 (p - 1), k + 1⟩ else ⟨m, k⟩

/-- The fraction `n / d` rounded to `places` decimal places, in units of the last place. -/
def places (places n d : Nat) : Nat :=
  roundDiv (n * Nat.pow 10 places) d

/-! ## The shortest digits that read back -/

/-- The neighbours of `n / d` among the numbers of `p` significant digits, the nearer one first
and the even one first if both are as near. -/
def neighbours (p n d : Nat) : List Numeral :=
  let k := exponent n d
  let (a, b) := shifted n d (k - p + 1)
  let below := ⟨a / b, k⟩
  let above :=
    if a / b + 1 = Nat.pow 10 p then ⟨Nat.pow 10 (p - 1), k + 1⟩ else ⟨a / b + 1, k⟩
  if roundDiv a b = a / b then [below, above] else [above, below]

/-- Whether the numeral of `p` digits is read as the double `x`. -/
def readsBack (x : Float) (p : Nat) (m : Numeral) : Bool :=
  Binary64.ofDecimal false m.mantissa (m.exponent - p + 1) == x

/-- The most digits that a double needs to be read back. -/
def digitBound : Nat := 17

/-- The fewest digits that are read as the positive double `x = n / d`, and of those the digits
nearest to it.  Counts from `p` digits on are tried, `fuel` of them. -/
def shortestFrom (x : Float) (n d p : Nat) : Nat → Numeral
  | 0 => significant digitBound n d
  | fuel + 1 =>
    match (neighbours p n d).find? (readsBack x p) with
    | some m => m
    | none => shortestFrom x n d (p + 1) fuel

/-- The fewest digits that are read as the positive double `x = n / d`. -/
def shortest (x : Float) (n d : Nat) : Numeral :=
  shortestFrom x n d 1 digitBound

end Metrology.Decimal
