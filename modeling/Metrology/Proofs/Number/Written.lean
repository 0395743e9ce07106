import Metrology.Proofs.Number.Numeral

/-!
# Whole numbers as they are written

The numerals that whole numbers are written as: with a sign in every case behind a label
(`Whole.Numeral.signed`), and with a sign before negative ones in the exponent of a decimal number
(`Literal.Exponent.written`).  The one behind a label denotes the number that it is written for
(`Whole.Numeral.value_signed`).
-/

namespace Metrology

namespace Whole

theorem ofDigits_toDigits (n : Nat) : ofDigits (Nat.toDigits 10 n) = n :=
  Nat.ofDigitChars_ten_toDigits

theorem all_isDigit_toDigits (n : Nat) : (Nat.toDigits 10 n).all Char.isDigit = true :=
  List.all_eq_true.2 fun _ => Nat.isDigit_of_mem_toDigits (by decide) (by decide)

theorem length_toDigits_le {n : Int} (h : isWritable n = true) :
    (Nat.toDigits 10 n.natAbs).length ≤ digitLimit := by
  have positive : 0 < digitLimit := by decide
  unfold isWritable writableBound at h
  -- The power of ten with so many digits must not be computed.
  generalize digitLimit = limit at h positive ⊢
  rw [Nat.length_toDigits_le_iff (by decide) positive]
  exact of_decide_eq_true h

/-- The numeral of a whole number with a sign before its digits. -/
def Numeral.signed (n : Int) (h : isWritable n = true) : Numeral where
  sign := some (if n < 0 then .minus else .plus)
  digits := Nat.toDigits 10 n.natAbs
  digits_ne_nil := Nat.toDigits_ne_nil
  all_isDigit := all_isDigit_toDigits _
  length_le := length_toDigits_le h

theorem Numeral.value_signed (n : Int) (h : isWritable n = true) : (signed n h).value = n := by
  unfold value signed
  dsimp only
  rw [ofDigits_toDigits]
  split_ifs with negative minus minus
  · omega
  · exact absurd rfl minus
  · cases minus
  · omega

/-- The numeral of a natural number, with or without a sign. -/
def Numeral.ofNat (sign : Option Literal.Sign) (n : Nat) (h : isWritable n = true) : Numeral where
  sign := sign
  digits := Nat.toDigits 10 n
  digits_ne_nil := Nat.toDigits_ne_nil
  all_isDigit := all_isDigit_toDigits _
  length_le := length_toDigits_le h

theorem Numeral.value_ofNat (sign : Option Literal.Sign) (n : Nat) (h : isWritable n = true) :
    (ofNat sign n h).value = if sign = some .minus then -(n : Int) else n := by
  unfold value ofNat
  dsimp only
  rw [ofDigits_toDigits]

end Whole

namespace Literal.Exponent

/-- The exponent of a decimal number that a whole number is written as. -/
def written (n : Int) : Exponent where
  mark := 'e'
  sign := if n < 0 then some .minus else none
  digits := Nat.toDigits 10 n.natAbs
  isExponentMark_mark := rfl
  digits_ne_nil := Nat.toDigits_ne_nil
  all_isDigit := Whole.all_isDigit_toDigits _

end Literal.Exponent

end Metrology
