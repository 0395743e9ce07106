import Metrology.Proofs.Engineering.Units
import Metrology.Proofs.Number.Order

/-!
# Rounding to digits

A positive double that is rounded to at most `accurateDigits` digits becomes a whole number of so many
digits in the place of its exponent, to which the scaled doubles are near enough that no digit is lost
(`exists_isRounded`).  The decimal exponent is the one of the value, or one more just below a power of
ten (`exponent_bounds`), where the digits are still rounded up to that power.
-/

open Float.Model (Format UnpackedFloat)
open Float.Model.UnpackedFloat

namespace Metrology.Engineering

open Binary64 hiding one_mul

variable {x : Float} {z : ℚ} {d k n : Nat} {e i : Int}

/-! ## Exponents -/

/-- The exponent of a positive double is that of its value, or the next one just below a power of
ten. -/
theorem exponent_bounds (h : IsPositive x) :
    (10 : ℚ) ^ exponent x * (1 - 1 / 2 ^ 40) ≤ size x.toModel.unpack ∧
      size x.toModel.unpack < 10 ^ (exponent x + 1) := by
  obtain ⟨n, d, fraction, hn, hd, value⟩ := exists_fraction h
  obtain ⟨lower, upper⟩ := Decimal.exponent_spec hn hd
  have shifted := Decimal.shifted_eq n d (Decimal.exponent n d + 1)
  have positive := Decimal.shifted_pos (n := n) hd (Decimal.exponent n d + 1)
  unfold exponent
  rw [fraction]
  dsimp only
  rw [value] at lower upper shifted
  generalize Decimal.shifted n d (Decimal.exponent n d + 1) = fraction at shifted positive ⊢
  obtain ⟨a, b⟩ := fraction
  generalize Decimal.exponent n d = k at *
  generalize size x.toModel.unpack = v at *
  have positive : (0 : ℚ) < b := by exact_mod_cast positive
  dsimp only at shifted ⊢
  split_ifs with next
  · rw [Bool.and_eq_true, isNearOne, decide_eq_true_eq] at next
    have near : (((b - a) * 2 ^ 40 : Nat) : ℚ) ≤ b := by exact_mod_cast next.1
    have difference : (b : ℚ) - a ≤ ((b - a : Nat) : ℚ) := by
      rw [sub_le_iff_le_add]
      exact_mod_cast (by omega : b ≤ b - a + a)
    rw [Nat.cast_mul, Nat.cast_pow, Nat.cast_two] at near
    have below : (b : ℚ) * (1 - 1 / 2 ^ 40) ≤ a := by linarith
    rw [div_eq_iff positive.ne', div_mul_eq_mul_div, eq_div_iff (by positivity)] at shifted
    refine ⟨?_, upper.trans (zpow_lt_zpow_right₀ (by norm_num) (by omega))⟩
    rw [← mul_le_mul_iff_left₀ positive, ← shifted]
    calc (10 : ℚ) ^ (k + 1) * (1 - 1 / 2 ^ 40) * b
        = (b : ℚ) * (1 - 1 / 2 ^ 40) * 10 ^ (k + 1) := by ring
      _ ≤ (a : ℚ) * 10 ^ (k + 1) := mul_le_mul_of_nonneg_right below (by positivity)
  · exact ⟨(mul_le_of_le_one_right (by positivity) (by norm_num)).trans lower, upper⟩

/-! ## Shifts -/

/-- A shift by at most two steps is two products or quotients, each with a power of ten that is itself
one step from what it stands for. -/
theorem scaleUp_approximates (h : Approximates k x z) (hz : IsModerate z)
    (moderate : IsModerate (z * 10 ^ n)) (few : n ≤ 2 * stepExponent) (steps : k + 4 ≤ stepLimit) :
    Approximates (k + 4) (scaleUp x n) (z * 10 ^ n) := by
  by_cases small : n ≤ stepExponent
  · rw [scaleUp, if_pos small]
    exact (h.mul (powerOfTen_approximates small) moderate (by omega)).mono (by omega)
  · have rest : n - stepExponent ≤ stepExponent := by omega
    have split : z * 10 ^ n = z * 10 ^ stepExponent * 10 ^ (n - stepExponent) := by
      rw [mul_assoc, ← pow_add, Nat.add_sub_cancel' (by omega)]
    have between : IsModerate (z * 10 ^ stepExponent) := by
      refine hz.of_between moderate (.inl ?_) (.inr ?_)
      · exact le_mul_of_one_le_right h.near.positive.le (one_le_pow₀ (by norm_num))
      · exact mul_le_mul_of_nonneg_left (pow_le_pow_right₀ (by norm_num) (by omega))
          h.near.positive.le
    rw [scaleUp, if_neg small, scaleUp, if_pos rest, split]
    rw [split] at moderate
    have first := h.mul (powerOfTen_approximates le_rfl) between (by omega)
    exact (first.mul (powerOfTen_approximates rest) moderate (by omega)).mono (by omega)

theorem scaleDown_approximates (h : Approximates k x z) (hz : IsModerate z)
    (moderate : IsModerate (z / 10 ^ n)) (few : n ≤ 2 * stepExponent) (steps : k + 4 ≤ stepLimit) :
    Approximates (k + 4) (scaleDown x n) (z / 10 ^ n) := by
  by_cases small : n ≤ stepExponent
  · rw [scaleDown, if_pos small]
    exact (h.div (powerOfTen_approximates small) moderate (by omega)).mono (by omega)
  · have rest : n - stepExponent ≤ stepExponent := by omega
    have split : z / 10 ^ n = z / 10 ^ stepExponent / 10 ^ (n - stepExponent) := by
      rw [div_div, ← pow_add, Nat.add_sub_cancel' (by omega)]
    have between : IsModerate (z / 10 ^ stepExponent) := by
      refine hz.of_between moderate (.inr ?_) (.inl ?_)
      · exact div_le_div_of_nonneg_left h.near.positive.le (by positivity)
          (pow_le_pow_right₀ (by norm_num) (by omega))
      · exact div_le_self h.near.positive.le (one_le_pow₀ (by norm_num))
    rw [scaleDown, if_neg small, scaleDown, if_pos rest, split]
    rw [split] at moderate
    have first := h.div (powerOfTen_approximates le_rfl) between (by omega)
    exact (first.div (powerOfTen_approximates rest) moderate (by omega)).mono (by omega)

theorem shift_approximates (h : Approximates k x z) (hz : IsModerate z)
    (moderate : IsModerate (z * 10 ^ i)) (few : i.natAbs ≤ 2 * stepExponent)
    (steps : k + 4 ≤ stepLimit) : Approximates (k + 4) (shift x i) (z * 10 ^ i) := by
  cases i with
  | ofNat n =>
    have power : (10 : ℚ) ^ Int.ofNat n = 10 ^ n := zpow_natCast 10 n
    rw [power] at moderate ⊢
    exact scaleUp_approximates h hz moderate few steps
  | negSucc n =>
    have power : z * (10 : ℚ) ^ Int.negSucc n = z / 10 ^ (n + 1) := by
      rw [zpow_negSucc, div_eq_mul_inv]
    rw [power] at moderate ⊢
    exact scaleDown_approximates h hz moderate few steps

/-! ## Places of digits -/

theorem ten_zpow_mul {a b : Int} (sum : a + b = k) : (10 : ℚ) ^ a * 10 ^ b = (10 ^ k : Nat) := by
  rw [← zpow_add₀ (by norm_num), sum, zpow_natCast, Nat.cast_pow]
  rfl

theorem natCast_ten_pow_mul {a b : Int} (sum : k + a = b) :
    ((10 ^ k : Nat) : ℚ) * 10 ^ a = 10 ^ b := by
  rw [Nat.cast_pow, Nat.cast_ofNat, ← zpow_natCast, ← zpow_add₀ (by norm_num), sum]

/-- A number of `d` digits with the first one in the place `e` is from the power of ten of that place
up to the next one. -/
theorem place_bounds (hd : 0 < d) (lower : 10 ^ (d - 1) ≤ n) (upper : n ≤ 10 ^ d) :
    (10 : ℚ) ^ e ≤ n * 10 ^ (e - d + 1) ∧ (n : ℚ) * 10 ^ (e - d + 1) ≤ 10 ^ (e + 1) := by
  have place : (0 : ℚ) < 10 ^ (e - d + 1) := zpow_pos (by norm_num) _
  have first : ((10 ^ (d - 1) : Nat) : ℚ) * 10 ^ (e - d + 1) = 10 ^ e :=
    natCast_ten_pow_mul (by omega)
  have second : ((10 ^ d : Nat) : ℚ) * 10 ^ (e - d + 1) = 10 ^ (e + 1) :=
    natCast_ten_pow_mul (by omega)
  rw [← first, ← second]
  exact ⟨mul_le_mul_of_nonneg_right (by exact_mod_cast lower) place.le,
    mul_le_mul_of_nonneg_right (by exact_mod_cast upper) place.le⟩

theorem abs_sub_mul_of_pos {a b u : ℚ} (positive : 0 < u) : |a - b| * u = |a * u - b * u| := by
  rw [← sub_mul, abs_mul, abs_of_pos positive]

/-- The number in the place of the last digit. -/
def inPlace (d : Nat) (x : Float) : ℚ := size x.toModel.unpack * 10 ^ ((d : Int) - 1 - exponent x)

/-- In the place of the last digit, a double has as many digits as asked for, or is just below. -/
theorem inPlace_bounds (h : IsPositive x) (hd : 0 < d) :
    ((10 ^ (d - 1) : Nat) : ℚ) * (1 - 1 / 2 ^ 40) ≤ inPlace d x ∧
      inPlace d x < (10 ^ d : Nat) := by
  obtain ⟨lower, upper⟩ := exponent_bounds h
  have place : (0 : ℚ) < 10 ^ ((d : Int) - 1 - exponent x) := zpow_pos (by norm_num) _
  have first : (10 : ℚ) ^ exponent x * 10 ^ ((d : Int) - 1 - exponent x) = (10 ^ (d - 1) : Nat) :=
    ten_zpow_mul (by omega)
  have second : (10 : ℚ) ^ (exponent x + 1) * 10 ^ ((d : Int) - 1 - exponent x) =
      (10 ^ d : Nat) := ten_zpow_mul (by omega)
  constructor
  · calc ((10 ^ (d - 1) : Nat) : ℚ) * (1 - 1 / 2 ^ 40)
        = 10 ^ exponent x * (1 - 1 / 2 ^ 40) * 10 ^ ((d : Int) - 1 - exponent x) := by
          rw [← first]; ring
      _ ≤ inPlace d x := mul_le_mul_of_nonneg_right lower place.le
  · rw [← second]
    exact mul_lt_mul_of_pos_right upper place

/-! ## Rounding to whole numbers -/

/-- The most digits for which the accuracy of doubles, and of decimal exponents, is enough. -/
def accurateDigits : Nat := 12

theorem ten_pow_le (few : d ≤ accurateDigits) : 10 ^ d ≤ 10 ^ 12 :=
  Nat.pow_le_pow_right (by decide) few

/-- Rounding a positive double half up to a whole number. -/
theorem exists_roundHalfUp (h : IsPositive x) : ∃ n : Nat, roundHalfUp x = Float.ofNat n ∧
    size x.toModel.unpack - 1 / 2 < n ∧ (n : ℚ) ≤ size x.toModel.unpack + 1 / 2 := by
  obtain ⟨n, d, fraction, hn, hd, value⟩ := exists_fraction h
  have positive : (0 : ℚ) < d := by exact_mod_cast hd
  refine ⟨(2 * n + d) / (2 * d), ?_, ?_, ?_⟩
  · rw [roundHalfUp, fraction]
  · rw [← value, sub_lt_iff_lt_add, div_lt_iff₀ positive]
    have below : 2 * n + d < ((2 * n + d) / (2 * d) + 1) * (2 * d) :=
      Nat.lt_mul_of_div_lt (Nat.lt_succ_self _) (by omega)
    have below : (2 : ℚ) * n + d < (((2 * n + d) / (2 * d) : Nat) + 1) * (2 * d) := by
      exact_mod_cast below
    linarith
  · rw [← value, ← sub_le_iff_le_add, le_div_iff₀ positive]
    have above : (2 * n + d) / (2 * d) * (2 * d) ≤ 2 * n + d := Nat.div_mul_le_self _ _
    have above : (((2 * n + d) / (2 * d) : Nat) : ℚ) * (2 * d) ≤ 2 * n + d := by
      exact_mod_cast above
    linarith

theorem exponent_range (h : IsPositive x) (moderate : IsModerate (size x.toModel.unpack)) :
    -308 ≤ exponent x ∧ exponent x ≤ 308 := by
  obtain ⟨lower, upper⟩ := exponent_bounds h
  constructor
  · have below : (10 : ℚ) ^ (-308 : Int) < 10 ^ (exponent x + 1) := moderate.1.trans_lt upper
    rw [zpow_lt_zpow_iff_right₀ (by norm_num)] at below
    omega
  · have next : (10 : ℚ) ^ (309 : Int) = 10 ^ 308 * 10 := zpow_add_one₀ (by norm_num) 308
    have above : (10 : ℚ) ^ exponent x < 10 ^ (309 : Int) := by
      have positive : (0 : ℚ) < 10 ^ 308 := pow_pos (by norm_num) _
      have least := lower.trans moderate.2
      rw [next]
      generalize (10 : ℚ) ^ 308 = t at positive least ⊢
      linarith
    rw [zpow_lt_zpow_iff_right₀ (by norm_num)] at above
    omega

/-- The scaled double is near to the number in the place of the last digit. -/
theorem shift_inPlace (h : IsPositive x) (moderate : IsModerate (size x.toModel.unpack))
    (hd : 0 < d) (few : d ≤ accurateDigits) :
    Approximates 4 (shift x (d - 1 - exponent x)) (inPlace d x) := by
  obtain ⟨least, greatest⟩ := exponent_range h moderate
  obtain ⟨lower, upper⟩ := inPlace_bounds h hd
  have one : (1 : ℚ) ≤ (10 ^ (d - 1) : Nat) := by exact_mod_cast Nat.pow_pos (by decide)
  have all : ((10 ^ d : Nat) : ℚ) ≤ 10 ^ 12 := by exact_mod_cast ten_pow_le few
  have tenth : (10 : ℚ) ^ (-1 : Int) ≤ inPlace d x := by
    refine le_trans ?_ lower
    calc (10 : ℚ) ^ (-1 : Int) ≤ 1 * (1 - 1 / 2 ^ 40) := by norm_num
      _ ≤ _ := mul_le_mul_of_nonneg_right one (by norm_num)
  have moderate' : IsModerate (inPlace d x) :=
    (isModerate_ten_zpow (e := -1) (by decide) (by decide)).of_between
      (isModerate_ten_pow (n := 12) (by decide)) (.inl tenth) (.inr (upper.le.trans all))
  refine shift_approximates h.approximates moderate moderate' ?_ (by decide)
  unfold stepExponent
  unfold accurateDigits at few
  omega

/-- The digits of a double: a whole number of `d` digits, or the power of ten behind them. -/
theorem exists_digits (h : IsPositive x) (moderate : IsModerate (size x.toModel.unpack))
    (hd : 0 < d) (few : d ≤ accurateDigits) : ∃ n : Nat,
      roundHalfUp (shift x (d - 1 - exponent x)) = Float.ofNat n ∧ 10 ^ (d - 1) ≤ n ∧
      n ≤ 10 ^ d ∧ |(n : ℚ) - inPlace d x| ≤ 3 / 4 := by
  obtain ⟨lower, upper⟩ := inPlace_bounds h hd
  have power : 10 ^ d = 10 * 10 ^ (d - 1) := by
    rw [← Nat.pow_succ', Nat.succ_eq_add_one, Nat.sub_add_cancel hd]
  have most := ten_pow_le few
  have digits : ((10 ^ (d - 1) : Nat) : ℚ) ≤ 10 ^ 11 := by
    exact_mod_cast (by omega : 10 ^ (d - 1) ≤ 10 ^ 11)
  have all : ((10 ^ d : Nat) : ℚ) ≤ 10 ^ 12 := by exact_mod_cast most
  have scaled := shift_inPlace h moderate hd few
  have error := abs_le.1 (scaled.near.abs_sub_le (by decide))
  obtain ⟨n, rounded, below, above⟩ := exists_roundHalfUp scaled.positive
  refine ⟨n, rounded, ?_, ?_, ?_⟩
  · by_contra short
    have short : (n : ℚ) + 1 ≤ (10 ^ (d - 1) : Nat) := by exact_mod_cast not_le.1 short
    linarith
  · by_contra long
    have long : ((10 ^ d : Nat) : ℚ) + 1 ≤ n := by exact_mod_cast not_le.1 long
    linarith
  · rw [abs_le]
    constructor <;> linarith

/-! ## Rounded doubles -/

/-- The whole number that the significant digits of a double make up, and that the rounded double
approximates in its place. -/
structure IsRounded (d : Nat) (x : Float) (n : Nat) : Prop where
  lower : 10 ^ (d - 1) ≤ n
  upper : n ≤ 10 ^ d
  near : |(n : ℚ) - inPlace d x| ≤ 3 / 4
  moderate : IsModerate ((n : ℚ) * 10 ^ (exponent x - d + 1))
  approximates : Approximates 4 (Engineering.round d x).1 (n * 10 ^ (exponent x - d + 1))

/-- A rounded number is in the range of doubles if the double is: at the greatest exponent there is
only the power of ten itself. -/
theorem isModerate_place (hd : 0 < d) (least : -308 ≤ e) (lower : 10 ^ (d - 1) ≤ n)
    (upper : n ≤ 10 ^ d) (greatest : e ≤ 307 ∨ e = 308 ∧ n ≤ 10 ^ (d - 1)) :
    IsModerate ((n : ℚ) * 10 ^ (e - d + 1)) := by
  obtain ⟨first, last⟩ := place_bounds (e := e) hd lower upper
  obtain small | ⟨rfl, most⟩ := greatest
  · exact (isModerate_ten_zpow least (by omega)).of_between
      (isModerate_ten_zpow (e := e + 1) (by omega) (by omega)) (.inl first) (.inr last)
  · obtain rfl : n = 10 ^ (d - 1) := by omega
    rw [natCast_ten_pow_mul (b := 308) (by omega)]
    exact isModerate_ten_zpow (by decide) (by decide)

theorem exists_isRounded (h : IsPositive x) (moderate : IsModerate (size x.toModel.unpack))
    (hd : 0 < d) (few : d ≤ accurateDigits) : ∃ n, IsRounded d x n := by
  obtain ⟨least, greatest⟩ := exponent_range h moderate
  obtain ⟨n, rounded, lower, upper, near⟩ := exists_digits h moderate hd few
  have few_digits : n ≤ 10 ^ 12 := upper.trans (ten_pow_le few)
  have positive : 0 < n := (Nat.pow_pos (by decide)).trans_le lower
  have in_range : IsModerate ((n : ℚ) * 10 ^ (exponent x - d + 1)) := by
    refine isModerate_place hd least lower upper ?_
    rcases greatest.lt_or_eq with less | last
    · exact .inl (by omega)
    · refine .inr ⟨last, ?_⟩
      by_contra long
      have long : ((10 ^ (d - 1) : Nat) : ℚ) + 1 ≤ n := by exact_mod_cast not_le.1 long
      have below : inPlace d x ≤ (10 ^ (d - 1) : Nat) := by
        rw [inPlace, last, ← ten_zpow_mul (a := 308) (b := (d : Int) - 1 - 308) (by omega)]
        exact mul_le_mul_of_nonneg_right moderate.2 (zpow_pos (by norm_num) _).le
      linarith [(abs_le.1 near).2]
  refine ⟨n, lower, upper, near, in_range, ?_⟩
  have whole : Approximates 0 (Float.ofNat n) n := approximates_ofNat positive (by omega)
  have whole_in_range : IsModerate n :=
    (isModerate_ten_pow (n := 0) (by decide)).of_between (isModerate_ten_pow (n := 12) (by decide))
      (.inl (by exact_mod_cast positive)) (.inr (by exact_mod_cast few_digits))
  rw [← rounded] at whole
  refine shift_approximates whole whole_in_range in_range ?_ (by decide)
  unfold stepExponent
  unfold accurateDigits at few
  omega

/-- The digits in their place are the double, up to the last of them. -/
theorem IsRounded.error (h : IsRounded d x n) (positive : IsPositive x) (hd : 0 < d) :
    |n * 10 ^ (exponent x - d + 1) - size x.toModel.unpack| ≤
        3 / 4 * 10 ^ (exponent x - d + 1) ∧
      |n * 10 ^ (exponent x - d + 1) - size x.toModel.unpack| ≤
        size x.toModel.unpack / 10 ^ (d - 1) := by
  have unit : (0 : ℚ) < 10 ^ (exponent x - d + 1) := zpow_pos (by norm_num) _
  have inverse := ten_zpow_mul (k := 0) (a := (d : Int) - 1 - exponent x)
    (b := exponent x - d + 1) (by omega)
  rw [Nat.pow_zero, Nat.cast_one] at inverse
  have error : |n * 10 ^ (exponent x - d + 1) - size x.toModel.unpack| ≤
      3 / 4 * 10 ^ (exponent x - d + 1) := by
    have near := mul_le_mul_of_nonneg_right h.near unit.le
    rw [abs_sub_mul_of_pos unit, inPlace, mul_assoc, inverse, mul_one] at near
    exact near
  refine ⟨error, error.trans ?_⟩
  obtain ⟨lower, -⟩ := exponent_bounds positive
  have power := natCast_ten_pow_mul (k := d - 1) (a := exponent x - d + 1) (b := exponent x)
    (by omega)
  rw [Nat.cast_pow, Nat.cast_ofNat, mul_comm] at power
  rw [le_div_iff₀ (pow_pos (by norm_num) _), mul_assoc, power]
  have positive : (0 : ℚ) < 10 ^ exponent x := zpow_pos (by norm_num) _
  linarith

end Metrology.Engineering
