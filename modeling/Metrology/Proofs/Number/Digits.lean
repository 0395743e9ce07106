import Mathlib
import Metrology.Number.Decimal

/-!
# Decimal digits of fractions

Rounding to a whole number errs by one half at most (`abs_roundDiv_sub_le`), and the decimal exponent
of a fraction places it between two powers of ten (`exponent_spec`).  So the significant digits of a
fraction are the fraction rounded to its `p` leading places (`significant_spec`).
-/

namespace Metrology

variable {a b n d p : Nat}

/-! ## Rounding to whole numbers -/

theorem abs_roundDiv_sub_le (positive : 0 < b) : |(roundDiv a b : ℚ) - a / b| ≤ 1 / 2 := by
  have positive' : (0 : ℚ) < b := by exact_mod_cast positive
  have split : (a : ℚ) / b = (a / b : Nat) + ((a % b : Nat) : ℚ) / b := by
    rw [div_eq_iff positive'.ne', add_mul, div_mul_cancel₀ _ positive'.ne']
    exact_mod_cast (Nat.div_add_mod' a b).symm
  have least : 0 ≤ ((a % b : Nat) : ℚ) / b := by positivity
  have greatest : ((a % b : Nat) : ℚ) / b ≤ 1 := by
    rw [div_le_one positive']
    exact_mod_cast (Nat.mod_lt a positive).le
  unfold roundDiv
  dsimp only
  rw [split, abs_le]
  cases side : compare (2 * (a % b)) b with
  | lt =>
    have below : ((a % b : Nat) : ℚ) / b ≤ 1 / 2 := by
      rw [div_le_div_iff₀ positive' two_pos]
      exact_mod_cast (by have := Nat.compare_eq_lt.1 side; omega : a % b * 2 ≤ 1 * b)
    constructor <;> dsimp only <;> linarith
  | eq =>
    have same : ((a % b : Nat) : ℚ) / b = 1 / 2 := by
      rw [div_eq_div_iff positive'.ne' two_ne_zero]
      exact_mod_cast (by have := Nat.compare_eq_eq.1 side; omega : a % b * 2 = 1 * b)
    have parity : ((a / b % 2 : Nat) : ℚ) ≤ 1 := by
      exact_mod_cast (by omega : a / b % 2 ≤ 1)
    have nonneg : (0 : ℚ) ≤ ((a / b % 2 : Nat) : ℚ) := Nat.cast_nonneg _
    rw [same]
    constructor <;> push_cast at parity nonneg ⊢ <;> linarith
  | gt =>
    have above : 1 / 2 ≤ ((a % b : Nat) : ℚ) / b := by
      rw [div_le_div_iff₀ two_pos positive']
      exact_mod_cast (by have := Nat.compare_eq_gt.1 side; omega : 1 * b ≤ a % b * 2)
    constructor <;> push_cast at above greatest ⊢ <;> linarith

namespace Decimal

/-! ## The decimal exponent -/

theorem digits_length_pos (n : Nat) : 0 < (digits n).length :=
  List.length_pos_iff.2 Nat.toDigits_ne_nil

theorem lt_ten_pow_length (n : Nat) : n < 10 ^ (digits n).length :=
  (Nat.length_toDigits_le_iff (by decide) (digits_length_pos n)).1 le_rfl

theorem ten_pow_length_le (positive : 0 < n) : 10 ^ ((digits n).length - 1) ≤ n := by
  by_contra above
  rcases Nat.eq_zero_or_pos ((digits n).length - 1) with zero | more
  · rw [zero] at above
    omega
  · have shorter := (Nat.length_toDigits_le_iff (by decide) more).2 (not_le.1 above)
    have nonempty := digits_length_pos n
    unfold digits at shorter more nonempty
    omega

theorem length_digits (lower : 10 ^ p ≤ n) (upper : n < 10 ^ (p + 1)) :
    (digits n).length = p + 1 := by
  have positive : 0 < n := (Nat.pow_pos (by decide)).trans_le lower
  have nonempty := digits_length_pos n
  have long : p < (digits n).length :=
    (Nat.pow_lt_pow_iff_right (by decide)).1 (lower.trans_lt (lt_ten_pow_length n))
  have short : (digits n).length - 1 < p + 1 :=
    (Nat.pow_lt_pow_iff_right (by decide)).1 ((ten_pow_length_le positive).trans_lt upper)
  omega

/-- The fraction lies between the power of ten of its exponent and the next one. -/
theorem exponent_spec (hn : 0 < n) (hd : 0 < d) :
    (10 : ℚ) ^ exponent n d ≤ n / d ∧ (n : ℚ) / d < 10 ^ (exponent n d + 1) := by
  have positive : (0 : ℚ) < d := by exact_mod_cast hd
  unfold exponent
  split_ifs with above
  · have lower := ten_pow_length_le (Nat.div_pos above hd)
    have upper := lt_ten_pow_length (n / d)
    have length := digits_length_pos (n / d)
    generalize (digits (n / d)).length = l at lower upper length
    have exponent : (l : Int) - 1 = ((l - 1 : Nat) : Int) := by omega
    rw [exponent, ← Nat.cast_add_one, zpow_natCast, zpow_natCast, Nat.sub_add_cancel length,
      le_div_iff₀ positive, div_lt_iff₀ positive]
    constructor
    · exact_mod_cast (Nat.le_div_iff_mul_le hd).1 lower
    · exact_mod_cast (Nat.div_lt_iff_lt_mul hd).1 upper
  · -- The greatest whole number below the inverse of the fraction.
    obtain ⟨c, hc⟩ : ∃ c, c = (d + n - 1) / n - 1 := ⟨_, rfl⟩
    have next : (d + n - 1) / n = c + 1 := by
      have one : 1 ≤ (d + n - 1) / n := (Nat.one_le_div_iff hn).2 (by omega)
      omega
    obtain ⟨least, greatest⟩ := (Nat.div_eq_iff hn).1 next
    have below : c * n < d := by
      have := Nat.add_mul c 1 n
      omega
    have above : d ≤ (c + 1) * n := by
      have := Nat.add_mul c 1 n
      omega
    have nonzero : 0 < c := by
      by_contra zero
      obtain rfl : c = 0 := by omega
      omega
    have lower := ten_pow_length_le nonzero
    have upper := lt_ten_pow_length c
    have length := digits_length_pos c
    rw [← hc]
    generalize (digits c).length = l at lower upper length
    have exponent : -(l : Int) + 1 = -((l - 1 : Nat) : Int) := by omega
    rw [exponent, zpow_neg, zpow_neg, zpow_natCast, zpow_natCast, inv_eq_one_div, inv_eq_one_div,
      div_le_div_iff₀ (by positivity) positive, div_lt_div_iff₀ positive (by positivity)]
    constructor
    · exact_mod_cast (by nlinarith : 1 * d ≤ n * 10 ^ l)
    · exact_mod_cast (by nlinarith : n * 10 ^ (l - 1) < 1 * d)

/-! ## Significant digits -/

theorem shifted_eq (n d : Nat) (k : Int) :
    ((shifted n d k).1 : ℚ) / (shifted n d k).2 = n / d / 10 ^ k := by
  cases k with
  | ofNat k =>
    change (n : ℚ) / (d * 10 ^ k : Nat) = n / d / 10 ^ ((k : Nat) : Int)
    rw [Nat.cast_mul, Nat.cast_pow, zpow_natCast, div_div]
    rfl
  | negSucc k =>
    change ((n * 10 ^ (k + 1) : Nat) : ℚ) / d = n / d / 10 ^ Int.negSucc k
    rw [zpow_negSucc, div_inv_eq_mul, Nat.cast_mul, Nat.cast_pow, mul_div_right_comm]
    rfl

theorem shifted_pos (hd : 0 < d) (k : Int) : 0 < (shifted n d k).2 := by
  cases k with
  | ofNat k => exact Nat.mul_pos hd (Nat.pow_pos (by decide))
  | negSucc k => exact hd

/-- The fraction in its last place has `p` whole digits. -/
theorem shifted_bounds (hp : 0 < p) (hn : 0 < n) (hd : 0 < d) :
    ((10 ^ (p - 1) : Nat) : ℚ) ≤ n / d / 10 ^ (exponent n d - p + 1) ∧
      (n : ℚ) / d / 10 ^ (exponent n d - p + 1) < ((10 ^ p : Nat) : ℚ) := by
  obtain ⟨lower, upper⟩ := exponent_spec hn hd
  have place : (0 : ℚ) < 10 ^ (exponent n d - p + 1) := by positivity
  rw [le_div_iff₀ place, div_lt_iff₀ place, Nat.cast_pow, Nat.cast_pow, Nat.cast_ofNat,
    ← zpow_natCast, ← zpow_natCast, ← zpow_add₀ (by norm_num), ← zpow_add₀ (by norm_num)]
  have first : ((p - 1 : Nat) : Int) + (exponent n d - p + 1) = exponent n d := by omega
  have second : (p : Int) + (exponent n d - p + 1) = exponent n d + 1 := by omega
  rw [first, second]
  exact ⟨lower, upper⟩

/-- The significant digits of a fraction are `p` digits, and as a number in the place of the last of
them they are the fraction rounded in that place. -/
theorem significant_spec (hp : 0 < p) (hn : 0 < n) (hd : 0 < d) :
    ∃ m : Nat, |(m : ℚ) - n / d / 10 ^ (exponent n d - p + 1)| ≤ 1 / 2 ∧
      (digits (significant p n d).mantissa).length = p ∧
      ((significant p n d).mantissa : ℚ) * 10 ^ ((significant p n d).exponent - p + 1) =
        m * 10 ^ (exponent n d - p + 1) := by
  obtain ⟨lower, upper⟩ := shifted_bounds hp hn hd
  have error := abs_roundDiv_sub_le (a := (shifted n d (exponent n d - p + 1)).1)
    (shifted_pos (n := n) hd (exponent n d - p + 1))
  rw [shifted_eq] at error
  unfold significant
  dsimp only
  generalize roundDiv (shifted n d (exponent n d - p + 1)).1 _ = m at error ⊢
  generalize (n : ℚ) / d / 10 ^ (exponent n d - p + 1) = x at lower upper error
  obtain ⟨below, above⟩ := abs_le.1 error
  have least : 10 ^ (p - 1) ≤ m := by
    by_contra short
    have short : (m : ℚ) + 1 ≤ (10 ^ (p - 1) : Nat) := by exact_mod_cast not_le.1 short
    linarith
  have greatest : m ≤ 10 ^ p := by
    by_contra long
    have long : ((10 ^ p : Nat) : ℚ) + 1 ≤ m := by exact_mod_cast not_le.1 long
    linarith
  have places : p - 1 + 1 = p := Nat.sub_add_cancel hp
  refine ⟨m, error, ?_⟩
  split_ifs with carry
  · -- The rounded number is the power of ten above, and one more place is cut off.
    have next : exponent n d + 1 - p + 1 = 1 + (exponent n d - p + 1) := by omega
    refine ⟨?_, ?_⟩
    · exact (length_digits le_rfl (Nat.pow_lt_pow_succ (by decide))).trans places
    · rw [carry, next, zpow_add₀ (by norm_num), ← mul_assoc, zpow_one]
      congr 1
      exact_mod_cast ((Nat.pow_succ ..).symm.trans (congrArg (10 ^ ·) places) :
        10 ^ (p - 1) * 10 = 10 ^ p)
  · refine ⟨?_, rfl⟩
    have less : m < 10 ^ (p - 1 + 1) := by
      rw [places]
      exact greatest.lt_of_ne carry
    exact (length_digits least less).trans places

end Decimal

end Metrology
