import Metrology.Proofs.Number.Signs

/-!
# Approximation by doubles

A double approximates a positive number in so many steps if they differ by a factor of at most
`slack` for each step.  Products and quotients of doubles approximate the products and quotients of
what the operands approximate, in one step more than both together (`Approximates.mul`,
`Approximates.div`), as long as these are in the range where doubles have all their bits.
-/

open Float.Model (Format UnpackedFloat)
open Float.Model.UnpackedFloat

namespace Metrology.Binary64

variable {x y : Float} {f : UnpackedFloat} {s : Sign} {a b c z : ℚ} {k l : Nat}

/-! ## Nearness of numbers -/

/-- The factor by which two numbers may differ in a step. -/
def slack : ℚ := 1 + 1 / 2 ^ 50

theorem one_le_slack : 1 ≤ slack := by
  unfold slack
  norm_num

theorem slack_pos : 0 < slack := one_pos.trans_le one_le_slack

/-- Two positive numbers differ by at most `k` steps. -/
structure IsNear (k : Nat) (a z : ℚ) : Prop where
  positive : 0 < z
  lower : z ≤ a * slack ^ k
  upper : a ≤ z * slack ^ k

namespace IsNear

theorem refl (positive : 0 < a) : IsNear 0 a a :=
  ⟨positive, by rw [pow_zero, mul_one], by rw [pow_zero, mul_one]⟩

theorem pos (h : IsNear k a z) : 0 < a :=
  pos_of_mul_pos_left (h.positive.trans_le h.lower) (pow_pos slack_pos k).le

theorem mono (h : IsNear k a z) (steps : k ≤ l) : IsNear l a z where
  positive := h.positive
  lower := h.lower.trans
    (mul_le_mul_of_nonneg_left (pow_le_pow_right₀ one_le_slack steps) h.pos.le)
  upper := h.upper.trans
    (mul_le_mul_of_nonneg_left (pow_le_pow_right₀ one_le_slack steps) h.positive.le)

theorem trans (h : IsNear k a b) (h' : IsNear l b c) : IsNear (k + l) a c where
  positive := h'.positive
  lower := calc
    c ≤ b * slack ^ l := h'.lower
    _ ≤ a * slack ^ k * slack ^ l := mul_le_mul_of_nonneg_right h.lower (pow_pos slack_pos l).le
    _ = a * slack ^ (k + l) := by rw [pow_add, mul_assoc]
  upper := calc
    a ≤ b * slack ^ k := h.upper
    _ ≤ c * slack ^ l * slack ^ k := mul_le_mul_of_nonneg_right h'.upper (pow_pos slack_pos k).le
    _ = c * slack ^ (k + l) := by rw [add_comm, pow_add, mul_assoc]

theorem mul {a' z' : ℚ} (h : IsNear k a z) (h' : IsNear l a' z') :
    IsNear (k + l) (a * a') (z * z') where
  positive := mul_pos h.positive h'.positive
  lower := calc
    z * z' ≤ a * slack ^ k * (a' * slack ^ l) :=
      mul_le_mul h.lower h'.lower h'.positive.le (h.positive.trans_le h.lower).le
    _ = a * a' * slack ^ (k + l) := by rw [pow_add]; ring
  upper := calc
    a * a' ≤ z * slack ^ k * (z' * slack ^ l) :=
      mul_le_mul h.upper h'.upper h'.pos.le (h.pos.trans_le h.upper).le
    _ = z * z' * slack ^ (k + l) := by rw [pow_add]; ring

theorem inv (h : IsNear k a z) : IsNear k a⁻¹ z⁻¹ where
  positive := inv_pos.2 h.positive
  lower := by
    rw [inv_mul_eq_div, le_div_iff₀ h.pos, inv_mul_le_iff₀ h.positive]
    exact h.upper
  upper := by
    rw [inv_mul_eq_div, le_div_iff₀ h.positive, inv_mul_le_iff₀ h.pos]
    exact h.lower

theorem div {a' z' : ℚ} (h : IsNear k a z) (h' : IsNear l a' z') :
    IsNear (k + l) (a / a') (z / z') := by
  rw [div_eq_mul_inv, div_eq_mul_inv]
  exact h.mul h'.inv

/-- An error of one half in the 51st place or less is a step. -/
theorem of_abs_sub_le (positive : 0 < z) (error : |a - z| ≤ z / 2 ^ 51) : IsNear 1 a z := by
  obtain ⟨below, above⟩ := abs_le.1 error
  refine ⟨positive, ?_, ?_⟩
  · rw [pow_one, slack]
    linarith
  · rw [pow_one, slack]
    linarith

end IsNear

/-! ## The range of full accuracy -/

/-- The number is far enough from the least and the greatest double for all products and quotients
near to it to have their full accuracy. -/
def IsModerate (z : ℚ) : Prop := 10 ^ (-308 : Int) ≤ z ∧ z ≤ 10 ^ 308

theorem IsModerate.of_between (h : IsModerate a) (h' : IsModerate c) (lower : a ≤ b ∨ c ≤ b)
    (upper : b ≤ a ∨ b ≤ c) : IsModerate b :=
  ⟨lower.elim h.1.trans h'.1.trans, upper.elim (·.trans h.2) (·.trans h'.2)⟩

/-- The most steps for which a number near to a moderate one is in the range of doubles. -/
def stepLimit : Nat := 20

theorem slack_pow_le (steps : k ≤ stepLimit) : slack ^ k ≤ 1 + 1 / 2 ^ 45 := by
  refine (pow_le_pow_right₀ one_le_slack steps).trans ?_
  unfold slack stepLimit
  norm_num

theorem IsNear.le_mul (h : IsNear k a z) (steps : k ≤ stepLimit) : a ≤ z * (1 + 1 / 2 ^ 45) :=
  h.upper.trans (mul_le_mul_of_nonneg_left (slack_pow_le steps) h.positive.le)

theorem IsNear.le_mul' (h : IsNear k a z) (steps : k ≤ stepLimit) : z ≤ a * (1 + 1 / 2 ^ 45) :=
  h.lower.trans (mul_le_mul_of_nonneg_left (slack_pow_le steps) h.pos.le)

theorem IsNear.abs_sub_le (h : IsNear k a z) (steps : k ≤ stepLimit) : |a - z| ≤ z / 2 ^ 45 := by
  have upper := h.le_mul steps
  have lower := h.le_mul' steps
  rw [abs_le]
  constructor
  · rcases le_total a z with below | above
    · linarith
    · linarith [h.positive]
  · linarith

theorem ten_pow_lt_two_pow : (10 : ℚ) ^ 308 * (1 + 1 / 2 ^ 45) < 2 ^ 1024 := by
  have apart : 10 ^ 308 * (2 ^ 45 + 1) < 2 ^ 1024 * 2 ^ 45 := by decide +kernel
  have cast : (10 : ℚ) ^ 308 * (2 ^ 45 + 1) < 2 ^ 1024 * 2 ^ 45 := by exact_mod_cast apart
  generalize (10 : ℚ) ^ 308 = t at cast ⊢
  generalize (2 : ℚ) ^ 1024 = b at cast ⊢
  linarith

/-- What is near to a moderate number is in the range where doubles have all their bits. -/
theorem IsNear.bounds (h : IsNear k a z) (moderate : IsModerate z) (steps : k ≤ stepLimit) :
    (2 : ℚ) ^ (-1024 : Int) ≤ a ∧ a < 2 ^ (1024 : Int) := by
  have apart := ten_pow_lt_two_pow
  constructor
  · have lower := moderate.1.trans (h.le_mul' steps)
    have ten : (10 : ℚ) ^ (-308 : Int) * 10 ^ 308 = 1 := zpow_neg_mul_zpow_self 308 (by norm_num)
    have two : (2 : ℚ) ^ (-1024 : Int) * 2 ^ 1024 = 1 := zpow_neg_mul_zpow_self 1024 two_ne_zero
    have positive : (0 : ℚ) < 10 ^ 308 := pow_pos (by norm_num) _
    have positive' : (0 : ℚ) < 2 ^ (-1024 : Int) := zpow_pos two_pos _
    generalize (10 : ℚ) ^ (-308 : Int) = t' at lower ten
    generalize (2 : ℚ) ^ (-1024 : Int) = b' at two positive' ⊢
    generalize (10 : ℚ) ^ 308 = t at apart ten positive
    generalize (2 : ℚ) ^ 1024 = b at apart two
    calc b' = b' * (t' * t) := by rw [ten, mul_one]
      _ ≤ b' * (a * (1 + 1 / 2 ^ 45) * t) := by gcongr
      _ = a * (b' * (t * (1 + 1 / 2 ^ 45))) := by ring
      _ ≤ a * (b' * b) := mul_le_mul_of_nonneg_left
        (mul_le_mul_of_nonneg_left apart.le positive'.le) h.pos.le
      _ = a := by rw [two, mul_one]
  · have upper := mul_le_mul_of_nonneg_right moderate.2 (by norm_num : (0 : ℚ) ≤ 1 + 1 / 2 ^ 45)
    exact ((h.le_mul steps).trans upper).trans_lt apart

/-! ## Rounding -/

theorem exponent_le_of_size_lt {m : Nat} {e : Int} {hm : 0 < m}
    (canonical : IsCanonical (.finite s m e hm)) (small : (m : ℚ) * 2 ^ e < 2 ^ (1024 : Int)) :
    e ≤ 971 := by
  obtain ⟨-, -, full | least⟩ := (isCanonical_iff hm).1 canonical
  · by_contra great
    have mantissa : (2 : ℚ) ^ (52 : Int) ≤ m := by exact_mod_cast full
    have exponent : (2 : ℚ) ^ (972 : Int) ≤ 2 ^ e := zpow_le_zpow_right₀ one_le_two (by omega)
    refine absurd small (not_lt.2 ?_)
    calc (2 : ℚ) ^ (1024 : Int) = 2 ^ (52 : Int) * 2 ^ (972 : Int) :=
          zpow_add₀ two_ne_zero 52 972
      _ ≤ m * 2 ^ e := mul_le_mul mantissa exponent (zpow_pos two_pos _).le (Nat.cast_nonneg m)
  · omega

/-- The double is positive and its value is near to the number. -/
structure Approximates (k : Nat) (x : Float) (z : ℚ) : Prop where
  positive : IsPositive x
  near : IsNear k (size x.toModel.unpack) z

theorem Approximates.mono (h : Approximates k x z) (steps : k ≤ l) : Approximates l x z :=
  ⟨h.positive, h.near.mono steps⟩

theorem IsPositive.approximates (h : IsPositive x) : Approximates 0 x (size x.toModel.unpack) := by
  refine ⟨h, .refl ?_⟩
  obtain ⟨m, e, hm, unpacked⟩ := h
  rw [unpacked]
  exact mul_pos (Nat.cast_pos.2 hm) (zpow_pos two_pos e)

theorem size_ofNat {n : Nat} (hn : 0 < n) (small : n < 2 ^ 53) :
    size (Float.ofNat n).toModel.unpack = n := by
  rw [unpack_ofNat hn small]
  exact size_round_natCast (Nat.le_of_lt_succ ((Nat.log2_lt hn.ne').2 small))

theorem approximates_ofNat {n : Nat} (hn : 0 < n) (small : n < 2 ^ 53) :
    Approximates 0 (Float.ofNat n) n := by
  have approximates := IsPositive.approximates ⟨_, _, _, unpack_ofNat hn small⟩
  rwa [size_ofNat hn small] at approximates

/-- Rounding is one more step. -/
theorem Approximates.of_rounds (rounds : Rounds .positive a f)
    (unpacked : x.toModel.unpack = saturate f) (near : IsNear k a z) (moderate : IsModerate z)
    (steps : k < stepLimit) :
    Approximates (k + 1) x z := by
  obtain ⟨least, -⟩ := near.bounds moderate steps.le
  have error : |size f - a| ≤ a / 2 ^ 51 := by
    refine rounds.error.trans (max_le ?_ ?_)
    · exact div_le_div_of_nonneg_left near.pos.le (by norm_num) (by norm_num)
    · have half : (2 : ℚ) ^ (-1075 : Int) = 2 ^ (-1024 : Int) / 2 ^ (51 : Int) :=
        zpow_sub₀ two_ne_zero (-1024) 51
      rw [half]
      exact div_le_div_of_nonneg_right least (by norm_num)
  have rounded : IsNear (1 + k) (size f) z := (IsNear.of_abs_sub_le near.pos error).trans near
  rw [add_comm] at rounded
  obtain rfl | ⟨m, e, hm, rfl⟩ := rounds.kind
  · exact absurd rounded.pos (lt_irrefl 0)
  have small := exponent_le_of_size_lt rounds.canonical (rounded.bounds moderate steps).2
  rw [saturate, if_neg (by omega)] at unpacked
  exact ⟨⟨m, e, hm, unpacked⟩, by rwa [unpacked]⟩

theorem Approximates.mul (h : Approximates k x a) (h' : Approximates l y b)
    (moderate : IsModerate (a * b)) (steps : k + l < stepLimit) :
    Approximates (k + l + 1) (x * y) (a * b) := by
  obtain ⟨⟨m, e, hm, unpacked⟩, near⟩ := h
  obtain ⟨⟨n, e', hn, unpacked'⟩, near'⟩ := h'
  have canonical : IsCanonical x.toModel.unpack := isCanonical_unpack _
  have canonical' : IsCanonical y.toModel.unpack := isCanonical_unpack _
  have product := unpack_mul x y
  rw [unpacked] at near canonical product
  rw [unpacked'] at near' canonical' product
  exact .of_rounds (rounds_mul canonical canonical') product (near.mul near') moderate steps

theorem Approximates.div (h : Approximates k x a) (h' : Approximates l y b)
    (moderate : IsModerate (a / b)) (steps : k + l < stepLimit) :
    Approximates (k + l + 1) (x / y) (a / b) := by
  obtain ⟨⟨m, e, hm, unpacked⟩, near⟩ := h
  obtain ⟨⟨n, e', hn, unpacked'⟩, near'⟩ := h'
  have quotient := unpack_div x y
  rw [unpacked] at near quotient
  rw [unpacked'] at near' quotient
  exact .of_rounds (@rounds_div .positive .positive m n e e' hm hn) quotient (near.div near') moderate
    steps

end Metrology.Binary64
