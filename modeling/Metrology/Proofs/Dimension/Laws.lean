import Mathlib
import Metrology.Dimension

/-!
# The laws of dimensions

Dimensions are a commutative group under their product, so that whole powers make them a module
over the integers.  A power of an order other than zero loses nothing, and exact roots undo it: the
root is the dimension of that power (`root_eq_ok_iff`), and there is one where the order divides
every exponent (`exists_pow_eq_iff`), whatever the signs are.
-/

namespace Metrology.Dimension

variable {d e : Dimension} {n : Int}

/-! ## The group -/

instance : CommGroup Dimension where
  mul_assoc a b c := ext fun i => by simp only [exponent_mul, add_assoc]
  one_mul a := ext fun i => by simp only [exponent_mul, exponent_one, zero_add]
  mul_one a := ext fun i => by simp only [exponent_mul, exponent_one, add_zero]
  mul_comm a b := ext fun i => by simp only [exponent_mul, add_comm]
  inv_mul_cancel a := ext fun i => by
    simp only [exponent_mul, exponent_inv, exponent_one, neg_add_cancel]
  div_eq_mul_inv a b := ext fun i => by
    simp only [exponent_mul, exponent_inv, exponent_div, sub_eq_add_neg]
  zpow n a := a ^ n
  zpow_zero' a := ext fun i => by simp only [exponent_pow, exponent_one, mul_zero]
  zpow_succ' n a := ext fun i => by
    simp only [exponent_mul, exponent_pow, Nat.cast_succ, mul_add_one]
  zpow_neg' n a := ext fun i => by
    simp only [exponent_inv, exponent_pow, Int.negSucc_eq, Nat.cast_succ, mul_neg]

/-! ## Roots -/

theorem isMultipleOf_iff : d.isMultipleOf n = true ↔ ∀ i, n ∣ d.exponent i := by
  rw [isMultipleOf, toList, Vector.all_toList, Vector.all_eq_true]
  simp only [beq_iff_eq, ← Int.dvd_iff_emod_eq_zero]
  exact ⟨fun h i => h i i.isLt, fun h i hi => h ⟨i, hi⟩⟩

/-- A power of an order other than zero loses nothing. -/
theorem pow_injective (h : n ≠ 0) (same : d ^ n = e ^ n) : d = e := by
  ext i
  have exponents := congrArg (exponent · i) same
  simp only [exponent_pow] at exponents
  exact Int.eq_of_mul_eq_mul_right h exponents

/-- The dimensions that are powers are those whose exponents are multiples of the order. -/
theorem exists_pow_eq_iff : (∃ e : Dimension, e ^ n = d) ↔ ∀ i, n ∣ d.exponent i := by
  constructor
  · rintro ⟨e, rfl⟩ i
    rw [exponent_pow]
    exact Dvd.intro_left _ rfl
  · intro divides
    refine ⟨ofFn fun i => d.exponent i / n, ext fun i => ?_⟩
    rw [exponent_pow, exponent_ofFn, Int.ediv_mul_cancel (divides i)]

theorem root_zero (d : Dimension) : d.root 0 = .error .rootOfOrderZero := rfl

/-- The root is the dimension whose power is the given one. -/
theorem root_eq_ok_iff : d.root n = .ok e ↔ n ≠ 0 ∧ e ^ n = d := by
  rcases eq_or_ne n 0 with rfl | nonzero
  · rw [root_zero]
    exact iff_of_false (fun same => nomatch same) fun both => both.1 rfl
  rw [root, if_neg nonzero]
  by_cases multiple : d.isMultipleOf n = true
  · have power : (ofFn fun i => d.exponent i / n) ^ n = d := by
      ext i
      rw [exponent_pow, exponent_ofFn, Int.ediv_mul_cancel (isMultipleOf_iff.1 multiple i)]
    rw [if_pos multiple, Except.ok.injEq]
    constructor
    · rintro rfl
      exact ⟨nonzero, power⟩
    · rintro ⟨-, same⟩
      exact pow_injective nonzero (power.trans same.symm)
  · rw [if_neg multiple]
    constructor
    · rintro ⟨⟩
    · rintro ⟨-, power⟩
      exact absurd (isMultipleOf_iff.2 (exists_pow_eq_iff.1 ⟨e, power⟩)) multiple

/-- The laws of product, quotient, reciprocal, power and root. -/
theorem module_laws (a b c : Dimension) (n k : Int) :
    (a * b = b * a ∧ a * b * c = a * (b * c) ∧ 1 * a = a ∧ ∀ i, (1 : Dimension).exponent i = 0) ∧
    (a * b / b = a ∧ a / b = a * b⁻¹ ∧ a⁻¹ = a ^ (-1 : Int)) ∧
    ((a * b) ^ n = a ^ n * b ^ n ∧ a ^ (n + k) = a ^ n * a ^ k ∧ (a ^ n) ^ k = a ^ (n * k)) ∧
    ((∃ r, a.root n = .ok r) ↔ n ≠ 0 ∧ ∀ i, n ∣ a.exponent i) ∧
    (∀ r, a.root n = .ok r ↔ n ≠ 0 ∧ r ^ n = a ∧ ∀ s : Dimension, s ^ n = a → s = r) ∧
    (a ^ n).root n = if n = 0 then .error .rootOfOrderZero else .ok a := by
  refine ⟨⟨mul_comm a b, mul_assoc a b c, one_mul a, exponent_one⟩,
    ⟨mul_div_cancel_right a b, div_eq_mul_inv a b, (zpow_neg_one a).symm⟩,
    ⟨mul_zpow a b n, zpow_add a n k, (zpow_mul a n k).symm⟩, ?exists_root, ?unique_root, ?root_pow⟩
  case exists_root =>
    simp only [root_eq_ok_iff, exists_and_left, exists_pow_eq_iff]
  case unique_root =>
    intro r
    rw [root_eq_ok_iff]
    constructor
    · rintro ⟨nonzero, power⟩
      exact ⟨nonzero, power, fun s same => pow_injective nonzero (same.trans power.symm)⟩
    · rintro ⟨nonzero, power, -⟩
      exact ⟨nonzero, power⟩
  case root_pow =>
    split_ifs with zero
    · rw [zero, root_zero]
    · exact root_eq_ok_iff.2 ⟨zero, rfl⟩

end Metrology.Dimension
