import Mathlib.Analysis.SpecialFunctions.Pow.Real
import Metrology.Catalogue.Dimensions
import Metrology.Proofs.Number.Values

/-!
# The range of powers and roots

Powers and roots of magnitudes rest on the power function of doubles, which is a parameter here.
Where that is faithful to real powers (`IsFaithful`) and a double is near to the order, powers of
small magnitudes stay small and roots are finite; where no double is near to the order, all powers
and roots are infinite, whatever the magnitude is (`Quantity.powers_and_roots`).
-/

open Float.Model (Format UnpackedFloat)
open Float.Model.UnpackedFloat

namespace Metrology

/-! ## Powers and roots of magnitudes -/

namespace Magnitude

open Binary64

variable {pow : Float → Float → Float} {x y : Float} {n : Int}

/-- Powers of magnitudes up to one, and inverse powers of those from one on, stay up to one. -/
theorem abs_powerBy_le_one (finite : x.isFinite = true) (order : ofWhole? n = some y)
    (faithful : IsFaithful (pow x y) ((size x.toModel.unpack : ℝ) ^ (value y : ℝ)))
    (range : x.abs ≤ 1 ∧ 0 ≤ n ∨ 1 ≤ x.abs ∧ n ≤ 0) : (powerBy pow x n).abs ≤ 1 := by
  obtain ⟨rfl, -⟩ := eq_ofInt_of_ofWhole? order
  have nonnegative := isNonnegative_abs finite
  have nonneg : (0 : ℝ) ≤ size x.toModel.unpack := by exact_mod_cast size_nonneg _
  have small : ((size x.toModel.unpack : ℝ) ^ (value (Float.ofInt n) : ℝ)) ≤
      (size (1 : Float).toModel.unpack : ℝ) := by
    rw [size_one, Rat.cast_one]
    rw [le_iff_size_le nonnegative isNonnegative_one, le_iff_size_le isNonnegative_one nonnegative,
      unpack_abs, size_abs, size_one] at range
    obtain ⟨below, order⟩ | ⟨above, order⟩ := range
    · exact Real.rpow_le_one nonneg (by exact_mod_cast below)
        (by exact_mod_cast value_ofInt_nonneg order)
    · exact Real.rpow_le_one_of_one_le_of_nonpos (by exact_mod_cast above)
        (by exact_mod_cast value_ofInt_nonpos order)
  have bounded : (pow x (Float.ofInt n)).abs ≤ 1 := (faithful 1 isNonnegative_one).1 small
  have inner : (pow x (Float.ofInt n)).isInf = false :=
    isInf_of_isFinite (isFinite_of_abs_le isNonnegative_one bounded)
  have kept : powerBy pow x n = pow x (Float.ofInt n) := by
    rw [powerBy, order]
    dsimp only
    rw [inner, Bool.and_false, if_neg Bool.false_ne_true]
  rwa [kept]

/-- The root of a magnitude that is no negative number and does not vanish under a negative
order. -/
theorem rootBy_of_not_lt (h : ¬ x < 0) (kept : ¬ ((x == 0) = true ∧ n < 0)) : rootBy pow x n =
    match ofWhole? n with
    | none => infinity
    | some y => pow x (1 / y) := by
  have kept : ¬ (x == 0 && decide (n < 0)) = true := by rwa [Bool.and_eq_true, decide_eq_true_eq]
  rw [rootBy, if_neg fun both => h both.1, rootOfNonnegativeBy, if_neg h]
  cases ofWhole? n <;> exact if_neg kept

theorem rootBy_eq (nonneg : 0 ≤ x) (one : 1 ≤ n) : rootBy pow x n =
    match ofWhole? n with
    | none => infinity
    | some y => pow x (1 / y) :=
  rootBy_of_not_lt (not_lt_of_nonneg nonneg) fun lost => by omega

/-- Roots lie between the magnitude and one. -/
theorem isFinite_rootBy (finite : x.isFinite = true) (nonneg : 0 ≤ x) (one : 1 ≤ n)
    (order : ofWhole? n = some y)
    (faithful : IsFaithful (pow x (1 / y)) ((size x.toModel.unpack : ℝ) ^ (value (1 / y) : ℝ))) :
    (rootBy pow x n).isFinite = true := by
  rw [rootBy_eq nonneg one, order]
  obtain ⟨rfl, finite'⟩ := eq_ofInt_of_ofWhole? order
  obtain ⟨least, greatest⟩ := value_inv_ofInt one finite'
  have size_nonneg : (0 : ℝ) ≤ size x.toModel.unpack := by exact_mod_cast size_nonneg _
  rcases le_total (size x.toModel.unpack) 1 with small | great
  · refine isFinite_of_abs_le isNonnegative_one ((faithful 1 isNonnegative_one).1 ?_)
    rw [size_one, Rat.cast_one]
    exact Real.rpow_le_one size_nonneg (by exact_mod_cast small) (by exact_mod_cast least)
  · have nonnegative := isNonnegative_abs finite
    refine isFinite_of_abs_le nonnegative ((faithful x.abs nonnegative).1 ?_)
    rw [unpack_abs, size_abs]
    calc _ ≤ (size x.toModel.unpack : ℝ) ^ (1 : ℝ) :=
          Real.rpow_le_rpow_of_exponent_le (by exact_mod_cast great) (by exact_mod_cast greatest)
      _ = _ := Real.rpow_one _

theorem isInf_powerLimit (x : Float) (n : Int) : (powerLimit x n).isInf = true := by
  unfold powerLimit Binary64.copySign
  split_ifs <;> decide +kernel

end Magnitude

/-! ## Powers and roots of quantities -/

open Binary64

/-- Powers and roots of a finite quantity `q` with a whole order `n`. -/
theorem Quantity.powers_and_roots (pow : Float → Float → Float) (q : Quantity) (n : Int)
    (finite : q.value.isFinite = true) :
    (∀ y, ofWhole? n = some y →
      IsFaithful (pow q.value y) ((size q.value.toModel.unpack : ℝ) ^ (Binary64.value y : ℝ)) →
      q.value.abs ≤ 1 ∧ 0 ≤ n ∨ 1 ≤ q.value.abs ∧ n ≤ 0 → (q.powerBy pow n).value.abs ≤ 1) ∧
    (∀ y d, ofWhole? n = some y →
      IsFaithful (pow q.value (1 / y))
        ((size q.value.toModel.unpack : ℝ) ^ (Binary64.value (1 / y) : ℝ)) →
      1 ≤ n → 0 ≤ q.value → q.dimension.root n = .ok d →
      ∃ x, q.rootBy pow n = .ok ⟨d, x⟩ ∧ x.isFinite = true) ∧
    (ofWhole? n = none → (q.powerBy pow n).value.isInf = true ∧
      ∀ d, 1 ≤ n → 0 ≤ q.value → q.dimension.root n = .ok d →
        q.rootBy pow n = .ok ⟨d, Magnitude.infinity⟩) := by
  refine ⟨fun y order faithful range => ?powers, fun y d order faithful one nonneg root => ?roots,
    fun order => ⟨?powerOutOfRange, fun d one nonneg root => ?rootOutOfRange⟩⟩
  case powers => exact Magnitude.abs_powerBy_le_one finite order faithful range
  case roots =>
    refine ⟨Magnitude.rootBy pow q.value n, ?_, ?_⟩
    · rw [rootBy, root]
    · exact Magnitude.isFinite_rootBy finite nonneg one order faithful
  case powerOutOfRange =>
    have limit : (q.powerBy pow n).value = Magnitude.powerLimit q.value n := by
      rw [powerBy, Magnitude.powerBy, order]
    rw [limit]
    exact Magnitude.isInf_powerLimit _ _
  case rootOutOfRange =>
    rw [rootBy, root, Magnitude.rootBy_eq nonneg one, order]

/-- The third power of one half, and the square root of four. -/
theorem Quantity.powers_and_roots_half :
    (0.5 : Float).isFinite = true ∧
    (Quantity.powerBy (fun x _ => x * x * x) ⟨.length, 0.5⟩ 3).value.abs ≤ 1 ∧
    ∃ x, Quantity.rootBy (fun x _ => x.sqrt) ⟨.length ^ (2 : Int), 4⟩ 2 = .ok ⟨.length, x⟩ ∧
      x.isFinite = true := by
  have finite : (0.5 : Float).isFinite = true := by decide +kernel
  have cube : IsFaithful (0.5 * 0.5 * 0.5)
      ((size (0.5 : Float).toModel.unpack : ℝ) ^ (Binary64.value 3 : ℝ)) := by
    have product : (0.5 * 0.5 * 0.5 : Float) = 0.125 := by decide +kernel
    have absolute : (0.125 : Float).abs = 0.125 := by decide +kernel
    have three : Binary64.value 3 = 3 :=
      (isUnsigned_ofNat 3).value_eq.trans (size_ofNat (by decide) (by decide))
    have faithful := isFaithful_size (isNonnegative_abs (x := 0.125) (by decide +kernel))
    rw [absolute, size_inv_two_pow 3 rfl] at faithful
    rw [product, size_inv_two_pow 1 rfl, three]
    norm_num at faithful ⊢
    exact faithful
  have root : IsFaithful (Float.sqrt 4)
      ((size (4 : Float).toModel.unpack : ℝ) ^ (Binary64.value (1 / 2) : ℝ)) := by
    have sqrt : Float.sqrt 4 = 2 := by decide +kernel
    have absolute : (2 : Float).abs = 2 := by decide +kernel
    have two : size (2 : Float).toModel.unpack = 2 := size_ofNat (by decide) (by decide)
    have four : size (4 : Float).toModel.unpack = 4 := size_ofNat (by decide) (by decide)
    have half : Binary64.value (1 / 2) = 1 / 2 := by
      have quotient : (1 / 2 : Float) = 0.5 := by decide +kernel
      have unsigned : IsUnsigned (1 / 2) :=
        (isUnsigned_ofNat 1).div (approximates_ofNat (n := 2) (by decide) (by decide)).positive
      rw [unsigned.value_eq, quotient, size_inv_two_pow 1 rfl, pow_one]
    have power : (4 : ℝ) ^ (1 / 2 : ℝ) = 2 := by
      rw [← Real.sqrt_eq_rpow, show (4 : ℝ) = 2 ^ 2 by norm_num, Real.sqrt_sq zero_le_two]
    have faithful := isFaithful_size (isNonnegative_abs (x := 2) (by decide +kernel))
    rw [absolute, two] at faithful
    rw [sqrt, four, half]
    push_cast at faithful ⊢
    rwa [power]
  have powers := (powers_and_roots (fun x _ => x * x * x) ⟨.length, 0.5⟩ 3 finite).1 3
    (by decide +kernel) cube
  have roots := (powers_and_roots (fun x _ => x.sqrt) ⟨.length ^ (2 : Int), 4⟩ 2
    (by decide +kernel)).2.1 2 .length (by decide +kernel) root
  exact ⟨finite, powers (.inl (by decide +kernel)),
    roots (by decide) (by decide +kernel) (by decide +kernel)⟩

/-- A power of one half is infinite, as no double is near to the order. -/
theorem Quantity.power_half : (0.5 : Float).isFinite = true ∧ (0.5 : Float).abs ≤ 1 ∧
    (0 : Int) ≤ 10 ^ 400 ∧ (Quantity.power ⟨1, 0.5⟩ (10 ^ 400)).value = Magnitude.infinity ∧
    ¬ (Quantity.power ⟨1, 0.5⟩ (10 ^ 400)).value.abs ≤ 1 := by
  decide +kernel

end Metrology
