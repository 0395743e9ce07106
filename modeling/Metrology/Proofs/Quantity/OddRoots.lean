import Metrology.Proofs.Quantity.Powers

/-!
# Odd roots

Odd roots of a quantity and of its negation differ by their sign.  That holds for every magnitude
but for those that lose their sign on the way (`Magnitude.LosesSign`): zero under a negative order,
and zero and NaN where no double is near to the order.  Both roots are the positive infinity then
(`Quantity.odd_root_neg`).
-/

namespace Metrology

/-! ## Odd roots of magnitudes -/

namespace Magnitude

open Binary64

/-- The values of a power function at zero and at a NaN: a power of zero of an order above zero is
zero, and a NaN has no powers of an order other than zero. -/
structure HasSpecialValues (pow : Float → Float → Float) : Prop where
  zero : ∀ x y, (x == 0) = true → 0 < y → (pow x y == 0) = true
  nan : ∀ x y, x.isNaN = true → (y == 0) = false → (pow x y).isNaN = true

/-- The magnitude is zero or NaN and its root of this order is out of range. -/
def LosesSign (x : Float) (n : Int) : Prop :=
  (x == 0) = true ∧ (n < 0 ∨ ofWhole? n = none) ∨ x.isNaN = true ∧ ofWhole? n = none

variable {pow : Float → Float → Float} {x : Float} {n : Int}

theorem losesSign_neg : LosesSign (-x) n ↔ LosesSign x n := by
  rw [LosesSign, LosesSign, beq_zero_neg, isNaN_neg]

theorem rootBy_of_isNaN (nan : x.isNaN = true) : rootBy pow x n =
    match ofWhole? n with
    | none => infinity
    | some y => pow x (1 / y) := by
  have nonzero := beq_zero_of_isNaN nan
  exact rootBy_of_not_lt (not_lt_zero_of_isNaN nan) fun lost => by
    rw [nonzero] at lost
    cases lost.1

theorem rootBy_of_losesSign (h : LosesSign x n) : rootBy pow x n = infinity := by
  rcases h with ⟨zero, order⟩ | ⟨nan, order⟩
  · have positive := not_lt_zero_of_beq_zero zero
    rw [rootBy, if_neg fun both => positive both.1, rootOfNonnegativeBy, if_neg positive]
    split_ifs with negative
    · rfl
    · rw [zero, Bool.true_and, decide_eq_true_eq] at negative
      rw [order.resolve_left negative]
  · rw [rootBy_of_isNaN nan, order]

/-- The odd root of a number other than zero takes its sign. -/
theorem rootBy_neg_of_lt (odd : n % 2 ≠ 0) (h : x < 0 ∨ 0 < x) :
    rootBy pow (-x) n = -rootBy pow x n := by
  rcases h with negative | positive
  · have positive : ¬ -x < 0 := (isUnsigned_neg_of_lt negative).not_lt_zero
    rw [rootBy, if_neg fun both => positive both.1, rootBy, if_pos ⟨negative, odd⟩,
      Binary64.neg_neg]
  · have negative : -x < 0 := neg_lt_zero_iff.2 positive
    have unsigned := not_lt_zero_of_zero_lt positive
    rw [rootBy, if_pos ⟨negative, odd⟩, Binary64.neg_neg, rootBy,
      if_neg fun both => unsigned both.1]

theorem rootBy_zero (special : HasSpecialValues pow) (nonzero : n ≠ 0) (zero : (x == 0) = true)
    (kept : ¬ LosesSign x n) : (rootBy pow x n == 0) = true := by
  cases order : ofWhole? n with
  | none => exact absurd (.inl ⟨zero, .inr order⟩) kept
  | some y =>
    have natural : ¬ n < 0 := fun negative => kept (.inl ⟨zero, .inl negative⟩)
    rw [rootBy_of_not_lt (not_lt_zero_of_beq_zero zero) fun lost => natural lost.2, order]
    obtain ⟨rfl, finite⟩ := eq_ofInt_of_ofWhole? order
    exact special.zero x _ zero (zero_lt_inv_ofInt (by omega) finite)

theorem rootBy_nan (special : HasSpecialValues pow) (nonzero : n ≠ 0) (nan : x.isNaN = true)
    (kept : ¬ LosesSign x n) : (rootBy pow x n).isNaN = true := by
  cases order : ofWhole? n with
  | none => exact absurd (.inr ⟨nan, order⟩) kept
  | some y =>
    rw [rootBy_of_isNaN nan, order]
    obtain ⟨rfl, finite⟩ := eq_ofInt_of_ofWhole? order
    exact special.nan x _ nan (isProper_ofInt nonzero finite).inv_beq_zero

theorem not_alike_infinity : ¬ Alike infinity (-infinity) := by
  unfold Alike
  decide +kernel

/-- Odd roots of a magnitude and of its negation differ by their sign, if that is not lost. -/
theorem alike_rootBy_neg_iff (special : HasSpecialValues pow) (odd : n % 2 ≠ 0) :
    Alike (rootBy pow (-x) n) (-rootBy pow x n) ↔ ¬ LosesSign x n := by
  constructor
  · intro alike lost
    rw [rootBy_of_losesSign lost, rootBy_of_losesSign (losesSign_neg.2 lost)] at alike
    exact not_alike_infinity alike
  · intro kept
    have nonzero : n ≠ 0 := by
      rintro rfl
      exact odd rfl
    have kept' : ¬ LosesSign (-x) n := losesSign_neg.not.2 kept
    obtain negative | positive | zero | nan := sign_cases x
    · rw [rootBy_neg_of_lt odd (.inl negative)]
      exact alike_refl _
    · rw [rootBy_neg_of_lt odd (.inr positive)]
      exact alike_refl _
    · have zero' : (-x == 0) = true := by rwa [beq_zero_neg]
      refine alike_of_zeros (rootBy_zero special nonzero zero' kept') ?_
      rw [beq_zero_neg]
      exact rootBy_zero special nonzero zero kept
    · have nan' : (-x).isNaN = true := by rwa [isNaN_neg]
      refine .inr ⟨rootBy_nan special nonzero nan' kept', ?_⟩
      rw [isNaN_neg]
      exact rootBy_nan special nonzero nan kept

end Magnitude

/-! ## Odd roots of quantities -/

namespace Quantity

open Binary64 Magnitude

theorem rootBy_of_root {pow : Float → Float → Float} {q : Quantity} {n : Int} {d : Dimension}
    (root : q.dimension.root n = .ok d) :
    q.rootBy pow n = .ok ⟨d, Magnitude.rootBy pow q.value n⟩ := by
  rw [rootBy, root]

/-- An odd root of the negation of a quantity is the negation of the root, exactly where the
magnitude does not lose its sign.  Where it does, both roots are the positive infinity. -/
theorem odd_root_neg (pow : Float → Float → Float) (special : HasSpecialValues pow) (q : Quantity)
    (n : Int) (odd : Odd n) (d : Dimension) (root : q.dimension.root n = .ok d) :
    ∃ r r', q.rootBy pow n = .ok r ∧ q.neg.rootBy pow n = .ok r' ∧
      r.dimension = d ∧ r'.dimension = r.neg.dimension ∧
      (Alike r'.value r.neg.value ↔ ¬ LosesSign q.value n) ∧
      (LosesSign q.value n → r.value = Magnitude.infinity ∧ r'.value = Magnitude.infinity) := by
  have odd : n % 2 ≠ 0 := by
    rw [Int.odd_iff.1 odd]
    exact one_ne_zero
  refine ⟨_, _, rootBy_of_root root, rootBy_of_root (q := q.neg) root, rfl, rfl,
    alike_rootBy_neg_iff special odd, fun lost => ?_⟩
  exact ⟨rootBy_of_losesSign lost, rootBy_of_losesSign (losesSign_neg.2 lost)⟩

/-- Zero at zero, NaN at NaN and two elsewhere: the third root at plus eight. -/
def rootOfEight (x _ : Float) : Float :=
  if x == 0 then 0 else if x.isNaN then x else 2

theorem hasSpecialValues_rootOfEight : HasSpecialValues rootOfEight where
  zero x y zero _ := by
    rw [rootOfEight, if_pos zero]
    decide +kernel
  nan x y nan _ := by
    have nonzero : ¬ (x == 0) = true := by
      rw [beq_zero_of_isNaN nan]
      exact Bool.false_ne_true
    rwa [rootOfEight, if_neg nonzero, if_pos nan]

def eightCubicMeters : Quantity := ⟨.length ^ (3 : Int), 8⟩

theorem root_eightCubicMeters : eightCubicMeters.dimension.root 3 = .ok .length := by
  decide +kernel

theorem not_losesSign_eightCubicMeters : ¬ LosesSign eightCubicMeters.value 3 := by
  unfold LosesSign
  decide +kernel

/-- The third roots of eight and of minus eight cubic meters. -/
theorem odd_root_neg_eight :
    HasSpecialValues rootOfEight ∧ Odd (3 : Int) ∧
    eightCubicMeters.dimension.root 3 = .ok .length ∧
    ∃ r r', eightCubicMeters.rootBy rootOfEight 3 = .ok r ∧
      eightCubicMeters.neg.rootBy rootOfEight 3 = .ok r' ∧
      r.dimension = .length ∧ r'.dimension = r.neg.dimension ∧ Alike r'.value r.neg.value := by
  have odd : Odd (3 : Int) := by decide
  obtain ⟨r, r', first, second, dimension, dimension', alike, -⟩ :=
    odd_root_neg rootOfEight hasSpecialValues_rootOfEight eightCubicMeters 3 odd .length
      root_eightCubicMeters
  exact ⟨hasSpecialValues_rootOfEight, odd, root_eightCubicMeters, r, r', first, second, dimension,
    dimension', alike.2 not_losesSign_eightCubicMeters⟩

/-- The inverse root of both zeros is the positive infinity. -/
theorem root_neg_zero :
    Odd (-1 : Int) ∧ (1 : Dimension).root (-1) = .ok 1 ∧
    Quantity.root ⟨1, 0⟩ (-1) = .ok ⟨1, Magnitude.infinity⟩ ∧
    Quantity.root (Quantity.neg ⟨1, 0⟩) (-1) = .ok ⟨1, Magnitude.infinity⟩ ∧
    ¬ Alike Magnitude.infinity (Quantity.neg ⟨1, Magnitude.infinity⟩).value := by
  refine ⟨by decide, by decide +kernel, by decide +kernel, by decide +kernel, ?_⟩
  exact not_alike_infinity

end Quantity

end Metrology
