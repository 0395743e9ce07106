import Metrology.Engineering
import Metrology.Proofs.Number.Approximation

/-!
# Scaling by powers of ten

The double that stands for a power of ten is one step or less from it, also where it is not the
nearest one (`powerOfTen_approximates`).  Scaling, rounding and aligning a double without a sign
leaves it without one (`isUnsigned_mantissa`).
-/

open Float.Model (Format UnpackedFloat)
open Float.Model.UnpackedFloat

namespace Metrology.Engineering

open Binary64 hiding one_mul

variable {x : Float} {k n : Nat} {e : Int}

/-! ## Powers of ten -/

theorem ofScientific_one : ∀ n : Fin 23, Float.ofScientific 1 false n =
    .ofModel (Float.Model.ofScientific 1 (Int.ofNat n)) := by
  decide +kernel

/-- The double of a power of ten is the rounded power. -/
theorem rounds_ofScientific_one (small : n ≤ 2048) : ∃ f, Rounds .positive (10 ^ n) f ∧
    (Float.ofScientific 1 false n).toModel.unpack = saturate f := by
  have converted : Float.ofScientific 1 false n =
      .ofModel (Float.Model.ofScientific 1 (Int.ofNat n)) := by
    by_cases table : n ≤ 22
    · exact ofScientific_one ⟨n, by omega⟩
    · exact ofScientific_of_not (fun both => table both.2) false
  have rounded := unpack_ofScientific one_ne_zero small
  rw [Nat.cast_one, one_mul] at rounded
  rwa [converted]

theorem isModerate_ten_zpow (least : -308 ≤ e) (greatest : e ≤ 308) : IsModerate (10 ^ e) :=
  ⟨zpow_le_zpow_right₀ (by norm_num) least, zpow_le_zpow_right₀ (by norm_num) greatest⟩

theorem isModerate_ten_pow (small : n ≤ 308) : IsModerate (10 ^ n) :=
  zpow_natCast (10 : ℚ) n ▸ isModerate_ten_zpow (by omega) (by omega)

theorem powerOfTen_23 : powerOfTen 23 = Float.ofBits 0x44B52D02C7E14AF7 := by
  decide +kernel

theorem powerOfTen_210 : powerOfTen 210 = Float.ofBits 0x6B88557F31326BBC := by
  decide +kernel

theorem unpack_powerOfTen_23 : (powerOfTen 23).toModel.unpack =
    .finite .positive 5960464477539063 24 (by decide) := by
  rw [powerOfTen_23]
  rfl

theorem unpack_powerOfTen_210 : (powerOfTen 210).toModel.unpack =
    .finite .positive 6849404215651260 645 (by decide) := by
  rw [powerOfTen_210]
  rfl

/-- A mantissa and an exponent are one step or less from a power of ten, by whole numbers. -/
theorem isNear_ten_pow {m e : Nat}
    (error : |(m : Int) * 2 ^ e - 10 ^ n| * 2 ^ 51 ≤ 10 ^ n) :
    IsNear 1 ((m : ℚ) * 2 ^ (e : Int)) (10 ^ n) := by
  refine .of_abs_sub_le (by positivity) ?_
  rw [le_div_iff₀ (by positivity), zpow_natCast]
  exact_mod_cast error

/-- The double of a power of ten is one step or less from it. -/
theorem powerOfTen_approximates (small : n ≤ stepExponent) :
    Approximates 1 (powerOfTen n) (10 ^ n) := by
  by_cases special : n = 23 ∨ n = 210
  · obtain rfl | rfl := special
    · refine ⟨⟨_, _, _, unpack_powerOfTen_23⟩, ?_⟩
      rw [unpack_powerOfTen_23]
      exact isNear_ten_pow (by decide +kernel)
    · refine ⟨⟨_, _, _, unpack_powerOfTen_210⟩, ?_⟩
      rw [unpack_powerOfTen_210]
      exact isNear_ten_pow (by decide +kernel)
  · obtain ⟨f, rounds, unpacked⟩ := rounds_ofScientific_one (small.trans (by decide))
    have rounded : powerOfTen n = Float.ofScientific 1 false n := if_neg special
    rw [rounded]
    exact .of_rounds rounds unpacked (.refl (by positivity))
      (isModerate_ten_pow (small.trans (by decide))) (by decide)

theorem isPositive_powerOfTen (small : n ≤ stepExponent) : IsPositive (powerOfTen n) :=
  (powerOfTen_approximates small).positive

/-! ## Signs -/

theorem isUnsigned_scaleUp (h : IsUnsigned x) (n : Nat) : IsUnsigned (scaleUp x n) := by
  fun_induction scaleUp x n with
  | case1 x n small => exact h.mul (isPositive_powerOfTen small)
  | case2 x n great ih => exact ih (h.mul (isPositive_powerOfTen le_rfl))

theorem isUnsigned_scaleDown (h : IsUnsigned x) (n : Nat) : IsUnsigned (scaleDown x n) := by
  fun_induction scaleDown x n with
  | case1 x n small => exact h.div (isPositive_powerOfTen small)
  | case2 x n great ih => exact ih (h.div (isPositive_powerOfTen le_rfl))

theorem isUnsigned_shift (h : IsUnsigned x) (n : Int) : IsUnsigned (shift x n) := by
  cases n with
  | ofNat n => exact isUnsigned_scaleUp h n
  | negSucc n => exact isUnsigned_scaleDown h (n + 1)

theorem isUnsigned_roundHalfUp (h : IsUnsigned x) : IsUnsigned (roundHalfUp x) := by
  unfold roundHalfUp
  split
  · exact isUnsigned_ofNat _
  · exact h

/-- The mantissa of a double without a sign has no sign. -/
theorem isUnsigned_mantissa (digits : Nat) (h : IsUnsigned x) :
    IsUnsigned (Scaled.ofFloat digits x).mantissa := by
  have rounded : IsUnsigned (if 0 < x then Engineering.round digits x else (x, 0)).1 := by
    split_ifs
    · exact isUnsigned_shift (isUnsigned_roundHalfUp (isUnsigned_shift h _)) _
    · exact h
  have thousand : IsPositive 1000 := ⟨_, _, _, unpack_ofNat (n := 1000) (by decide) (by decide)⟩
  unfold Scaled.ofFloat
  generalize (if 0 < x then Engineering.round digits x else (x, 0)) = rounding at rounded ⊢
  have aligned := isUnsigned_shift rounded (-alignedExponent rounding.2)
  dsimp only
  split_ifs
  · exact aligned.div thousand
  · exact aligned

end Metrology.Engineering
