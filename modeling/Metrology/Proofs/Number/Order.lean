import Metrology.Proofs.Number.Approximation

/-!
# The order of doubles

Doubles without a sign that are finite are in the order of their values (`compare_size`,
`lt_iff_size_lt`, `le_iff_size_le`).
-/

open Float.Model (Format UnpackedFloat)
open Float.Model.UnpackedFloat

namespace Metrology.Binary64

variable {x y : Float} {s t : Sign} {m n : Nat} {e e' : Int} {hm : 0 < m} {hn : 0 < n}

/-- The mantissa of the greater exponent has all its bits. -/
theorem size_lt_of_exponent_lt (h : IsCanonical (.finite s m e hm))
    (h' : IsCanonical (.finite t n e' hn)) (lt : e < e') :
    (m : ℚ) * 2 ^ e < n * 2 ^ e' := by
  obtain ⟨bits, least, -⟩ := (isCanonical_iff hm).1 h
  obtain ⟨-, -, full⟩ := (isCanonical_iff hn).1 h'
  have full : (2 : ℚ) ^ 52 ≤ n := by exact_mod_cast full.resolve_right (by omega)
  calc (m : ℚ) * 2 ^ e < 2 ^ 52 * 2 ^ e' := mul_two_zpow_lt bits lt
    _ ≤ n * 2 ^ e' := mul_le_mul_of_nonneg_right full (zpow_pos two_pos e').le

/-- Exponents are compared first, then mantissas: that is the order of the values. -/
theorem compare_finite (h : IsCanonical (.finite s m e hm)) (h' : IsCanonical (.finite t n e' hn)) :
    (compare e e').then (compare m n) = compare ((m : ℚ) * 2 ^ e) (n * 2 ^ e') := by
  rcases lt_trichotomy e e' with lt | rfl | gt
  · rw [compare_lt_iff_lt.2 lt, compare_lt_iff_lt.2 (size_lt_of_exponent_lt h h' lt)]
    rfl
  · have power : (0 : ℚ) < 2 ^ e := zpow_pos two_pos e
    rw [compare_eq_iff_eq.2 rfl, Ordering.eq_then]
    rcases lt_trichotomy m n with lt | rfl | gt
    · have value := mul_lt_mul_of_pos_right (Nat.cast_lt.2 lt) power
      rw [compare_lt_iff_lt.2 lt, compare_lt_iff_lt.2 value]
    · rw [compare_eq_iff_eq.2 rfl, compare_eq_iff_eq.2 rfl]
    · have value := mul_lt_mul_of_pos_right (Nat.cast_lt.2 gt) power
      rw [compare_gt_iff_gt.2 gt, compare_gt_iff_gt.2 value]
  · rw [compare_gt_iff_gt.2 gt, compare_gt_iff_gt.2 (size_lt_of_exponent_lt h' h gt)]
    rfl

/-- The double is a number without a sign and below infinity. -/
structure IsNonnegative (x : Float) : Prop where
  unsigned : IsUnsigned x
  finite : x.isFinite = true

theorem compare_size (h : IsNonnegative x) (h' : IsNonnegative y) :
    x.toModel.unpack.compare y.toModel.unpack =
      some (compare (size x.toModel.unpack) (size y.toModel.unpack)) := by
  have canonical : IsCanonical x.toModel.unpack := isCanonical_unpack _
  have canonical' : IsCanonical y.toModel.unpack := isCanonical_unpack _
  obtain ⟨unsigned, finite⟩ := h
  obtain ⟨unsigned', finite'⟩ := h'
  have finite : x.toModel.unpack.isFinite = true := finite
  have finite' : y.toModel.unpack.isFinite = true := finite'
  rw [IsUnsigned] at unsigned unsigned'
  generalize x.toModel.unpack = f at *
  generalize y.toModel.unpack = g at *
  rcases f with s | _ | s | ⟨s, m, e, hm⟩ <;> cases unsigned <;> try cases finite
  all_goals rcases g with t | _ | t | ⟨t, n, e', hn⟩ <;> cases unsigned' <;> try cases finite'
  · rfl
  · have positive : size (.zero .positive) < n * 2 ^ e' :=
      mul_pos (Nat.cast_pos.2 hn) (zpow_pos two_pos e')
    exact congrArg some (compare_lt_iff_lt.2 positive).symm
  · have positive : size (.zero .positive) < m * 2 ^ e :=
      mul_pos (Nat.cast_pos.2 hm) (zpow_pos two_pos e)
    exact congrArg some (compare_gt_iff_gt.2 positive).symm
  · exact congrArg some (compare_finite canonical canonical')

theorem lt_iff_size_lt (h : IsNonnegative x) (h' : IsNonnegative y) :
    x < y ↔ size x.toModel.unpack < size y.toModel.unpack := by
  have lt_eq : x < y ↔ x.toModel.unpack.lt y.toModel.unpack = true := by
    change decide (x.toModel < y.toModel) = true ↔ _
    exact decide_eq_true_iff
  rw [lt_eq, UnpackedFloat.lt, compare_size h h', ← compare_lt_iff_lt, beq_iff_eq, Option.some_inj]

theorem le_iff_size_le (h : IsNonnegative x) (h' : IsNonnegative y) :
    x ≤ y ↔ size x.toModel.unpack ≤ size y.toModel.unpack := by
  have le_eq : x ≤ y ↔ x.toModel.unpack.le y.toModel.unpack = true := by
    change decide (x.toModel ≤ y.toModel) = true ↔ _
    exact decide_eq_true_iff
  rw [le_eq, UnpackedFloat.le, compare_size h h', ← compare_le_iff_le, Option.any_some,
    Ordering.isLE_iff_ne_gt]

theorem IsPositive.isNonnegative (h : IsPositive x) : IsNonnegative x := by
  refine ⟨h.isUnsigned, ?_⟩
  obtain ⟨m, e, hm, unpacked⟩ := h
  change x.toModel.unpack.isFinite = true
  rw [unpacked]
  rfl

theorem isNonnegative_abs (finite : x.isFinite = true) : IsNonnegative x.abs := by
  have finite : x.toModel.unpack.isFinite = true := finite
  constructor
  · rw [IsUnsigned, unpack_abs]
    rcases unpacked : x.toModel.unpack with s | _ | s | ⟨s, m, e, hm⟩ <;> rw [unpacked] at finite <;>
      first | rfl | cases finite
  · change x.abs.toModel.unpack.isFinite = true
    rw [unpack_abs]
    rcases unpacked : x.toModel.unpack with s | _ | s | ⟨s, m, e, hm⟩ <;> rw [unpacked] at finite <;>
      first | rfl | cases finite

theorem isNonnegative_zero : IsNonnegative 0 := ⟨rfl, rfl⟩

theorem isNonnegative_one : IsNonnegative 1 := ⟨rfl, rfl⟩

theorem ofNat_le_iff (hn : 0 < n) (small : n < 2 ^ 53) (h : IsPositive x) :
    Float.ofNat n ≤ x ↔ (n : ℚ) ≤ size x.toModel.unpack := by
  have whole := (approximates_ofNat hn small).positive.isNonnegative
  rw [le_iff_size_le whole h.isNonnegative, size_ofNat hn small]

end Metrology.Binary64
