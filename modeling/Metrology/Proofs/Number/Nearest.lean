import Metrology.Proofs.Number.Order
import Metrology.Proofs.Number.Texts

/-!
# The nearest double

Rounding leaves the nearest of all numbers that fit into a mantissa, and of two that are as near the
one with the even mantissa (`Binary64.IsRoundingOf.isNearest`), which is one number only
(`Binary64.IsNearest.unique`).  A double is made of a decimal number by such a rounding, whatever
way it takes (`Binary64.isNearestDouble_ofScientific`).  So a numeral is read as the double nearest
to the number that it denotes (`Literal.Numeral.roundsTo_iff`).
-/

open Float.Model (Format UnpackedFloat)
open Float.Model.UnpackedFloat

namespace Metrology

namespace Binary64

variable {s : Sign} {f g : UnpackedFloat} {x y : Float} {em : ExtendedMantissa} {z u : ℚ} {t : Int}
  {m n : Nat} {e : Int}

/-! ## Nearest numbers -/

/-- The last bit of the mantissa is not set. -/
def HasEvenMantissa : UnpackedFloat → Prop
  | .finite _ m _ _ => m % 2 = 0
  | _ => True

/-- Under the sign `s`, no number in canonical form is nearer to `z` than `f`, and another one is as
near only if the mantissa of `f` is even. -/
structure IsNearest (s : Sign) (z : ℚ) (f : UnpackedFloat) : Prop where
  kind : f = .zero s ∨ ∃ m e hm, f = .finite s m e hm
  canonical : IsCanonical f
  nearest : ∀ g, IsCanonical g → |size f - z| ≤ |size g - z|
  even : ∀ g, IsCanonical g → |size g - z| = |size f - z| → size g = size f ∨ HasEvenMantissa f

/-- The double is the number `z` under the sign `s`, rounded to the nearest number in canonical form,
which is an infinity beyond the greatest double. -/
def IsNearestDouble (s : Sign) (z : ℚ) (x : Float) : Prop :=
  ∃ f, IsNearest s z f ∧ x.toModel.unpack = saturate f

/-! ## Rounded mantissas -/

/-- All whole numbers but the rounded mantissa are half a unit away, or more. -/
theorem Represents.half_le (h : Represents em u) (other : n ≠ em.roundedMantissa) :
    1 / 2 ≤ |(n : ℚ) - u| := by
  obtain ⟨below, above⟩ := abs_le.1 h.abs_rounded_sub_le
  rcases lt_or_gt_of_ne other with less | greater
  · have less : (n : ℚ) + 1 ≤ em.roundedMantissa := by exact_mod_cast less
    exact le_abs.2 (.inr (by linarith))
  · have greater : (em.roundedMantissa : ℚ) + 1 ≤ n := by exact_mod_cast greater
    exact le_abs.2 (.inl (by linarith))

theorem Represents.abs_rounded_le (h : Represents em u) (n : Nat) :
    |(em.roundedMantissa : ℚ) - u| ≤ |(n : ℚ) - u| := by
  by_cases same : n = em.roundedMantissa
  · rw [same]
  · exact h.abs_rounded_sub_le.trans (h.half_le same)

/-- A half is rounded to the even one of its neighbours. -/
theorem Represents.even_of_half (h : Represents em u)
    (half : |(em.roundedMantissa : ℚ) - u| = 1 / 2) : em.roundedMantissa % 2 = 0 := by
  obtain ⟨m, round, sticky⟩ := em
  cases round <;> cases sticky
  case true.false =>
    simp only [ExtendedMantissa.roundedMantissa, ExtendedMantissa.accuracy,
      Accuracy.roundToNearestEven]
    omega
  -- The other residual bits do not stand for a half.
  all_goals
    simp only [Represents, ExtendedMantissa.roundedMantissa, ExtendedMantissa.accuracy,
      Accuracy.roundToNearestEven, Nat.cast_add, Nat.cast_one] at h half
    rcases eq_or_eq_neg_of_abs_eq half with half | half <;> linarith

theorem Represents.eq_or_even (h : Represents em u)
    (same : |(n : ℚ) - u| = |(em.roundedMantissa : ℚ) - u|) :
    n = em.roundedMantissa ∨ em.roundedMantissa % 2 = 0 := by
  by_cases other : n = em.roundedMantissa
  · exact .inl other
  · have far := h.half_le other
    rw [same] at far
    exact .inr (h.even_of_half (le_antisymm h.abs_rounded_sub_le far))

/-! ## Numbers in canonical form -/

/-- A number in canonical form is a number of units of `2 ^ t` too, or it is smaller than those that
fill a mantissa. -/
theorem size_cases (canonical : IsCanonical g) (full : 2 ^ 52 ≤ u ∨ t = -1074) :
    (∃ n : Nat, size g = n * 2 ^ t) ∨ 2 ^ 52 ≤ u ∧ size g < 2 ^ 52 * 2 ^ t := by
  cases g with
  | finite s m e hm =>
    obtain ⟨bits, least, -⟩ := (isCanonical_iff hm).1 canonical
    rcases lt_or_ge e t with finer | coarser
    · exact .inr ⟨full.resolve_right (by omega), mul_two_zpow_lt bits finer⟩
    · obtain ⟨k, shift⟩ := Int.eq_ofNat_of_zero_le (Int.sub_nonneg.2 coarser)
      refine .inl ⟨m * 2 ^ k, ?_⟩
      rw [size, ← sub_add_cancel e t, shift, zpow_add₀ two_ne_zero, zpow_natCast]
      push_cast
      ring
  | _ => exact .inl ⟨0, by rw [Nat.cast_zero, zero_mul]; rfl⟩

/-- The rounded number is strictly nearer than the numbers with a smaller last place. -/
theorem InUnits.abs_lt (h : InUnits z em t u) (full : 2 ^ 52 ≤ u)
    (smaller : size g < 2 ^ 52 * 2 ^ t) : |size (assemble s em t) - z| < |size g - z| := by
  have unit : (0 : ℚ) < 2 ^ t := zpow_pos two_pos t
  have inside : 2 ^ 52 * 2 ^ t ≤ z := by
    rw [← h.mul_eq]
    gcongr
  calc |size (assemble s em t) - z| ≤ |(2 ^ 52 : Nat) - u| * 2 ^ t := by
        rw [h.abs_size_sub]
        exact mul_le_mul_of_nonneg_right (h.represents.abs_rounded_le _) unit.le
    _ = |2 ^ 52 * 2 ^ t - z| := by
        rw [← h.abs_sub]
        push_cast
        rfl
    _ = z - 2 ^ 52 * 2 ^ t := by rw [abs_sub_comm, abs_of_nonneg (sub_nonneg.2 inside)]
    _ < z - size g := sub_lt_sub_left smaller z
    _ ≤ |size g - z| := by
        rw [abs_sub_comm]
        exact le_abs_self _

theorem hasEvenMantissa_assemble (even : em.roundedMantissa % 2 = 0) :
    HasEvenMantissa (assemble s em t) := by
  unfold assemble
  split_ifs
  · trivial
  · exact even
  · rfl

theorem InUnits.isNearest (h : InUnits z em t u) : IsNearest s z (assemble s em t) where
  kind := h.rounds.kind
  canonical := h.isCanonical
  nearest := by
    intro g canonical
    have unit : (0 : ℚ) < 2 ^ t := zpow_pos two_pos t
    rcases size_cases canonical h.full with ⟨n, units⟩ | ⟨full, smaller⟩
    · rw [h.abs_size_sub, units, h.abs_sub]
      exact mul_le_mul_of_nonneg_right (h.represents.abs_rounded_le n) unit.le
    · exact (h.abs_lt full smaller).le
  even := by
    intro g canonical same
    have unit : (0 : ℚ) < 2 ^ t := zpow_pos two_pos t
    rcases size_cases canonical h.full with ⟨n, units⟩ | ⟨full, smaller⟩
    · rw [h.abs_size_sub, units, h.abs_sub, mul_left_inj' unit.ne'] at same
      rcases h.represents.eq_or_even same with rfl | even
      · exact .inl (units.trans (size_assemble (h.represents.rounded_le h.lt)).symm)
      · exact .inr (hasEvenMantissa_assemble even)
    · exact absurd same (h.abs_lt full smaller).ne'

/-- Rounding leaves the nearest number in canonical form. -/
theorem IsRoundingOf.isNearest (h : IsRoundingOf s z f) : IsNearest s z f := by
  obtain ⟨enough, represents⟩ := h
  obtain ⟨em, t, u, units, rounded⟩ := exists_inUnits s enough represents
  rw [rounded]
  exact units.isNearest

theorem IsRoundingOf.isNearestDouble (h : IsRoundingOf s z f) :
    IsNearestDouble s z (.ofModel (Float.Model.pack f)) :=
  ⟨f, h.isNearest, unpack_pack h.rounds.canonical⟩

/-! ## There is one nearest number -/

/-- The sizes of finite numbers in canonical form tell them apart, but for their signs. -/
theorem eq_of_size_eq {hm : 0 < m} {e' : Int} {hn : 0 < n} (h : IsCanonical (.finite s m e hm))
    (h' : IsCanonical (.finite s n e' hn)) (same : (m : ℚ) * 2 ^ e = n * 2 ^ e') : m = n ∧ e = e' := by
  have compared := compare_finite h h'
  rw [compare_eq_iff_eq.2 same, Ordering.then_eq_eq, compare_eq_iff_eq, compare_eq_iff_eq] at compared
  exact compared.symm

/-- The mantissa and the exponent of a number in canonical form; those of zero are the least ones. -/
structure HasParts (f : UnpackedFloat) (m : Nat) (e : Int) : Prop where
  size_eq : size f = m * 2 ^ e
  bits : m < 2 ^ 53
  least : -1074 ≤ e
  full : 2 ^ 52 ≤ m ∨ e = -1074
  even : HasEvenMantissa f → m % 2 = 0

theorem IsNearest.exists_parts (h : IsNearest s z f) : ∃ m e, HasParts f m e := by
  have canonical := h.canonical
  rcases h.kind with rfl | ⟨m, e, hm, rfl⟩
  · have zero : size (.zero s) = (0 : Nat) * 2 ^ (-1074 : Int) := by
      rw [Nat.cast_zero, zero_mul]
      rfl
    exact ⟨0, -1074, zero, by decide, le_rfl, .inr rfl, fun _ => rfl⟩
  · obtain ⟨bits, least, full⟩ := (isCanonical_iff hm).1 canonical
    exact ⟨m, e, rfl, bits, least, full, id⟩

/-- No number in canonical form is between a mantissa and the next one. -/
theorem HasParts.next_le (h : HasParts f m e) (canonical : IsCanonical g) (less : size f < size g) :
    ((m + 1 : Nat) : ℚ) * 2 ^ e ≤ size g := by
  have unit : (0 : ℚ) < 2 ^ e := zpow_pos two_pos e
  have full : (2 : ℚ) ^ 52 ≤ m ∨ e = -1074 := h.full.imp_left fun full => by exact_mod_cast full
  rw [h.size_eq] at less
  rcases size_cases canonical full with ⟨n, units⟩ | ⟨filled, smaller⟩
  · rw [units] at less ⊢
    have next : m < n := by exact_mod_cast lt_of_mul_lt_mul_right less unit.le
    exact mul_le_mul_of_nonneg_right (Nat.cast_le.2 next) unit.le
  · have below : (2 : ℚ) ^ 52 * 2 ^ e ≤ m * 2 ^ e := mul_le_mul_of_nonneg_right filled unit.le
    exact absurd (less.trans smaller) (not_lt.2 below)

/-- What is between two numbers that are as near is nearer. -/
theorem abs_sub_lt_of_between {a b c z : ℚ} (same : |b - z| = |a - z|) (ac : a < c) (cb : c < b) :
    |c - z| < |a - z| := by
  have middle : b - z = -(a - z) :=
    (abs_eq_abs.1 same).resolve_left fun equal => by linarith
  rw [abs_lt, abs_of_neg (by linarith : a - z < 0)]
  constructor <;> linarith

/-- No greater number is as near: the next mantissa is nearer, or is this number's and odd. -/
theorem IsNearest.not_size_lt (h : IsNearest s z f) (h' : IsNearest s z g) :
    ¬ size f < size g := by
  intro less
  have same : |size g - z| = |size f - z| :=
    le_antisymm (h'.nearest f h.canonical) (h.nearest g h'.canonical)
  obtain ⟨m, e, parts⟩ := h.exists_parts
  obtain ⟨n, e', parts'⟩ := h'.exists_parts
  have even := parts.even ((h.even g h'.canonical same).resolve_left less.ne')
  have even' := parts'.even ((h'.even f h.canonical same.symm).resolve_left less.ne)
  have next : IsCanonical (.finite s (m + 1) e (Nat.succ_pos m)) := by
    have bits := parts.bits
    have full := parts.full
    exact (isCanonical_iff _).2 ⟨by omega, parts.least, by omega⟩
  rcases (parts.next_le h'.canonical less).lt_or_eq with between | last
  · have after : size f < ((m + 1 : Nat) : ℚ) * 2 ^ e := by
      rw [parts.size_eq]
      exact mul_lt_mul_of_pos_right (Nat.cast_lt.2 m.lt_succ_self) (zpow_pos two_pos e)
    exact absurd (h.nearest _ next) (not_le.2 (abs_sub_lt_of_between same after between))
  · rw [parts'.size_eq] at last
    have positive : 0 < n := by
      refine Nat.pos_of_ne_zero fun zero => ?_
      rw [parts'.size_eq, zero, Nat.cast_zero, zero_mul] at less
      exact absurd less (not_lt.2 (size_nonneg f))
    have canonical : IsCanonical (.finite s n e' positive) :=
      (isCanonical_iff _).2 ⟨parts'.bits, parts'.least, parts'.full⟩
    obtain ⟨rfl, -⟩ := eq_of_size_eq next canonical last
    omega

theorem IsNearest.unique (h : IsNearest s z f) (h' : IsNearest s z g) : f = g := by
  have same : size f = size g :=
    le_antisymm (not_lt.1 (h'.not_size_lt h)) (not_lt.1 (h.not_size_lt h'))
  have canonical := h.canonical
  have canonical' := h'.canonical
  have positive {m : Nat} {e : Int} (hm : 0 < m) : (0 : ℚ) < m * 2 ^ e :=
    mul_pos (Nat.cast_pos.2 hm) (zpow_pos two_pos e)
  rcases h.kind with rfl | ⟨m, e, hm, rfl⟩ <;> rcases h'.kind with rfl | ⟨n, e', hn, rfl⟩
  · rfl
  · exact absurd same (positive hn).ne
  · exact absurd same (positive hm).ne'
  · obtain ⟨rfl, rfl⟩ := eq_of_size_eq canonical canonical' same
    rfl

/-- One double is the nearest. -/
theorem IsNearestDouble.unique (h : IsNearestDouble s z x) (h' : IsNearestDouble s z y) : x = y := by
  obtain ⟨f, nearest, unpacked⟩ := h
  obtain ⟨g, nearest', unpacked'⟩ := h'
  obtain rfl := nearest.unique nearest'
  exact eq_of_unpack_eq (unpacked.trans unpacked'.symm)

/-! ## Operations on doubles -/

theorem isNearestDouble_mul {s' : Sign} {hm : 0 < m} {hn : 0 < n} {e' : Int}
    (first : x.toModel.unpack = .finite s m e hm) (second : y.toModel.unpack = .finite s' n e' hn) :
    IsNearestDouble (s * s') ((m : ℚ) * 2 ^ e * (n * 2 ^ e')) (x * y) := by
  have canonical : IsCanonical x.toModel.unpack := isCanonical_unpack _
  have canonical' : IsCanonical y.toModel.unpack := isCanonical_unpack _
  rw [first] at canonical
  rw [second] at canonical'
  refine ⟨_, (isRoundingOf_mul canonical canonical').isNearest, ?_⟩
  rw [unpack_mul, first, second]

theorem isNearestDouble_div {s' : Sign} {hm : 0 < m} {hn : 0 < n} {e' : Int}
    (first : x.toModel.unpack = .finite s m e hm) (second : y.toModel.unpack = .finite s' n e' hn) :
    IsNearestDouble (s / s') ((m : ℚ) * 2 ^ e / (n * 2 ^ e')) (x / y) := by
  refine ⟨UnpackedFloat.div Format.binary64 (.finite s m e hm) (.finite s' n e' hn),
    isRoundingOf_div.isNearest, ?_⟩
  rw [unpack_div, first, second]

theorem size_neg (f : UnpackedFloat) : size f.neg = size f := by
  cases f <;> rfl

theorem IsNearest.neg (h : IsNearest s z f) : IsNearest (-s) z f.neg where
  kind := by
    rcases h.kind with rfl | ⟨m, e, hm, rfl⟩
    · exact .inl rfl
    · exact .inr ⟨m, e, hm, rfl⟩
  canonical := isCanonical_neg h.canonical
  nearest g canonical := by
    rw [size_neg]
    exact h.nearest g canonical
  even g canonical same := by
    rw [size_neg] at same ⊢
    refine (h.even g canonical same).imp_right fun even => ?_
    rcases h.kind with rfl | ⟨m, e, hm, rfl⟩ <;> exact even

theorem IsNearestDouble.neg (h : IsNearestDouble s z x) : IsNearestDouble (-s) z (-x) := by
  obtain ⟨f, nearest, unpacked⟩ := h
  refine ⟨f.neg, nearest.neg, ?_⟩
  rw [unpack_neg, unpacked, saturate_neg]

/-! ## Numbers out of range -/

/-- Zero is the nearest number to half of the least one and to all that are smaller. -/
theorem isNearest_zero (nonneg : 0 ≤ z) (small : z ≤ 2 ^ (-1075 : Int)) :
    IsNearest s z (.zero s) where
  kind := .inl rfl
  canonical := trivial
  nearest g canonical := by
    have zero : size (.zero s) = 0 := rfl
    rw [zero, abs_sub_comm, sub_zero, abs_of_nonneg nonneg]
    cases g with
    | finite t m e hm =>
      obtain ⟨-, least, -⟩ := (isCanonical_iff hm).1 canonical
      have least : (2 : ℚ) ^ (-1074 : Int) ≤ 2 ^ e := zpow_le_zpow_right₀ one_le_two least
      have one : (1 : ℚ) ≤ m := by exact_mod_cast hm
      have double : (2 : ℚ) ^ (-1074 : Int) = 2 * 2 ^ (-1075 : Int) :=
        zpow_one_add₀ two_ne_zero (-1075)
      have far : 2 * z ≤ size (.finite t m e hm) := calc
        2 * z ≤ 2 ^ (-1074 : Int) := by linarith
        _ ≤ 2 ^ e := least
        _ ≤ m * 2 ^ e := le_mul_of_one_le_left (zpow_pos two_pos _).le one
      exact le_abs.2 (.inl (by linarith))
    | _ => exact le_abs.2 (.inr (by simp only [size]; linarith))
  even _ _ _ := .inr trivial

/-- A number of `2 ^ 1025` or more is rounded beyond the greatest double. -/
theorem Rounds.saturate_eq (h : Rounds s z f) (great : 2 ^ (1025 : Int) ≤ z) :
    saturate f = .infinity s := by
  have double : (2 : ℚ) ^ (1025 : Int) = 2 * 2 ^ (1024 : Int) := zpow_one_add₀ two_ne_zero 1024
  have full : (2 : ℚ) ^ (1024 : Int) = 2 ^ 52 * 2 ^ (972 : Int) := zpow_add₀ two_ne_zero 52 972
  have positive : (0 : ℚ) < 2 ^ (1024 : Int) := zpow_pos two_pos _
  have least : (2 : ℚ) ^ (-1075 : Int) ≤ 2 ^ (1024 : Int) :=
    zpow_le_zpow_right₀ one_le_two (by norm_num)
  have beyond : 2 ^ (1024 : Int) ≤ size f := by
    have error := (abs_le.1 h.error).1
    rw [double] at great
    generalize (2 : ℚ) ^ (1024 : Int) = b at *
    generalize (2 : ℚ) ^ (-1075 : Int) = c at *
    have half : max (z / 2 ^ 53) c ≤ z / 2 :=
      max_le (by linarith only [great, positive]) (by linarith only [great, least])
    linarith only [great, error, half]
  obtain rfl | ⟨m, e, hm, rfl⟩ := h.kind
  · exact absurd beyond (not_le.2 positive)
  · rw [saturate, if_pos]
    by_contra small
    obtain ⟨bits, -, -⟩ := (isCanonical_iff hm).1 h.canonical
    have below := mul_two_zpow_lt bits (by omega : e < 972)
    rw [← full] at below
    exact absurd beyond (not_le.2 below)

/-! ## Decimal numbers -/

/-- The number `10 ^ n` in canonical form, if that has bits enough. -/
def isTenPow (n : Nat) : UnpackedFloat → Bool
  | .finite .positive k e _ => decide (-52 ≤ e ∧ k * 2 ^ (e + 52).toNat = 10 ^ n * 2 ^ 52)
  | _ => false

theorem isTenPow_table : ∀ n : Fin 23,
    isTenPow n (Float.exactlyRepresentablePowersOfTen[n]).toModel.unpack = true := by
  decide +kernel

/-- The powers of ten in the table are exact. -/
theorem unpack_table (n : Fin 23) : ∃ k e hk,
    (Float.exactlyRepresentablePowersOfTen[n]).toModel.unpack = .finite .positive k e hk ∧
      (k : ℚ) * 2 ^ e = 10 ^ n.val := by
  have exact := isTenPow_table n
  cases unpacked : (Float.exactlyRepresentablePowersOfTen[n]).toModel.unpack with
  | finite sign k e hk =>
    rw [unpacked] at exact
    cases sign with
    | negative => cases exact
    | positive =>
      obtain ⟨least, exact⟩ := of_decide_eq_true exact
      obtain ⟨i, shift⟩ := Int.eq_ofNat_of_zero_le (by omega : 0 ≤ e + 52)
      have exponent : e = i - 52 := by omega
      refine ⟨k, e, hk, rfl, ?_⟩
      rw [shift, Int.toNat_natCast] at exact
      rw [exponent, zpow_sub₀ two_ne_zero, zpow_natCast, ← mul_div_assoc, div_eq_iff (by norm_num)]
      exact_mod_cast exact
  | _ =>
    rw [unpacked] at exact
    cases exact

/-- Small decimal numbers are one product or quotient of exact numbers. -/
theorem ofScientific_of_lt (small : m < 2 ^ 53) (negative : Bool) (n : Fin 23) :
    Float.ofScientific m negative n =
      if negative then m.toUInt64.toFloat / Float.exactlyRepresentablePowersOfTen[n]
      else m.toUInt64.toFloat * Float.exactlyRepresentablePowersOfTen[n] := by
  unfold Float.ofScientific
  rw [dif_pos ⟨small, by omega⟩]
  rfl

/-- A decimal number with a small mantissa and a small exponent is rounded once, for both are exact. -/
theorem isNearestDouble_ofScientific_of_lt (hm : 0 < m) (small : m < 2 ^ 53) (negative : Bool)
    (n : Fin 23) : IsNearestDouble .positive (m * 10 ^ (if negative then -n.val else n.val : Int))
      (Float.ofScientific m negative n) := by
  obtain ⟨k, e, hk, power, value⟩ := unpack_table n
  have bits : m.log2 ≤ 52 := Nat.le_of_lt_succ ((Nat.log2_lt hm.ne').2 small)
  rw [ofScientific_of_lt small]
  cases negative with
  | false =>
    have product := isNearestDouble_mul (unpack_toFloat hm small) power
    rwa [size_round_natCast bits, value, ← zpow_natCast] at product
  | true =>
    have quotient := isNearestDouble_div (unpack_toFloat hm small) power
    rwa [size_round_natCast bits, value, ← zpow_natCast, div_eq_mul_inv, ← zpow_neg] at quotient

/-- A decimal number with a great exponent is beyond the greatest double. -/
theorem isNearestDouble_infinity (hm : 0 < m) (great : 2048 < n) :
    IsNearestDouble .positive (m * 10 ^ n) (.ofModel (Float.Model.pack (.infinity .positive))) := by
  have rounding := isRoundingOf_ten_pow hm.ne' n
  refine ⟨_, rounding.isNearest, ?_⟩
  rw [rounding.rounds.saturate_eq]
  · rfl
  · have one : (1 : ℚ) ≤ m := by exact_mod_cast hm
    calc (2 : ℚ) ^ (1025 : Int) = 2 ^ 1025 := zpow_natCast 2 1025
      _ ≤ 2 ^ n := pow_le_pow_right₀ one_le_two (by omega)
      _ ≤ 10 ^ n := by gcongr; norm_num
      _ ≤ m * 10 ^ n := le_mul_of_one_le_left (by positivity) one

/-- A decimal number with a small exponent is next to nothing. -/
theorem isNearestDouble_zero (small : e < -(2048 + m.log2)) :
    IsNearestDouble .positive (m * 10 ^ e) (.ofModel (Float.Model.pack (.zero .positive))) := by
  have nonneg : (0 : ℚ) ≤ m * 10 ^ e :=
    mul_nonneg (Nat.cast_nonneg m) (zpow_nonneg (by norm_num) e)
  have bits : (m : ℚ) ≤ 2 ^ (m.log2 + 1 : Int) := by exact_mod_cast Nat.lt_log2_self.le
  have power : (10 : ℚ) ^ e ≤ 2 ^ e := by
    obtain ⟨n, negative⟩ := Int.eq_ofNat_of_zero_le (by omega : 0 ≤ -e)
    obtain rfl : e = -n := by omega
    rw [zpow_neg, zpow_neg, zpow_natCast, zpow_natCast]
    gcongr
    norm_num
  refine ⟨.zero .positive, isNearest_zero nonneg ?_, rfl⟩
  calc (m : ℚ) * 10 ^ e ≤ 2 ^ (m.log2 + 1 : Int) * 2 ^ e := by gcongr
    _ = 2 ^ (m.log2 + 1 + e : Int) := (zpow_add₀ two_ne_zero _ _).symm
    _ ≤ 2 ^ (-1075 : Int) := zpow_le_zpow_right₀ one_le_two (by omega)

/-- A decimal number that is a fraction is the rounded quotient of whole numbers. -/
theorem isRoundingOf_ten_zpow (hm : 0 < m) (hn : 0 < n) (inside : n ≤ 2048 + m.log2) :
    IsRoundingOf .positive (m * 10 ^ (-n : Int))
      (UnpackedFloat.ofScientific Format.binary64 m (-n)) := by
  have positive : 0 < 10 ^ n := Nat.pow_pos (by decide)
  have rounding := @isRoundingOf_div .positive .positive m (10 ^ n) 0 0 hm positive
  have amount : (- -(n : Int)).toNat = n := by omega
  rw [ofScientific_binary64 hm, if_neg (by omega), if_neg (by omega), if_neg (by omega)]
  simp only [amount]
  rwa [zpow_zero, mul_one, mul_one, Nat.cast_pow, div_eq_mul_inv, ← zpow_natCast, ← zpow_neg]
    at rounding

/-- A decimal number is rounded once, or out of range. -/
theorem isNearestDouble_ofModel (hm : 0 < m) (e : Int) : IsNearestDouble .positive (m * 10 ^ e)
    (.ofModel (Float.Model.ofScientific m e)) := by
  unfold Float.Model.ofScientific
  rcases lt_or_ge e 0 with negative | natural
  · rcases lt_or_ge e (-(2048 + m.log2)) with low | inside
    · rw [ofScientific_binary64 hm, if_neg (by omega), if_pos low]
      exact isNearestDouble_zero low
    · obtain ⟨n, opposite⟩ := Int.eq_ofNat_of_zero_le (by omega : 0 ≤ -e)
      obtain rfl : e = -n := by omega
      exact (isRoundingOf_ten_zpow hm (by omega) (by omega)).isNearestDouble
  · obtain ⟨n, rfl⟩ := Int.eq_ofNat_of_zero_le natural
    rw [zpow_natCast]
    rcases le_or_gt n 2048 with inside | high
    · have rounding := isRoundingOf_ten_pow hm.ne' n
      rw [← ofScientific_eq hm.ne' inside] at rounding
      exact rounding.isNearestDouble
    · rw [ofScientific_binary64 hm, if_pos (by omega)]
      exact isNearestDouble_infinity hm high

theorem unpack_ofScientific_zero (negative : Bool) (n : Nat) :
    (Float.ofScientific 0 negative n).toModel.unpack = .zero .positive := by
  by_cases table : n ≤ 22
  · obtain ⟨k, e, hk, power, -⟩ := unpack_table ⟨n, by omega⟩
    have zero : (0 : Nat).toUInt64.toFloat.toModel.unpack = .zero .positive := rfl
    have converted := ofScientific_of_lt (m := 0) (by decide) negative ⟨n, by omega⟩
    dsimp only at converted
    rw [converted]
    split_ifs
    · rw [unpack_div, zero, power]
      rfl
    · rw [unpack_mul, zero, power]
      rfl
  · rw [ofScientific_of_not fun both => table both.2]
    unfold Float.Model.ofScientific UnpackedFloat.ofScientific
    rw [dif_pos rfl]
    rfl

/-- A double is made of a decimal number by one rounding. -/
theorem isNearestDouble_ofScientific (m : Nat) (negative : Bool) (n : Nat) :
    IsNearestDouble .positive (m * 10 ^ (if negative then -n else n : Int))
      (Float.ofScientific m negative n) := by
  rcases Nat.eq_zero_or_pos m with rfl | hm
  · rw [Nat.cast_zero, zero_mul]
    refine ⟨.zero .positive, isNearest_zero le_rfl (zpow_pos two_pos _).le, ?_⟩
    rw [unpack_ofScientific_zero]
    rfl
  by_cases small : m < 2 ^ 53 ∧ n ≤ 22
  · exact isNearestDouble_ofScientific_of_lt hm small.1 negative ⟨n, by omega⟩
  · rw [ofScientific_of_not small]
    exact isNearestDouble_ofModel hm _

theorem isNearestDouble_ofDecimal (negative : Bool) (m : Nat) (e : Int) :
    IsNearestDouble (if negative then .negative else .positive) (m * 10 ^ e)
      (ofDecimal negative m e) := by
  have exponent : (if decide (e < 0) then -(e.natAbs : Int) else e.natAbs) = e := by
    simp only [decide_eq_true_eq]
    omega
  have nearest := isNearestDouble_ofScientific m (e < 0) e.natAbs
  rw [exponent] at nearest
  cases negative with
  | false => exact nearest
  | true => exact nearest.neg

end Binary64

/-! ## Numerals -/

namespace Literal

open Binary64 hiding abs_neg one_mul

/-- The double is the number that a numeral denotes, rounded under the sign that is written. -/
def Numeral.RoundsTo (n : Numeral) (x : Float) : Prop :=
  IsNearestDouble (if n.sign = some .minus then .negative else .positive) |n.number| x

/-- A numeral is read as the double nearest to the number that it denotes. -/
theorem Numeral.roundsTo_value (n : Numeral) : n.RoundsTo n.value := by
  have nearest := isNearestDouble_ofDecimal (n.sign = some .minus)
    (Whole.ofDigits (n.whole ++ n.fraction.getD []))
    (Exponent.value n.exponent - (n.fraction.getD []).length)
  have size : |n.number| = Whole.ofDigits (n.whole ++ n.fraction.getD []) *
      10 ^ (Exponent.value n.exponent - (n.fraction.getD []).length) := by
    have sign : |(if n.sign = some .minus then -1 else 1 : ℚ)| = 1 := by
      split_ifs
      · rw [abs_neg, abs_one]
      · exact abs_one
    rw [Numeral.number, abs_mul, abs_mul, sign, one_mul, Nat.abs_cast, abs_of_pos]
    exact zpow_pos (by norm_num) _
  simp only [decide_eq_true_eq] at nearest
  rwa [RoundsTo, size]

/-- It is read as that double and no other. -/
theorem Numeral.roundsTo_iff {n : Numeral} {x : Float} : n.RoundsTo x ↔ x = n.value := by
  constructor
  · intro h
    exact h.unique n.roundsTo_value
  · rintro rfl
    exact n.roundsTo_value

end Literal

end Metrology
