import Metrology.Proofs.Number.Packing

/-!
# Rounding

A mantissa with its two residual bits stands for a number between it and the next one
(`Represents`), and shifting it by a bit halves that number.  So rounding a mantissa errs by at most
one half in its last place, which for the number as a whole is `2 ^ -53` of it, or `2 ^ -1075` where
the exponent is the least one (`IsRoundingOf.rounds`).
-/

open Float.Model (Format totalExponent UnpackedFloat)
open Float.Model.UnpackedFloat

namespace Metrology.Binary64

/-! ## Residual bits -/

/-- The number that a mantissa with its residual bits stands for. -/
def Represents : ExtendedMantissa → ℚ → Prop
  | ⟨m, false, false⟩, r => r = m
  | ⟨m, false, true⟩, r => m < r ∧ r < m + 1 / 2
  | ⟨m, true, false⟩, r => r = m + 1 / 2
  | ⟨m, true, true⟩, r => m + 1 / 2 < r ∧ r < m + 1

variable {em : ExtendedMantissa} {r : ℚ}

theorem Represents.between (h : Represents em r) : (em.mantissa : ℚ) ≤ r ∧ r < em.mantissa + 1 := by
  obtain ⟨m, round, sticky⟩ := em
  cases round <;> cases sticky <;> simp only [Represents] at h ⊢ <;> constructor <;> linarith

theorem Represents.abs_rounded_sub_le (h : Represents em r) :
    |(em.roundedMantissa : ℚ) - r| ≤ 1 / 2 := by
  obtain ⟨m, round, sticky⟩ := em
  have parity : m % 2 ≤ 1 := by omega
  have parity' : ((m % 2 : Nat) : ℚ) ≤ 1 := by exact_mod_cast parity
  have parity_nonneg : (0 : ℚ) ≤ ((m % 2 : Nat) : ℚ) := Nat.cast_nonneg _
  rw [abs_le]
  cases round <;> cases sticky <;>
    simp only [Represents, ExtendedMantissa.roundedMantissa, ExtendedMantissa.accuracy,
      Accuracy.roundToNearestEven, Nat.cast_add, Nat.cast_one] at h ⊢ <;>
    constructor <;> linarith

theorem mantissa_le_rounded (em : ExtendedMantissa) :
    em.mantissa ≤ em.roundedMantissa ∧ em.roundedMantissa ≤ em.mantissa + 1 := by
  obtain ⟨m, round, sticky⟩ := em
  cases round <;> cases sticky <;>
    simp only [ExtendedMantissa.roundedMantissa, ExtendedMantissa.accuracy,
      Accuracy.roundToNearestEven] <;> omega

/-- Shifting by a bit halves the number, and no information for rounding is lost. -/
theorem Represents.shiftRightOne (h : Represents em r) : Represents em.shiftRightOne (r / 2) := by
  obtain ⟨m, round, sticky⟩ := em
  have split : ((m % 2 : Nat) : ℚ) + 2 * ((m / 2 : Nat) : ℚ) = m := by
    exact_mod_cast Nat.mod_add_div m 2
  rcases Nat.mod_two_eq_zero_or_one m with even | odd
  · have shifted : ExtendedMantissa.shiftRightOne ⟨m, round, sticky⟩ =
        ⟨m / 2, false, round || sticky⟩ := by
      simp [ExtendedMantissa.shiftRightOne, even]
    rw [even, Nat.cast_zero] at split
    rw [shifted]
    cases round <;> cases sticky <;> simp only [Represents, Bool.or_self, Bool.or_true,
      Bool.or_false] at h ⊢ <;> (try constructor) <;> linarith
  · have shifted : ExtendedMantissa.shiftRightOne ⟨m, round, sticky⟩ =
        ⟨m / 2, true, round || sticky⟩ := by
      simp [ExtendedMantissa.shiftRightOne, odd]
    rw [odd, Nat.cast_one] at split
    rw [shifted]
    cases round <;> cases sticky <;> simp only [Represents, Bool.or_self, Bool.or_true,
      Bool.or_false] at h ⊢ <;> (try constructor) <;> linarith

theorem Represents.shiftRight (h : Represents em r) (k : Nat) :
    Represents (em >>> k) (r / 2 ^ k) := by
  change Represents (k.repeat ExtendedMantissa.shiftRightOne em) _
  induction k with
  | zero => rwa [pow_zero, div_one]
  | succ k ih =>
    rw [pow_succ, ← div_div]
    exact ih.shiftRightOne

/-! ## Rounding a mantissa -/

/-- The exponent that rounding aims at. -/
theorem targetExponent_eq (m : Nat) (e : Int) :
    Format.binary64.targetExponent (totalExponent m e) = max (m.log2 + e - 52) (-1074) := by
  change max ((m.log2 : Int) + 1 + e - 53) (-1074) = _
  omega

/-- The absolute value of a finite double, and zero for the others. -/
def size : UnpackedFloat → ℚ
  | .finite _ m e _ => m * 2 ^ e
  | _ => 0

theorem size_nonneg (f : UnpackedFloat) : 0 ≤ size f := by
  cases f with
  | finite s m e hm => exact mul_nonneg (Nat.cast_nonneg m) (zpow_pos two_pos e).le
  | _ => exact le_rfl

variable {s : Sign} {m : Nat} {e : Int} {a : Accuracy}

/-- A mantissa of 53 bits is less than one that is filled, with a greater exponent. -/
theorem mul_two_zpow_lt {t : Int} (bits : m < 2 ^ 53) (lt : e < t) :
    (m : ℚ) * 2 ^ e < 2 ^ 52 * 2 ^ t := by
  have bits : (m : ℚ) < 2 ^ 53 := by exact_mod_cast bits
  calc (m : ℚ) * 2 ^ e < 2 ^ 53 * 2 ^ e := mul_lt_mul_of_pos_right bits (zpow_pos two_pos e)
    _ = 2 ^ 52 * 2 ^ (e + 1) := by rw [zpow_add_one₀ two_ne_zero]; ring
    _ ≤ 2 ^ 52 * 2 ^ t := by gcongr; exacts [one_le_two, lt]

/-- A canonical mantissa is not shifted. -/
theorem shiftToTargetExponent_of_lt (small : m < 2 ^ 53) (least : -1074 ≤ e) :
    shiftToTargetExponent Format.binary64 m e .exact = (⟨m, false, false⟩, e) := by
  have log2 : m.log2 ≤ 52 := by
    by_cases zero : m = 0
    · rw [zero, Nat.log2_zero]
      omega
    · exact Nat.le_of_lt_succ ((Nat.log2_lt zero).2 small)
  have still : (Format.binary64.targetExponent (totalExponent m e) - e).toNat = 0 := by
    rw [targetExponent_eq]
    omega
  unfold shiftToTargetExponent shiftToExponent
  dsimp only
  rw [still, Nat.cast_zero, Int.add_zero]
  rfl

/-- A mantissa that rounding filled up takes one bit more, and is shifted by it. -/
theorem shiftToTargetExponent_two_pow (least : -1074 ≤ e) :
    shiftToTargetExponent Format.binary64 (2 ^ 53) e .exact = (⟨2 ^ 52, false, false⟩, e + 1) := by
  have once : (Format.binary64.targetExponent (totalExponent (2 ^ 53) e) - e).toNat = 1 := by
    rw [targetExponent_eq, Nat.log2_two_pow]
    omega
  unfold shiftToTargetExponent shiftToExponent
  dsimp only
  rw [once]
  rfl

/-- What rounding the number `z` leaves under the sign `s`: zero, or a finite double in canonical
form, so near to the number as its place in the range of doubles allows. -/
structure Rounds (s : Sign) (z : ℚ) (f : UnpackedFloat) : Prop where
  kind : f = .zero s ∨ ∃ m e hm, f = .finite s m e hm
  canonical : IsCanonical f
  error : |size f - z| ≤ max (z / 2 ^ 53) (2 ^ (-1075 : Int))

theorem Represents.rounded_le (h : Represents em r) (below : r < 2 ^ 53) :
    em.roundedMantissa ≤ 2 ^ 53 := by
  have lt : em.mantissa < 2 ^ 53 := by exact_mod_cast h.between.1.trans_lt below
  exact (mantissa_le_rounded em).2.trans lt

theorem Represents.le_rounded (h : Represents em r) (above : 2 ^ 52 ≤ r) :
    2 ^ 52 ≤ em.roundedMantissa := by
  have lt : 2 ^ 52 < em.mantissa + 1 := by exact_mod_cast above.trans_lt h.between.2
  exact (Nat.le_of_lt_succ lt).trans (mantissa_le_rounded em).1

/-- The number `z` in units of the last place of its mantissa: it is `u` units of `2 ^ t`, and `em`
stands for them.  They fill the mantissa, unless the exponent is the least one. -/
structure InUnits (z : ℚ) (em : ExtendedMantissa) (t : Int) (u : ℚ) : Prop where
  mul_eq : u * 2 ^ t = z
  represents : Represents em u
  lt : u < 2 ^ 53
  least : -1074 ≤ t
  full : 2 ^ 52 ≤ u ∨ t = -1074

/-- The double of a rounded mantissa.  One that is rounded up to one bit more is shifted by it. -/
def assemble (s : Sign) (em : ExtendedMantissa) (t : Int) : UnpackedFloat :=
  if h : em.roundedMantissa = 0 then .zero s
  else if em.roundedMantissa < 2 ^ 53 then
    .finite s em.roundedMantissa t (Nat.pos_of_ne_zero h)
  else .finite s (2 ^ 52) (t + 1) (by decide)

theorem roundWithAccuracy_eq {t : Int} (least : -1074 ≤ t) (bits : em.roundedMantissa ≤ 2 ^ 53)
    (first : shiftToTargetExponent Format.binary64 m e a = (em, t)) :
    roundWithAccuracy Format.binary64 s m e a = assemble s em t := by
  unfold roundWithAccuracy assemble
  rw [first]
  dsimp only
  by_cases zero : em.roundedMantissa = 0
  · simp only [zero, shiftToTargetExponent_of_lt (m := 0) (by decide) least, dite_true]
  · by_cases small : em.roundedMantissa < 2 ^ 53
    · simp only [shiftToTargetExponent_of_lt small least, zero, small, dite_false, if_true]
    · obtain filled : em.roundedMantissa = 2 ^ 53 := by omega
      simp only [filled, shiftToTargetExponent_two_pow least]
      rfl

/-- A number is as many units of the exponent that rounding aims at as fit into a mantissa, and
fills it unless the exponent is the least one. -/
theorem units_lt (h : r < m + 1) {k : Nat}
    (shift : Format.binary64.targetExponent (totalExponent m e) - e = k) : r / 2 ^ k < 2 ^ 53 := by
  rw [targetExponent_eq] at shift
  have log2 : m.log2 + 1 ≤ 53 + k := by omega
  have below : (m : ℚ) + 1 ≤ 2 ^ (m.log2 + 1) := by exact_mod_cast Nat.lt_log2_self
  rw [div_lt_iff₀ (by positivity), ← pow_add]
  exact (h.trans_le below).trans_le (pow_le_pow_right₀ one_le_two log2)

theorem le_units (h : (m : ℚ) ≤ r) {k : Nat}
    (shift : Format.binary64.targetExponent (totalExponent m e) - e = k)
    (above : -1074 < Format.binary64.targetExponent (totalExponent m e)) : 2 ^ 52 ≤ r / 2 ^ k := by
  rw [targetExponent_eq] at shift above
  have log2 : 52 + k = m.log2 := by omega
  have nonzero : m ≠ 0 := by
    rintro rfl
    rw [Nat.log2_zero] at log2
    omega
  have first : (2 : ℚ) ^ m.log2 ≤ m := by exact_mod_cast Nat.log2_self_le nonzero
  rw [le_div_iff₀ (by positivity), ← pow_add, log2]
  exact first.trans h

theorem Represents.floor {r : ℚ} (h : Represents (.ofMantissaAndAccuracy m a) r) :
    (m : ℚ) ≤ r ∧ r < m + 1 := by
  have mantissa : (ExtendedMantissa.ofMantissaAndAccuracy m a).mantissa = m := by
    rcases a with _ | _ | _ | _ <;> rfl
  have between := h.between
  rwa [mantissa] at between

/-- Rounding a mantissa with enough bits counts the number in units of a last place, and rounds the
number of units. -/
theorem exists_inUnits (s : Sign)
    (enough : e ≤ Format.binary64.targetExponent (totalExponent m e))
    (h : Represents (.ofMantissaAndAccuracy m a) r) :
    ∃ em t u, InUnits (r * 2 ^ e) em t u ∧
      roundWithAccuracy Format.binary64 s m e a = assemble s em t := by
  obtain ⟨k, shift⟩ := Int.eq_ofNat_of_zero_le (Int.sub_nonneg.2 enough)
  have full := le_units h.floor.1 shift
  have lt := units_lt h.floor.2 shift
  have least : -1074 ≤ Format.binary64.targetExponent (totalExponent m e) := by
    rw [targetExponent_eq]
    omega
  have first : shiftToTargetExponent Format.binary64 m e a =
      (ExtendedMantissa.ofMantissaAndAccuracy m a >>> k,
        Format.binary64.targetExponent (totalExponent m e)) := by
    unfold shiftToTargetExponent shiftToExponent
    dsimp only
    rw [shift, Int.toNat_natCast, ← shift, add_sub_cancel]
  generalize Format.binary64.targetExponent (totalExponent m e) = t at *
  have power : r / 2 ^ k * 2 ^ t = r * 2 ^ e := by
    rw [← sub_add_cancel t e, shift, zpow_add₀ two_ne_zero, zpow_natCast]
    field_simp
  refine ⟨_, t, _, ⟨power, h.shiftRight k, lt, least, ?_⟩, ?_⟩
  · rcases least.lt_or_eq with above | same
    · exact .inl (full above)
    · exact .inr same.symm
  · exact roundWithAccuracy_eq least ((h.shiftRight k).rounded_le lt) first

/-! ## Rounded numbers -/

section

variable {z u : ℚ} {t : Int}

theorem size_assemble (bits : em.roundedMantissa ≤ 2 ^ 53) :
    size (assemble s em t) = em.roundedMantissa * 2 ^ t := by
  unfold assemble
  split_ifs with zero small
  · rw [zero, Nat.cast_zero, zero_mul]
    rfl
  · rfl
  · obtain top : em.roundedMantissa = 2 ^ 53 := by omega
    rw [top, size, zpow_add_one₀ two_ne_zero]
    push_cast
    ring

theorem InUnits.isCanonical (h : InUnits z em t u) : IsCanonical (assemble s em t) := by
  have least := h.least
  unfold assemble
  split_ifs with zero small
  · trivial
  · exact (isCanonical_iff _).2 ⟨small, least, h.full.imp_left h.represents.le_rounded⟩
  · exact (isCanonical_iff _).2 ⟨by decide, by omega, .inl le_rfl⟩

theorem InUnits.abs_sub (h : InUnits z em t u) (a : ℚ) : |a * 2 ^ t - z| = |a - u| * 2 ^ t := by
  have unit : (0 : ℚ) < 2 ^ t := zpow_pos two_pos t
  rw [← h.mul_eq, ← sub_mul, abs_mul, abs_of_pos unit]

theorem InUnits.abs_size_sub (h : InUnits z em t u) :
    |size (assemble s em t) - z| = |(em.roundedMantissa : ℚ) - u| * 2 ^ t := by
  rw [size_assemble (h.represents.rounded_le h.lt), h.abs_sub]

theorem InUnits.rounds (h : InUnits z em t u) : Rounds s z (assemble s em t) where
  kind := by
    unfold assemble
    split_ifs with zero small
    · exact .inl rfl
    · exact .inr ⟨_, _, Nat.pos_of_ne_zero zero, rfl⟩
    · exact .inr ⟨_, _, Nat.two_pow_pos _, rfl⟩
  canonical := h.isCanonical
  error := by
    have unit : (0 : ℚ) < 2 ^ t := zpow_pos two_pos t
    have half : |size (assemble s em t) - z| ≤ 2 ^ t / 2 := by
      rw [h.abs_size_sub]
      calc _ ≤ 1 / 2 * (2 : ℚ) ^ t :=
            mul_le_mul_of_nonneg_right h.represents.abs_rounded_sub_le unit.le
        _ = 2 ^ t / 2 := one_div_mul_eq_div 2 _
    refine half.trans ?_
    rcases h.full with full | rfl
    · refine le_max_of_le_left ?_
      rw [← h.mul_eq]
      calc (2 : ℚ) ^ t / 2 = 2 ^ 52 * 2 ^ t / 2 ^ 53 := by ring
        _ ≤ u * 2 ^ t / 2 ^ 53 := by gcongr
    · exact le_max_of_le_right (zpow_sub_one₀ two_ne_zero _).symm.le

end

/-- The number `z` under the sign `s` is rounded to `f`: from a mantissa with enough bits, and with
what they leave of the number. -/
inductive IsRoundingOf (s : Sign) : ℚ → UnpackedFloat → Prop where
  | intro {m : Nat} {e : Int} {a : Accuracy} {r : ℚ}
    (enough : e ≤ Format.binary64.targetExponent (totalExponent m e))
    (represents : Represents (.ofMantissaAndAccuracy m a) r) :
    IsRoundingOf s (r * 2 ^ e) (roundWithAccuracy Format.binary64 s m e a)

/-- Rounding comes as near to a number as the last place of its mantissa allows. -/
theorem IsRoundingOf.rounds {z : ℚ} {f : UnpackedFloat} (h : IsRoundingOf s z f) :
    Rounds s z f := by
  obtain ⟨enough, represents⟩ := h
  obtain ⟨em, t, u, units, rounded⟩ := exists_inUnits s enough represents
  rw [rounded]
  exact units.rounds

end Metrology.Binary64
