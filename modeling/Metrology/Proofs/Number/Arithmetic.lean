import Metrology.Proofs.Number.Rounding

/-!
# Arithmetic of doubles

Products and quotients of finite doubles are the rounded products and quotients of their values
(`isRoundingOf_mul`, `isRoundingOf_div`), in canonical form but for exponents that are too great
(`unpack_mul`, `unpack_div`).  The doubles of natural numbers and of decimal literals are rounded as well
(`unpack_ofNat`, `unpack_ofScientific`).
-/

open Float.Model (Format totalExponent UnpackedFloat)
open Float.Model.UnpackedFloat

namespace Metrology.Binary64

variable {s t : Sign} {m n : Nat} {e e' : Int}

/-! ## Products -/

section

variable {hm : 0 < m} {hn : 0 < n}

/-- The mantissas of a product have enough bits to round. -/
theorem enough_mul (h : IsCanonical (.finite s m e hm)) (h' : IsCanonical (.finite t n e' hn)) :
    e + e' ≤ Format.binary64.targetExponent (totalExponent (m * n) (e + e')) := by
  have log2 : m.log2 + n.log2 ≤ (m * n).log2 := by
    rw [Nat.le_log2 (Nat.mul_pos hm hn).ne', pow_add]
    exact Nat.mul_le_mul (Nat.log2_self_le hm.ne') (Nat.log2_self_le hn.ne')
  have h : Format.binary64.targetExponent (totalExponent m e) = e := h
  have h' : Format.binary64.targetExponent (totalExponent n e') = e' := h'
  rw [targetExponent_eq] at h h' ⊢
  omega

theorem isRoundingOf_mul (h : IsCanonical (.finite s m e hm))
    (h' : IsCanonical (.finite t n e' hn)) :
    IsRoundingOf (s * t) ((m : ℚ) * 2 ^ e * (n * 2 ^ e'))
      (UnpackedFloat.mul Format.binary64 (.finite s m e hm) (.finite t n e' hn)) := by
  have exact : Represents (.ofMantissaAndAccuracy (m * n) .exact) ((m * n : Nat) : ℚ) := rfl
  have rounding := IsRoundingOf.intro (s := s * t) (enough_mul h h') exact
  have product : ((m * n : Nat) : ℚ) * 2 ^ (e + e') = m * 2 ^ e * (n * 2 ^ e') := by
    rw [zpow_add₀ two_ne_zero, Nat.cast_mul]
    ring
  rwa [product] at rounding

theorem rounds_mul (h : IsCanonical (.finite s m e hm)) (h' : IsCanonical (.finite t n e' hn)) :
    Rounds (s * t) ((m : ℚ) * 2 ^ e * (n * 2 ^ e'))
      (UnpackedFloat.mul Format.binary64 (.finite s m e hm) (.finite t n e' hn)) :=
  (isRoundingOf_mul h h').rounds

end

/-! ## Quotients -/

theorem represents_accuracyOfFraction (q : Nat) {r d : Nat} (hr : r < d) :
    Represents (.ofMantissaAndAccuracy q (accuracyOfFraction r d)) (q + r / d) := by
  have positive : (0 : ℚ) < d := by exact_mod_cast Nat.zero_lt_of_lt hr
  unfold accuracyOfFraction
  split_ifs with zero
  · rw [zero, Nat.cast_zero, zero_div, add_zero]
    rfl
  have nonzero : (0 : ℚ) < r := by exact_mod_cast Nat.pos_of_ne_zero zero
  have fraction : (0 : ℚ) < r / d := div_pos nonzero positive
  cases side : compare (2 * r) d with
  | lt =>
    have below : ((2 * r : Nat) : ℚ) < d := by exact_mod_cast Nat.compare_eq_lt.1 side
    push_cast at below
    have half : (r : ℚ) / d < 1 / 2 := by
      rw [div_lt_div_iff₀ positive two_pos]
      linarith
    exact ⟨by linarith, by linarith⟩
  | eq =>
    have same : ((2 * r : Nat) : ℚ) = d := by exact_mod_cast Nat.compare_eq_eq.1 side
    push_cast at same
    have half : (r : ℚ) / d = 1 / 2 := by
      rw [div_eq_div_iff positive.ne' two_ne_zero]
      linarith
    exact congrArg ((q : ℚ) + ·) half
  | gt =>
    have above : (d : ℚ) < ((2 * r : Nat) : ℚ) := by exact_mod_cast Nat.compare_eq_gt.1 side
    push_cast at above
    have half : (1 : ℚ) / 2 < r / d := by
      rw [div_lt_div_iff₀ two_pos positive]
      linarith
    have whole : (r : ℚ) / d < 1 := by
      rw [div_lt_one positive]
      exact_mod_cast hr
    exact ⟨by linarith, by linarith⟩

/-- The exponent of a quotient before it is rounded. -/
def quotientExponent (m : Nat) (e : Int) (n : Nat) (e' : Int) : Int :=
  min (e - e') (Format.binary64.targetExponent (totalExponent m e - totalExponent n e'))

theorem quotientExponent_eq (m : Nat) (e : Int) (n : Nat) (e' : Int) :
    quotientExponent m e n e' =
      min (e - e') (max ((m.log2 : Int) + e - (n.log2 + e') - 53) (-1074)) := by
  change min (e - e') (max ((m.log2 : Int) + 1 + e - (n.log2 + 1 + e') - 53) (-1074)) = _
  omega

/-- The quotient of the mantissas has enough bits to round. -/
theorem enough_div (hm : 0 < m) (hn : 0 < n) {k : Nat}
    (shift : e - e' - quotientExponent m e n e' = k) :
    quotientExponent m e n e' ≤ Format.binary64.targetExponent
      (totalExponent ((m <<< k) / n) (quotientExponent m e n e')) := by
  rw [targetExponent_eq]
  rw [quotientExponent_eq] at shift ⊢
  by_cases least : (m.log2 : Int) + e - (n.log2 + e') - 53 ≤ -1074
  · omega
  · have bits : n.log2 + 1 + 52 ≤ m.log2 + k := by omega
    have log2 : 52 ≤ ((m <<< k) / n).log2 := by
      have full : 2 ^ 52 ≤ (m <<< k) / n := by
        rw [Nat.le_div_iff_mul_le hn, Nat.shiftLeft_eq]
        calc 2 ^ 52 * n ≤ 2 ^ 52 * 2 ^ (n.log2 + 1) := Nat.mul_le_mul_left _ Nat.lt_log2_self.le
          _ ≤ 2 ^ (m.log2 + k) := by
            rw [← pow_add]
            exact Nat.pow_le_pow_right two_pos (by omega)
          _ ≤ m * 2 ^ k := by
            rw [pow_add]
            exact Nat.mul_le_mul_right _ (Nat.log2_self_le hm.ne')
      exact (Nat.le_log2 (by omega)).2 full
    omega

theorem isRoundingOf_div {hm : 0 < m} {hn : 0 < n} :
    IsRoundingOf (s / t) ((m : ℚ) * 2 ^ e / (n * 2 ^ e'))
      (UnpackedFloat.div Format.binary64 (.finite s m e hm) (.finite t n e' hn)) := by
  have below : quotientExponent m e n e' ≤ e - e' := min_le_left _ _
  obtain ⟨k, shift⟩ := Int.eq_ofNat_of_zero_le (Int.sub_nonneg.2 below)
  have rounding := IsRoundingOf.intro (s := s / t) (enough_div hm hn shift)
    (represents_accuracyOfFraction ((m <<< k) / n) (Nat.mod_lt (m <<< k) hn))
  have unpacked : UnpackedFloat.div Format.binary64 (.finite s m e hm) (.finite t n e' hn) =
      roundWithAccuracy Format.binary64 (s / t) ((m <<< k) / n) (quotientExponent m e n e')
        (accuracyOfFraction ((m <<< k) % n) n) := by
    have amount : (e - e' - quotientExponent m e n e').toNat = k := by
      rw [shift, Int.toNat_natCast]
    rw [← amount]
    rfl
  have quotient : ((m <<< k / n : Nat) + ((m <<< k % n : Nat) : ℚ) / n) * 2 ^ quotientExponent m e n e' =
      (m : ℚ) * 2 ^ e / (n * 2 ^ e') := by
    have nonzero : (n : ℚ) ≠ 0 := by exact_mod_cast hn.ne'
    have whole : (n : ℚ) * (m <<< k / n : Nat) + (m <<< k % n : Nat) = m * 2 ^ k := by
      have := Nat.div_add_mod (m <<< k) n
      rw [Nat.shiftLeft_eq] at this ⊢
      exact_mod_cast this
    have power : (2 : ℚ) ^ k * 2 ^ quotientExponent m e n e' = 2 ^ e / 2 ^ e' := by
      rw [← zpow_sub₀ two_ne_zero, ← zpow_natCast, ← zpow_add₀ two_ne_zero, ← shift, sub_add_cancel]
    calc _ = (n * (m <<< k / n : Nat) + (m <<< k % n : Nat)) / (n : ℚ) *
          2 ^ quotientExponent m e n e' := by field_simp
      _ = m / n * (2 ^ k * 2 ^ quotientExponent m e n e') := by rw [whole]; ring
      _ = _ := by rw [power]; ring
  rwa [quotient, ← unpacked] at rounding

theorem rounds_div {hm : 0 < m} {hn : 0 < n} : Rounds (s / t) ((m : ℚ) * 2 ^ e / (n * 2 ^ e'))
    (UnpackedFloat.div Format.binary64 (.finite s m e hm) (.finite t n e' hn)) :=
  isRoundingOf_div.rounds

/-! ## Whole numbers -/

/-- A whole number of at most 53 bits is rounded to itself. -/
theorem round_natCast (hn : 0 < n) (small : n < 2 ^ 53) :
    Float.Model.UnpackedFloat.round Format.binary64 .positive n 0 =
      .finite .positive (2 ^ (52 - n.log2) * n) (n.log2 - 52)
        (Nat.mul_pos (Nat.two_pow_pos _) hn) := by
  have bits : n.log2 ≤ 52 := Nat.le_of_lt_succ ((Nat.log2_lt hn.ne').2 small)
  have target : Format.binary64.targetExponent (totalExponent n 0) = n.log2 - 52 := by
    rw [targetExponent_eq]
    omega
  have shift : (0 - ((n.log2 : Int) - 52)).toNat = 52 - n.log2 := by omega
  have exponent : (0 : Int) - (52 - n.log2 : Nat) = n.log2 - 52 := by omega
  have full : Format.binary64.targetExponent
      (totalExponent (2 ^ (52 - n.log2) * n) (n.log2 - 52)) = n.log2 - 52 := by
    rw [targetExponent_eq, log2_two_pow_mul _ hn]
    omega
  unfold Float.Model.UnpackedFloat.round decreaseExponent
  dsimp only
  rw [target, shift, exponent, Nat.shiftLeft_eq, Nat.mul_comm]
  have rounded := roundWithAccuracy_two_pow_mul .positive (Nat.mul_pos (Nat.two_pow_pos _) hn) 0 full
  rwa [pow_zero, Nat.one_mul, Nat.cast_zero, sub_zero] at rounded

theorem size_round_natCast (bits : n.log2 ≤ 52) :
    ((2 ^ (52 - n.log2) * n : Nat) : ℚ) * 2 ^ ((n.log2 : Int) - 52) = n := by
  have exponent : (n.log2 : Int) - 52 = -((52 - n.log2 : Nat) : Int) := by omega
  rw [exponent, zpow_neg, zpow_natCast, Nat.cast_mul, Nat.cast_pow, Nat.cast_two, mul_comm,
    inv_mul_cancel_left₀ (by positivity)]

/-! ## Doubles -/

theorem isCanonical_mul {f g : UnpackedFloat} (h : IsCanonical f) (h' : IsCanonical g) :
    IsCanonical (UnpackedFloat.mul Format.binary64 f g) := by
  cases f <;> cases g
  case finite.finite => exact (rounds_mul h h').canonical
  all_goals trivial

theorem isCanonical_div (f g : UnpackedFloat) :
    IsCanonical (UnpackedFloat.div Format.binary64 f g) := by
  cases f <;> cases g
  case finite.finite => exact rounds_div.canonical
  all_goals trivial

variable (x y : Float)

theorem unpack_mul : (x * y).toModel.unpack =
    saturate (UnpackedFloat.mul Format.binary64 x.toModel.unpack y.toModel.unpack) :=
  unpack_pack (isCanonical_mul (isCanonical_unpack _) (isCanonical_unpack _))

theorem unpack_div : (x / y).toModel.unpack =
    saturate (UnpackedFloat.div Format.binary64 x.toModel.unpack y.toModel.unpack) :=
  unpack_pack (isCanonical_div _ _)

theorem isCanonical_neg {f : UnpackedFloat} (h : IsCanonical f) : IsCanonical f.neg := by
  cases f <;> exact h

theorem saturate_neg (f : UnpackedFloat) : saturate f.neg = (saturate f).neg := by
  cases f with
  | finite s m e hm =>
    unfold UnpackedFloat.neg saturate
    dsimp only
    split_ifs <;> rfl
  | _ => rfl

theorem unpack_neg : (-x).toModel.unpack = x.toModel.unpack.neg := by
  have packed : (-x).toModel.unpack = saturate x.toModel.unpack.neg :=
    unpack_pack (isCanonical_neg (isCanonical_unpack _))
  have kept : saturate x.toModel.unpack = x.toModel.unpack := saturate_unpack _
  rw [packed, saturate_neg, kept]

/-- A product with one keeps the other factor. -/
theorem unpack_mul_one {y : Float} (one : y.toModel.unpack = (1 : Float).toModel.unpack) :
    (x * y).toModel.unpack = x.toModel.unpack := by
  have canonical : IsCanonical x.toModel.unpack := isCanonical_unpack _
  have kept : saturate x.toModel.unpack = x.toModel.unpack := saturate_unpack _
  have product {f : UnpackedFloat} (h : IsCanonical f) :
      UnpackedFloat.mul Format.binary64 f (.finite .positive (2 ^ 52) (-52) (by decide)) = f := by
    cases f with
    | notANumber => rfl
    | infinity s => cases s <;> rfl
    | zero s => cases s <;> rfl
    | finite s m e hm =>
      have sign : s * Sign.positive = s := by cases s <;> rfl
      rw [UnpackedFloat.mul, sign, Nat.mul_comm, ← sub_eq_add_neg]
      exact roundWithAccuracy_two_pow_mul s hm 52 h
  rw [unpack_mul, one, unpack_one, product canonical, kept]

/-! ## Doubles of whole numbers -/

theorem ofNat_of_lt (small : n < 2 ^ 53) :
    Float.ofNat n = n.toUInt64.toFloat * Float.ofBits 0x3FF0000000000000 := by
  change Float.ofScientific n false 0 = _
  unfold Float.ofScientific
  rw [dif_pos ⟨small, by decide⟩]
  rfl

/-- The word of a whole number of at most 53 bits is converted to that number. -/
theorem unpack_toFloat (hn : 0 < n) (small : n < 2 ^ 53) : n.toUInt64.toFloat.toModel.unpack =
    .finite .positive (2 ^ (52 - n.log2) * n) (n.log2 - 52) (Nat.mul_pos (Nat.two_pow_pos _) hn) := by
  have bits : n.log2 ≤ 52 := Nat.le_of_lt_succ ((Nat.log2_lt hn.ne').2 small)
  have word : n.toUInt64.toNat = n := by
    rw [Nat.toUInt64, UInt64.toNat_ofNat']
    omega
  have normalized : UnpackedFloat.ofUInt64 Format.binary64 n.toUInt64 =
      Float.Model.UnpackedFloat.round Format.binary64 .positive n 0 := by
    unfold UnpackedFloat.ofUInt64 UnpackedFloat.ofNat UnpackedFloat.ofInt UnpackedFloat.normalize
    rw [word, Int.compare_eq_gt.2 (by omega)]
    rfl
  have canonical : Format.binary64.targetExponent
      (totalExponent (2 ^ (52 - n.log2) * n) (n.log2 - 52)) = n.log2 - 52 := by
    rw [targetExponent_eq, log2_two_pow_mul _ hn]
    omega
  change unpack Format.binary64
    (pack Format.binary64 (UnpackedFloat.ofUInt64 Format.binary64 n.toUInt64)) = _
  rw [normalized, round_natCast hn small]
  exact unpack_pack_finite canonical (by omega)

/-- A whole number of at most 53 bits is a double. -/
theorem unpack_ofNat (hn : 0 < n) (small : n < 2 ^ 53) : (Float.ofNat n).toModel.unpack =
    .finite .positive (2 ^ (52 - n.log2) * n) (n.log2 - 52) (Nat.mul_pos (Nat.two_pow_pos _) hn) := by
  have one : (Float.ofBits 0x3FF0000000000000).toModel.unpack = (1 : Float).toModel.unpack := rfl
  rw [ofNat_of_lt small, unpack_mul_one _ one]
  exact unpack_toFloat hn small

/-- A decimal number is an infinity or zero if its exponent is out of range, and otherwise a product
or a quotient with a power of ten. -/
theorem ofScientific_binary64 (hm : 0 < m) (e : Int) :
    UnpackedFloat.ofScientific Format.binary64 m e =
      if 2048 < e then .infinity .positive
      else if e < -(2048 + m.log2) then .zero .positive
      else if 0 ≤ e then
        UnpackedFloat.mul Format.binary64
          (.finite .positive (m <<< 53) (-53) (Nat.shiftLeft_eq m 53 ▸ by positivity))
          (.finite .positive (10 ^ e.toNat) 0 (Nat.pow_pos (by decide)))
      else
        UnpackedFloat.div Format.binary64 (.finite .positive m 0 hm)
          (.finite .positive (10 ^ (-e).toNat) 0 (Nat.pow_pos (by decide))) := by
  unfold UnpackedFloat.ofScientific
  rw [dif_neg hm.ne']
  rfl

theorem ofScientific_eq (nonzero : m ≠ 0) (small : n ≤ 2048) :
    UnpackedFloat.ofScientific Format.binary64 m (Int.ofNat n) =
      roundWithAccuracy Format.binary64 .positive (2 ^ 53 * m * 10 ^ n) (-53) .exact := by
  have low : ¬ (Int.ofNat n : Int) < -(2048 + m.log2) := by
    change ¬ (n : Int) < _
    omega
  have high : ¬ 2048 < (Int.ofNat n : Int) := by
    change ¬ 2048 < (n : Int)
    omega
  have natural : 0 ≤ Int.ofNat n := Int.natCast_nonneg n
  have mantissa : m <<< 53 * 10 ^ (Int.ofNat n).toNat = 2 ^ 53 * m * 10 ^ n := by
    rw [Nat.shiftLeft_eq, Nat.mul_comm m]
    rfl
  rw [ofScientific_binary64 (Nat.pos_of_ne_zero nonzero), if_neg high, if_neg low, if_pos natural,
    UnpackedFloat.mul, mantissa]
  rfl

/-- A decimal number that is a whole number is rounded from a mantissa with 53 bits more. -/
theorem isRoundingOf_ten_pow (nonzero : m ≠ 0) (n : Nat) : IsRoundingOf .positive (m * 10 ^ n)
    (roundWithAccuracy Format.binary64 .positive (2 ^ 53 * m * 10 ^ n) (-53) .exact) := by
  have enough : (-53 : Int) ≤
      Format.binary64.targetExponent (totalExponent (2 ^ 53 * m * 10 ^ n) (-53)) := by
    rw [targetExponent_eq, Nat.mul_assoc, log2_two_pow_mul _ (by positivity)]
    omega
  have exact : Represents (.ofMantissaAndAccuracy (2 ^ 53 * m * 10 ^ n) .exact)
      ((2 ^ 53 * m * 10 ^ n : Nat) : ℚ) := rfl
  have rounding := IsRoundingOf.intro (s := .positive) enough exact
  have value : ((2 ^ 53 * m * 10 ^ n : Nat) : ℚ) * 2 ^ (-53 : Int) = m * 10 ^ n := by
    rw [Nat.mul_assoc, Nat.cast_mul, Nat.cast_pow, Nat.cast_two, zpow_neg, mul_comm]
    exact (inv_mul_cancel_left₀ (by norm_num) _).trans (by push_cast; rfl)
  rwa [value] at rounding

/-- A decimal number that is a whole number is rounded. -/
theorem unpack_ofScientific (nonzero : m ≠ 0) (small : n ≤ 2048) : ∃ f,
    Rounds .positive (m * 10 ^ n) f ∧
      (Float.Model.ofScientific m (Int.ofNat n)).unpack = saturate f := by
  have rounds := (isRoundingOf_ten_pow nonzero n).rounds
  rw [← ofScientific_eq nonzero small] at rounds
  exact ⟨_, rounds, unpack_pack rounds.canonical⟩

/-- Unless mantissa and exponent are small, a double is made of a decimal number by rounding it. -/
theorem ofScientific_of_not (great : ¬ (m < 2 ^ 53 ∧ n ≤ 22)) (negative : Bool) :
    Float.ofScientific m negative n =
      .ofModel (Float.Model.ofScientific m (if negative then -n else n : Int)) := by
  unfold Float.ofScientific
  rw [dif_neg great]
  cases negative <;> rfl

/-- A greater whole number is rounded. -/
theorem unpack_ofNat_of_le (great : 2 ^ 53 ≤ n) :
    ∃ f, Rounds .positive n f ∧ (Float.ofNat n).toModel.unpack = saturate f := by
  have converted : Float.ofNat n = .ofModel (Float.Model.ofScientific n (Int.ofNat 0)) :=
    ofScientific_of_not (fun small => Nat.not_lt.2 great small.1) false
  obtain ⟨f, rounds, unpacked⟩ := unpack_ofScientific (by omega : n ≠ 0) (Nat.zero_le 2048)
  rw [pow_zero, mul_one] at rounds
  rw [converted]
  exact ⟨f, rounds, unpacked⟩

end Metrology.Binary64
