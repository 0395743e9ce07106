import Metrology.Proofs.Number.Recovery

/-!
# The values of doubles

The value of a double is its size with its sign.  A double stands for a real number as well as
doubles can, if it is on the same side of every double (`IsFaithful`).  Doubles near to whole
numbers have inverses that lie between zero and one (`value_inv_ofInt`, `zero_lt_inv_ofInt`).
-/

open Float.Model (Format UnpackedFloat)
open Float.Model.UnpackedFloat

namespace Metrology.Binary64

variable {x y b : Float} {n : Int} {k : Nat} {r : ℝ}

/-! ## Values -/

/-- The value of a finite double. -/
def value (x : Float) : ℚ :=
  match sign? x.toModel.unpack with
  | some .negative => -size x.toModel.unpack
  | _ => size x.toModel.unpack

theorem IsUnsigned.value_eq (h : IsUnsigned x) : value x = size x.toModel.unpack := by
  rw [IsUnsigned] at h
  rw [value, h]

theorem IsUnsigned.value_neg_nonpos (h : IsUnsigned x) : value (-x) ≤ 0 := by
  rw [IsUnsigned] at h
  have negated : Option.map (- ·) (some Sign.positive) = some Sign.negative := rfl
  rw [value, unpack_neg, sign?_neg, h, negated]
  exact neg_nonpos.2 (size_nonneg _)

theorem value_ofInt_nonneg (h : 0 ≤ n) : 0 ≤ value (Float.ofInt n) := by
  obtain ⟨k, rfl⟩ := Int.eq_ofNat_of_zero_le h
  have nonneg : 0 ≤ value (Float.ofNat k) := by
    rw [(isUnsigned_ofNat k).value_eq]
    exact size_nonneg _
  exact nonneg

theorem value_ofInt_nonpos (h : n ≤ 0) : value (Float.ofInt n) ≤ 0 := by
  cases n with
  | ofNat k =>
    obtain rfl : k = 0 := Nat.le_zero.1 (Int.ofNat_le.1 h)
    exact le_of_eq rfl
  | negSucc k => exact (isUnsigned_ofNat (k + 1)).value_neg_nonpos

/-- The size of a power of one half, which has the least mantissa with all its bits. -/
theorem size_inv_two_pow (k : Nat) {hm : 0 < 2 ^ 52}
    (unpacked : x.toModel.unpack = .finite .positive (2 ^ 52) (-52 - k) hm) :
    size x.toModel.unpack = 1 / 2 ^ k := by
  rw [unpacked, size, zpow_sub₀ two_ne_zero, zpow_natCast, ← mul_div_assoc]
  norm_num

theorem size_one : size (1 : Float).toModel.unpack = 1 := by
  rw [size_inv_two_pow 0 unpack_one, pow_zero, div_one]

/-! ## Faithful doubles -/

/-- The absolute value of the double is on the same side of every double as the real number. -/
def IsFaithful (z : Float) (r : ℝ) : Prop :=
  ∀ b, IsNonnegative b →
    (r ≤ (size b.toModel.unpack : ℝ) → z.abs ≤ b) ∧ ((size b.toModel.unpack : ℝ) ≤ r → b ≤ z.abs)

/-- The double nearest to a number that is a double is the number itself. -/
theorem isFaithful_size (h : IsNonnegative x.abs) :
    IsFaithful x (size x.abs.toModel.unpack : ℝ) := by
  intro b nonnegative
  constructor
  · intro le
    exact (le_iff_size_le h nonnegative).2 (by exact_mod_cast le)
  · intro le
    exact (le_iff_size_le nonnegative h).2 (by exact_mod_cast le)

theorem isFinite_of_abs_le (h : IsNonnegative b) (le : x.abs ≤ b) : x.isFinite = true := by
  have le : x.toModel.unpack.abs.le b.toModel.unpack = true := by
    rw [← unpack_abs]
    exact of_decide_eq_true le
  obtain ⟨unsigned, finite⟩ := h
  have finite : b.toModel.unpack.isFinite = true := finite
  rw [IsUnsigned] at unsigned
  change x.toModel.unpack.isFinite = true
  generalize x.toModel.unpack = f at *
  generalize b.toModel.unpack = g at *
  rcases g with t | _ | t | ⟨t, n, e', hn⟩ <;> cases unsigned <;> try cases finite
  all_goals rcases f with s | _ | s | ⟨s, m, e, hm⟩
  all_goals first | rfl | cases le

theorem isInf_of_isFinite (finite : x.isFinite = true) : x.isInf = false := by
  have finite : x.toModel.unpack.isFinite = true := finite
  change x.toModel.unpack.isInf = false
  generalize x.toModel.unpack = f at finite ⊢
  cases f <;> first | rfl | cases finite

theorem not_lt_of_nonneg (h : 0 ≤ x) : ¬ x < 0 := by
  have le : (UnpackedFloat.zero .positive).le x.toModel.unpack = true := of_decide_eq_true h
  rw [lt_zero_iff]
  generalize x.toModel.unpack = f at le ⊢
  rcases f with ⟨_ | _⟩ | _ | ⟨_ | _⟩ | ⟨_ | _, m, e, hm⟩ <;>
    first | simp [sign?]; done | cases le

/-! ## Whole numbers and their inverses -/

theorem eq_ofInt_of_ofWhole? (h : ofWhole? n = some y) :
    y = Float.ofInt n ∧ (Float.ofInt n).isFinite = true := by
  unfold ofWhole? at h
  dsimp only at h
  split_ifs at h with finite
  exact ⟨(Option.some.inj h).symm, finite⟩

theorem size_saturate_le (f : UnpackedFloat) : size (saturate f) ≤ size f := by
  cases f with
  | finite s m e hm =>
    rw [saturate]
    split_ifs
    · exact size_nonneg _
    · exact le_rfl
  | _ => exact le_rfl

/-- A double near to a whole number of two or more is two or more. -/
theorem two_le_size_ofNat (two : 2 ≤ k) (finite : (Float.ofNat k).isFinite = true) :
    IsPositive (Float.ofNat k) ∧ 2 ≤ size (Float.ofNat k).toModel.unpack := by
  have two : (2 : ℚ) ≤ k := by exact_mod_cast two
  rcases Nat.lt_or_ge k (2 ^ 53) with small | great
  · obtain ⟨positive, near⟩ := approximates_ofNat (by omega) small
    exact ⟨positive, by simpa using two.trans near.lower⟩
  · obtain ⟨f, rounds, unpacked⟩ := unpack_ofNat_of_le great
    have great : (2 : ℚ) ^ 53 ≤ k := by exact_mod_cast great
    have error : |size f - k| ≤ k / 2 ^ 53 := by
      refine rounds.error.trans (max_le le_rfl ?_)
      calc (2 : ℚ) ^ (-1075 : Int) ≤ 1 := zpow_le_one_of_nonpos₀ one_le_two (by norm_num)
        _ ≤ k / 2 ^ 53 := (one_le_div (by positivity)).2 great
    have great : 2 ≤ size f := by
      have below := (abs_le.1 error).1
      linarith
    obtain rfl | ⟨m, e, hm, rfl⟩ := rounds.kind
    · exact absurd great (by norm_num [size])
    have finite : (Float.ofNat k).toModel.unpack.isFinite = true := finite
    rw [unpacked, saturate] at finite
    rw [unpacked, saturate]
    split_ifs at finite ⊢
    · cases finite
    · exact ⟨⟨m, e, hm, by rw [unpacked, saturate, if_neg ‹_›]⟩, great⟩

theorem Rounds.size_le_one {s : Sign} {z : ℚ} {f : UnpackedFloat} (rounds : Rounds s z f)
    (half : z ≤ 1 / 2) : size f ≤ 1 := by
  have least : (2 : ℚ) ^ (-1075 : Int) ≤ 1 / 2 := by
    calc (2 : ℚ) ^ (-1075 : Int) ≤ 2 ^ (-1 : Int) := zpow_le_zpow_right₀ one_le_two (by norm_num)
      _ = 1 / 2 := by norm_num
  have error : max (z / 2 ^ 53) (2 ^ (-1075 : Int)) ≤ 1 / 2 := max_le (by linarith) least
  linarith [(abs_le.1 rounds.error).2]

/-- The inverse of a double near to a whole number above zero is between zero and one. -/
theorem value_inv_ofInt (one : 1 ≤ n) (finite : (Float.ofInt n).isFinite = true) :
    0 ≤ value (1 / Float.ofInt n) ∧ value (1 / Float.ofInt n) ≤ 1 := by
  obtain ⟨k, rfl⟩ := Int.eq_ofNat_of_zero_le (by omega : 0 ≤ n)
  rcases Nat.lt_or_ge k 2 with small | two
  · obtain rfl : k = 1 := by omega
    have inverse : 1 / Float.ofInt (1 : Nat) = 1 := by decide +kernel
    have value_one : value 1 = 1 := size_one
    rw [inverse, value_one]
    exact ⟨zero_le_one, le_rfl⟩
  · obtain ⟨positive, two⟩ := two_le_size_ofNat two finite
    have unsigned : IsUnsigned (1 / Float.ofInt k) := (isUnsigned_ofNat 1).div positive
    obtain ⟨m, e, hm, unpacked⟩ := positive
    have quotient : (1 / Float.ofInt k).toModel.unpack = saturate
        (UnpackedFloat.div Format.binary64 (.finite .positive (2 ^ 52) (-52) (by decide))
          (.finite .positive m e hm)) := by
      rw [← unpacked, ← unpack_one]
      exact unpack_div 1 (Float.ofNat k)
    have rounds := @rounds_div .positive .positive (2 ^ 52) m (-52) e (by decide) hm
    rw [unpacked, size] at two
    have half : ((2 ^ 52 : Nat) : ℚ) * 2 ^ (-52 : Int) / (m * 2 ^ e) ≤ 1 / 2 := by
      have one : ((2 ^ 52 : Nat) : ℚ) * 2 ^ (-52 : Int) = 1 := by norm_num
      rw [one]
      exact one_div_le_one_div_of_le two_pos two
    rw [unsigned.value_eq, quotient]
    exact ⟨size_nonneg _, (size_saturate_le _).trans (rounds.size_le_one half)⟩

theorem isPositive_ofNat (positive : 0 < k) (finite : (Float.ofNat k).isFinite = true) :
    IsPositive (Float.ofNat k) := by
  rcases Nat.lt_or_ge k 2 with small | two
  · exact (approximates_ofNat positive (small.trans (by decide))).positive
  · exact (two_le_size_ofNat two finite).1

theorem isProper_ofInt (nonzero : n ≠ 0) (finite : (Float.ofInt n).isFinite = true) :
    IsProper (Float.ofInt n) := by
  cases n with
  | ofNat k =>
    have positive : 0 < k := Nat.pos_of_ne_zero fun zero => nonzero (congrArg Int.ofNat zero)
    exact (isPositive_ofNat positive finite).isProper
  | negSucc k =>
    have negated : Float.ofInt (.negSucc k) = -Float.ofNat (k + 1) := rfl
    rw [negated, isFinite_neg] at finite
    exact (isPositive_ofNat k.succ_pos finite).isProper.neg

/-- The inverse of a double is not zero, as the greatest double is less than the inverse of the
least one. -/
theorem IsProper.inv_beq_zero (h : IsProper x) : (1 / x == 0) = false := by
  have one : IsProper 1 := (approximates_ofNat one_pos (by decide)).positive.isProper
  obtain ⟨s, f, rounds, unpacked⟩ := one.exists_rounds_div h
  rw [size_one] at rounds
  have range : leastSize / 2 * greatestSize < 1 := by
    have places : leastSize / 2 * greatestPlace = 2 ^ (-104 : Int) := by
      rw [leastSize_half, greatestPlace, ← zpow_add₀ two_ne_zero]
      norm_num
    rw [greatestSize, mul_left_comm, places]
    norm_num
  have above : leastSize / 2 < 1 / size x.toModel.unpack := by
    rw [lt_div_iff₀ h.size_pos]
    exact (mul_le_mul_of_nonneg_left h.size_bounds.2 (half_pos leastSize_pos).le).trans_lt range
  have positive := rounds.size_pos above
  rw [← Bool.not_eq_true, beq_zero_iff, unpacked]
  rintro ⟨t, zero⟩
  cases f with
  | finite t m e hm =>
    rw [saturate] at zero
    split_ifs at zero
  | _ => exact lt_irrefl 0 positive

theorem zero_lt_inv_ofInt (positive : 0 < n) (finite : (Float.ofInt n).isFinite = true) :
    0 < 1 / Float.ofInt n := by
  obtain ⟨k, rfl⟩ := Int.eq_ofNat_of_zero_le positive.le
  have order : IsPositive (Float.ofNat k) := isPositive_ofNat (by omega) finite
  have unsigned : IsUnsigned (1 / Float.ofNat k) := (isUnsigned_ofNat 1).div order
  refine zero_lt_iff.2 ⟨unsigned, fun zero => ?_⟩
  have nonzero := order.isProper.inv_beq_zero
  rw [← Bool.not_eq_true, beq_zero_iff] at nonzero
  exact nonzero ⟨_, zero⟩

end Metrology.Binary64
