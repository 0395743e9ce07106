import Mathlib
import Metrology.Quantity

/-!
# One as a factor

One times a double is that double, bit for bit, whatever it is: `Binary64.one_mul`.  A double is the
packing of what it unpacks to (`pack_unpack`), and a finite one unpacks to a mantissa with the
exponent that rounding aims at (`targetExponent_unpack`).  The product with one has the same
mantissa, shifted by 52 places, and rounding shifts it back (`roundWithAccuracy_two_pow_mul`).
-/

open Float.Model (Format totalExponent UnpackedFloat)
open Float.Model.UnpackedFloat

namespace Metrology

namespace Binary64

/-! ## Packing and unpacking -/

theorem toBitVec_ofBitVec (b : BitVec 1) : (Sign.ofBitVec b).toBitVec = b := by
  unfold Sign.ofBitVec
  rcases BitVec.eq_zero_or_eq_one b with h | h <;> subst h <;> rfl

/-- The three parts of a word, put together again. -/
theorem packComponents_parts (b : BitVec Format.binary64.numBits) :
    packComponents Format.binary64 (Sign.ofBitVec (unpackSign b)) (unpackExponent b)
      (unpackMantissa b) = b := by
  apply BitVec.eq_of_getLsbD_eq
  intro i hi
  simp only [packComponents, toBitVec_ofBitVec, BitVec.getLsbD_append, unpackMantissa,
    unpackExponent, unpackSign, BitVec.getLsbD_cast, BitVec.getLsbD_extractLsb]
  have hi : i < 64 := hi
  split_ifs with mantissa exponent
  · rw [decide_eq_true (by omega), Bool.true_and, Nat.zero_add]
  · rw [decide_eq_true (by omega), Bool.true_and]
    congr 1
    omega
  · rw [decide_eq_true (by omega), Bool.true_and]
    congr 1
    omega

theorem toNat_implicit (m : BitVec 52) : (1#1 ++ m).toNat = 2 ^ 52 + m.toNat := by
  rw [BitVec.toNat_append, ← Nat.shiftLeft_add_eq_or_of_lt m.isLt]
  rfl

theorem log2_implicit (m : BitVec 52) : (1#1 ++ m).toNat.log2 = 52 := by
  have hm := m.isLt
  rw [toNat_implicit, Nat.log2_eq_iff (by omega)]
  omega

theorem log2_lt_of_ne_zero (m : BitVec 52) (h : m ≠ 0#_) : m.toNat.log2 < 52 := by
  have nonzero : m.toNat ≠ 0 := fun e => h (BitVec.eq_of_toNat_eq e)
  exact (Nat.log2_lt nonzero).2 m.isLt

/-- A double is the packing of what it unpacks to. -/
theorem pack_unpack (b : BitVec Format.binary64.numBits) (valid : Format.binary64.Valid b) :
    pack Format.binary64 (unpack Format.binary64 b) = b := by
  have hb := packComponents_parts b
  unfold unpack
  dsimp only
  split_ifs with infinite h subnormal h
  · rw [infinite, h] at hb
    exact hb
  · exact (valid.eq_packedNaN infinite h).symm
  · rw [subnormal, h] at hb
    exact hb
  · have hlog := log2_lt_of_ne_zero _ h
    rw [pack, if_neg, if_neg, BitVec.ofNat_toNat, BitVec.setWidth_eq, ← subnormal]
    · exact hb
    · show ¬ (unpackMantissa b).toNat.log2 + 1 = 53
      omega
    · rw [subnormal]
      decide
  · have hne : (unpackExponent b).toNat ≠ 2047 := fun e => infinite (BitVec.eq_of_toNat_eq e)
    have hlt : (unpackExponent b).toNat < 2048 := (unpackExponent b).isLt
    rw [pack, if_neg, if_pos]
    · have hm : BitVec.ofNat 52 (1#1 ++ unpackMantissa b).toNat = unpackMantissa b := by
        apply BitVec.eq_of_toNat_eq
        rw [toNat_implicit, BitVec.toNat_ofNat, Nat.add_mod_left]
        exact Nat.mod_eq_of_lt (unpackMantissa b).isLt
      have he : ((unpackExponent b).toNat - ((1023 : Int) + 52) + 1023 + 52).toNat =
          (unpackExponent b).toNat := by omega
      show packComponents _ _ (BitVec.ofNat 11
        ((unpackExponent b).toNat - ((1023 : Int) + 52) + 1023 + 52).toNat) (BitVec.ofNat 52 _) = b
      rw [hm, he, BitVec.ofNat_toNat, BitVec.setWidth_eq]
      exact hb
    · show (1#1 ++ unpackMantissa b).toNat.log2 + 1 = 53
      rw [log2_implicit]
    · show ¬ 2048 ≤ (((unpackExponent b).toNat : Int) - (1023 + 52) + 1023 + 52).toNat + 1
      omega

/-- A finite double unpacks to the mantissa and the exponent that rounding aims at. -/
theorem targetExponent_unpack {b : BitVec Format.binary64.numBits} {s : Sign} {m : Nat} {e : Int}
    {hm : 0 < m} (h : unpack Format.binary64 b = .finite s m e hm) :
    Format.binary64.targetExponent (totalExponent m e) = e := by
  show max (m.log2 + 1 + e - 53) (-1074) = e
  unfold unpack at h
  dsimp only at h
  split_ifs at h with infinite h₀ subnormal h₀
  · injection h with _ hm he
    have hlog := log2_lt_of_ne_zero _ h₀
    have he : ((unpackExponent b).toNat : Int) - (1023 + 52) + 1 = e := he
    rw [subnormal] at he
    subst hm
    simp at he
    omega
  · injection h with _ hm he
    have he : ((unpackExponent b).toNat : Int) - (1023 + 52) = e := he
    have hpos : (unpackExponent b).toNat ≠ 0 := fun h => subnormal (BitVec.eq_of_toNat_eq h)
    rw [← hm, log2_implicit]
    omega

/-! ## Rounding -/

theorem log2_two_pow_mul (k : Nat) {m : Nat} (hm : 0 < m) : (2 ^ k * m).log2 = k + m.log2 := by
  have nonzero : m ≠ 0 := Nat.ne_of_gt hm
  rw [Nat.log2_eq_iff (Nat.mul_ne_zero (Nat.ne_of_gt (Nat.two_pow_pos k)) nonzero), Nat.pow_add,
    Nat.add_assoc, Nat.pow_add]
  constructor
  · exact Nat.mul_le_mul_left _ (Nat.log2_self_le nonzero)
  · exact Nat.mul_lt_mul_of_pos_left Nat.lt_log2_self (Nat.two_pow_pos k)

/-- Shifting by as many places as the mantissa was shifted before is exact. -/
theorem shiftRight_two_pow_mul (k m : Nat) :
    (⟨2 ^ k * m, false, false⟩ : ExtendedMantissa) >>> k = ⟨m, false, false⟩ := by
  show k.repeat ExtendedMantissa.shiftRightOne _ = _
  induction k generalizing m with
  | zero => rw [Nat.repeat, Nat.pow_zero, Nat.one_mul]
  | succ k ih =>
    rw [Nat.repeat, Nat.pow_succ, Nat.mul_assoc, ih]
    simp [ExtendedMantissa.shiftRightOne]

theorem shiftToTargetExponent_two_pow_mul {m : Nat} {e : Int} (hm : 0 < m) (k : Nat)
    (he : Format.binary64.targetExponent (totalExponent m e) = e) :
    shiftToTargetExponent Format.binary64 (2 ^ k * m) (e - k) .exact = (⟨m, false, false⟩, e) := by
  have total : totalExponent (2 ^ k * m) (e - k) = totalExponent m e := by
    unfold totalExponent
    rw [log2_two_pow_mul k hm]
    omega
  have shift : (e - (e - k)).toNat = k := by omega
  unfold shiftToTargetExponent shiftToExponent
  dsimp only
  rw [total, he, shift, Int.sub_add_cancel]
  exact congrArg (·, e) (shiftRight_two_pow_mul k m)

/-- Rounding a shifted mantissa gives back the mantissa. -/
theorem roundWithAccuracy_two_pow_mul (s : Sign) {m : Nat} {e : Int} (hm : 0 < m) (k : Nat)
    (he : Format.binary64.targetExponent (totalExponent m e) = e) :
    roundWithAccuracy Format.binary64 s (2 ^ k * m) (e - k) .exact = .finite s m e hm := by
  have again := shiftToTargetExponent_two_pow_mul hm 0 he
  rw [Nat.pow_zero, Nat.one_mul, Int.ofNat_zero, Int.sub_zero] at again
  unfold roundWithAccuracy
  rw [shiftToTargetExponent_two_pow_mul hm k he]
  dsimp only [ExtendedMantissa.roundedMantissa, ExtendedMantissa.accuracy,
    Accuracy.roundToNearestEven]
  rw [again]
  exact dif_neg (Nat.ne_of_gt hm)

/-! ## Products -/

theorem unpack_one : (1 : Float).toModel.unpack = .finite .positive (2 ^ 52) (-52) (by decide) :=
  rfl

theorem positive_mul (s : Sign) : Sign.positive * s = s := by
  cases s <;> rfl

theorem mul_unpack (b : BitVec Format.binary64.numBits) :
    UnpackedFloat.mul Format.binary64 (.finite .positive (2 ^ 52) (-52) (by decide))
      (unpack Format.binary64 b) = unpack Format.binary64 b := by
  cases h : unpack Format.binary64 b with
  | notANumber => rfl
  | infinity s => rw [UnpackedFloat.mul, positive_mul]
  | zero s => rw [UnpackedFloat.mul, positive_mul]
  | finite s m e hm =>
    rw [UnpackedFloat.mul, positive_mul, Int.add_comm, ← Int.sub_eq_add_neg]
    exact roundWithAccuracy_two_pow_mul s hm 52 (targetExponent_unpack h)

theorem eq_of_word_eq {x y : Float}
    (h : x.toModel.toBits.toBitVec = y.toModel.toBits.toBitVec) : x = y := by
  obtain ⟨⟨a, _⟩⟩ := x
  obtain ⟨⟨b, _⟩⟩ := y
  obtain rfl : a = b := UInt64.eq_of_toBitVec_eq h
  rfl

/-- One times a double is the double. -/
theorem one_mul (x : Float) : 1 * x = x := by
  apply eq_of_word_eq
  show pack Format.binary64 (UnpackedFloat.mul Format.binary64 (1 : Float).toModel.unpack
    (unpack Format.binary64 x.toModel.toBits.toBitVec)) = _
  rw [unpack_one, mul_unpack, pack_unpack _ x.toModel.valid]

end Binary64

theorem Quantity.scale_one (q : Quantity) : q.scale 1 = q := by
  rw [scale, Binary64.one_mul]

end Metrology
