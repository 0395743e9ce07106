import Metrology.Proofs.Number.Finite

/-!
# Packing and unpacking

A double unpacks to a canonical form, with as many bits in the mantissa as fit, and rounding leaves
this form too.  Packing keeps it, but for exponents that are too great, which give infinities
(`unpack_pack`).
-/

open Float.Model (Format totalExponent UnpackedFloat)
open Float.Model.UnpackedFloat

namespace Metrology.Binary64

/-! ## Packed parts -/

theorem unpack_packComponents_normal {s : Sign} {x : BitVec 11} {f : BitVec 52} (finite : x ≠ -1#_)
    (normal : x ≠ 0#_) : unpack Format.binary64 (packComponents Format.binary64 s x f) =
      .finite s (1#1 ++ f).toNat (x.toNat - 1075) (by rw [toNat_implicit]; omega) := by
  unfold unpack
  dsimp only
  simp only [unpackExponent_packComponents, unpackMantissa_packComponents,
    unpackSign_packComponents, Sign.ofBitVec_toBitVec, if_neg finite, if_neg normal]
  rfl

theorem unpack_packComponents_subnormal {s : Sign} {f : BitVec 52} (nonzero : f ≠ 0#_) :
    unpack Format.binary64 (packComponents Format.binary64 s 0#_ f) =
      .finite s f.toNat (-1074) (by simpa [BitVec.toNat_pos, BitVec.pos_iff_ne_zero]) := by
  unfold unpack
  dsimp only
  simp only [unpackExponent_packComponents, unpackMantissa_packComponents,
    unpackSign_packComponents, Sign.ofBitVec_toBitVec, dif_neg nonzero]
  rfl

theorem unpack_packedInfinity {s : Sign} :
    unpack Format.binary64 (packedInfinity Format.binary64 s) = .infinity s := by
  unfold unpack packedInfinity
  dsimp only
  simp only [unpackExponent_packComponents, unpackMantissa_packComponents,
    unpackSign_packComponents, Sign.ofBitVec_toBitVec]
  rfl

/-! ## Canonical form -/

variable {s : Sign} {m : Nat} {e : Int} {hm : 0 < m}

/-- The exponent is the one that rounding aims at. -/
def IsCanonical : UnpackedFloat → Prop
  | .finite _ m e _ => Format.binary64.targetExponent (totalExponent m e) = e
  | _ => True

/-- Canonical mantissas have 53 bits, and fewer only at the least exponent. -/
theorem isCanonical_iff (hm : 0 < m) : IsCanonical (.finite s m e hm) ↔
    m < 2 ^ 53 ∧ -1074 ≤ e ∧ (2 ^ 52 ≤ m ∨ e = -1074) := by
  have nonzero : m ≠ 0 := Nat.ne_of_gt hm
  have target : IsCanonical (.finite s m e hm) ↔ max ((m.log2 : Int) + 1 + e - 53) (-1074) = e :=
    Iff.rfl
  rw [target, ← Nat.log2_lt nonzero, ← Nat.le_log2 nonzero]
  omega

/-- Exponents above the greatest one make infinities. -/
def saturate : UnpackedFloat → UnpackedFloat
  | .finite s m e hm => if 971 < e then .infinity s else .finite s m e hm
  | f => f

theorem unpack_pack_finite (canonical : IsCanonical (.finite s m e hm)) (small : e ≤ 971) :
    unpack Format.binary64 (pack Format.binary64 (.finite s m e hm)) = .finite s m e hm := by
  obtain ⟨bits, least, full⟩ := (isCanonical_iff hm).1 canonical
  have exponent : (e + 1023 + 52).toNat < 2047 := by omega
  have fits : ¬ 2 ^ Format.binary64.exponentBits ≤ (e + Format.binary64.exponentBias +
      Format.binary64.mantissaBitsWithoutImplicit).toNat + 1 := by
    change ¬ 2048 ≤ (e + 1023 + 52).toNat + 1
    omega
  rw [pack, if_neg fits]
  by_cases normal : 2 ^ 52 ≤ m
  · have log2 : m.log2 = 52 := (Nat.log2_eq_iff (by omega)).2 ⟨normal, bits⟩
    have word : (BitVec.ofNat 11 (e + 1023 + 52).toNat).toNat = (e + 1023 + 52).toNat :=
      Nat.mod_eq_of_lt (by omega)
    have finite : BitVec.ofNat 11 (e + 1023 + 52).toNat ≠ -1#_ := fun same => by
      have same : (e + 1023 + 52).toNat = 2047 := word ▸ congrArg BitVec.toNat same
      omega
    have positive : BitVec.ofNat 11 (e + 1023 + 52).toNat ≠ 0#_ := fun same => by
      have same : (e + 1023 + 52).toNat = 0 := word ▸ congrArg BitVec.toNat same
      omega
    rw [if_pos (by rw [log2]; rfl)]
    refine (unpack_packComponents_normal finite positive).trans ?_
    have mantissa : (1#1 ++ BitVec.ofNat 52 m).toNat = m := by
      rw [toNat_implicit, BitVec.toNat_ofNat]
      omega
    have back : ((BitVec.ofNat 11 (e + 1023 + 52).toNat).toNat : Int) - 1075 = e := by
      rw [word]
      omega
    simp only [mantissa, back]
  · have log2 : m.log2 < 52 := (Nat.log2_lt (by omega)).2 (by omega)
    have mantissa : (BitVec.ofNat 52 m).toNat = m := Nat.mod_eq_of_lt (by omega)
    have nonzero : BitVec.ofNat 52 m ≠ 0#_ := fun zero => by
      have zero : m = 0 := mantissa ▸ congrArg BitVec.toNat zero
      omega
    have short : ¬ m.log2 + 1 = Format.binary64.mantissaBits := by
      change ¬ m.log2 + 1 = 53
      omega
    rw [if_neg short]
    refine (unpack_packComponents_subnormal nonzero).trans ?_
    obtain rfl : e = -1074 := by omega
    simp only [mantissa]

/-- Packing keeps the canonical form, as long as the exponent fits. -/
theorem unpack_pack {f : UnpackedFloat} (canonical : IsCanonical f) :
    unpack Format.binary64 (pack Format.binary64 f) = saturate f := by
  cases f with
  | notANumber => exact unpack_packedNaN
  | infinity s => exact unpack_packedInfinity
  | zero s => exact unpack_packedZero
  | finite s m e hm =>
    obtain ⟨-, least, -⟩ := (isCanonical_iff hm).1 canonical
    rw [saturate]
    split_ifs with great
    · have high : 2 ^ Format.binary64.exponentBits ≤ (e + Format.binary64.exponentBias +
          Format.binary64.mantissaBitsWithoutImplicit).toNat + 1 := by
        change 2048 ≤ (e + 1023 + 52).toNat + 1
        omega
      rw [pack, if_pos high, unpack_packedInfinity]
    · exact unpack_pack_finite canonical (Int.not_lt.1 great)

theorem isCanonical_unpack (b : BitVec Format.binary64.numBits) :
    IsCanonical (unpack Format.binary64 b) := by
  cases h : unpack Format.binary64 b with
  | finite s m e hm => exact targetExponent_unpack h
  | _ => trivial

/-- The greatest exponent of a double. -/
theorem exponent_unpack_le {b : BitVec Format.binary64.numBits}
    (h : unpack Format.binary64 b = .finite s m e hm) : e ≤ 971 := by
  have exponent : (unpackExponent b).toNat < 2048 := (unpackExponent b).isLt
  unfold unpack at h
  dsimp only at h
  split_ifs at h with infinite h₀ subnormal h₀
  · injection h with _ _ he
    have he : ((unpackExponent b).toNat : Int) - 1075 + 1 = e := he
    rw [subnormal] at he
    change ((0 : Nat) : Int) - 1075 + 1 = e at he
    omega
  · injection h with _ _ he
    have he : ((unpackExponent b).toNat : Int) - 1075 = e := he
    have below : (unpackExponent b).toNat ≠ 2047 := fun same => infinite (BitVec.eq_of_toNat_eq same)
    omega

theorem saturate_unpack (b : BitVec Format.binary64.numBits) :
    saturate (unpack Format.binary64 b) = unpack Format.binary64 b := by
  cases h : unpack Format.binary64 b with
  | finite s m e hm => rw [saturate, if_neg (Int.not_lt.2 (exponent_unpack_le h))]
  | _ => rfl

end Metrology.Binary64
