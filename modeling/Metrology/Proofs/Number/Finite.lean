import Metrology.Proofs.Number.UnitFactor

/-!
# Finite doubles

Whether a double is finite depends on its exponent bits alone (`isFinite_unpack`), and a change of
the sign keeps these (`unpackExponent_pack_neg`).
-/

open Float.Model (Format UnpackedFloat)
open Float.Model.UnpackedFloat

namespace Metrology.Binary64

/-- The doubles that are not finite have all exponent bits set. -/
theorem isFinite_unpack (b : BitVec Format.binary64.numBits) :
    (unpack Format.binary64 b).isFinite = decide (unpackExponent b ≠ -1#_) := by
  unfold unpack
  dsimp only
  split_ifs with infinite h zero h
  · exact (decide_eq_false (not_not.2 infinite)).symm
  · exact (decide_eq_false (not_not.2 infinite)).symm
  · exact (decide_eq_true infinite).symm
  · exact (decide_eq_true infinite).symm
  · exact (decide_eq_true infinite).symm

/-- The exponent bits do not depend on the sign. -/
theorem unpackExponent_packComponents_sign (s t : Sign) (e : BitVec 11) (m : BitVec 52) :
    unpackExponent (packComponents Format.binary64 s e m) =
      unpackExponent (packComponents Format.binary64 t e m) := by
  have exponent (s : Sign) : unpackExponent (packComponents Format.binary64 s e m) = e :=
    unpackExponent_packComponents
  rw [exponent, exponent]

theorem unpackExponent_pack_neg (f : UnpackedFloat) :
    unpackExponent (pack Format.binary64 f.neg) = unpackExponent (pack Format.binary64 f) := by
  cases f with
  | notANumber => rfl
  | infinity s => exact unpackExponent_packComponents_sign (-s) s _ _
  | zero s => exact unpackExponent_packComponents_sign (-s) s _ _
  | finite s m e hm =>
    unfold UnpackedFloat.neg pack
    dsimp only
    split_ifs <;> exact unpackExponent_packComponents_sign (-s) s _ _

theorem isFinite_neg (x : Float) : (-x).isFinite = x.isFinite := by
  show (unpack Format.binary64 (pack Format.binary64
      (unpack Format.binary64 x.toModel.toBits.toBitVec).neg)).isFinite =
    (unpack Format.binary64 x.toModel.toBits.toBitVec).isFinite
  rw [isFinite_unpack, unpackExponent_pack_neg, pack_unpack _ x.toModel.valid, isFinite_unpack]

end Metrology.Binary64
