import Metrology.Proofs.Number.Arithmetic

/-!
# Signs of doubles

Products and quotients of a double without a sign with positive ones have no sign either
(`IsUnsigned.mul`, `IsUnsigned.div`).  A double with a sign is a negative number, the negative zero
or a NaN (`isUnsigned_of_not_lt`), and one that is neither below nor above zero is a zero or a NaN
(`sign_cases`).
-/

open Float.Model (Format UnpackedFloat)
open Float.Model.UnpackedFloat

namespace Metrology.Binary64

variable {x y : Float} {f g : UnpackedFloat} {s t : Sign} {z : ℚ}

/-! ## Signs of unpacked doubles -/

/-- The sign of a number. -/
def sign? : UnpackedFloat → Option Sign
  | .notANumber => none
  | .infinity s | .zero s | .finite s _ _ _ => some s

theorem sign?_saturate (f : UnpackedFloat) : sign? (saturate f) = sign? f := by
  cases f with
  | finite s m e hm =>
    rw [saturate]
    split_ifs <;> rfl
  | _ => rfl

theorem sign?_neg (f : UnpackedFloat) : sign? f.neg = (sign? f).map (- ·) := by
  cases f <;> rfl

theorem Rounds.sign? (h : Rounds s z f) : sign? f = some s := by
  rcases h.kind with rfl | ⟨_, _, _, rfl⟩ <;> rfl

/-- The double is not a NaN and its sign bit is not set. -/
def IsUnsigned (x : Float) : Prop := sign? x.toModel.unpack = some .positive

/-- The double is a number above zero and below infinity. -/
def IsPositive (x : Float) : Prop := ∃ m e hm, x.toModel.unpack = .finite .positive m e hm

theorem IsPositive.isUnsigned (h : IsPositive x) : IsUnsigned x := by
  obtain ⟨_, _, _, unpacked⟩ := h
  rw [IsUnsigned, unpacked]
  rfl

theorem IsUnsigned.mul (h : IsUnsigned x) (h' : IsPositive y) : IsUnsigned (x * y) := by
  have canonical : IsCanonical x.toModel.unpack := isCanonical_unpack _
  have canonical' : IsCanonical y.toModel.unpack := isCanonical_unpack _
  obtain ⟨n, e', hn, unpacked'⟩ := h'
  rw [IsUnsigned] at h
  rw [IsUnsigned, unpack_mul, sign?_saturate]
  rw [unpacked'] at canonical' ⊢
  cases unpacked : x.toModel.unpack with
  | notANumber =>
    rw [unpacked] at h
    cases h
  | finite s m e hm =>
    rw [unpacked] at h canonical
    cases h
    exact (rounds_mul canonical canonical').sign?
  | _ =>
    rw [unpacked] at h
    cases h
    rfl

theorem IsUnsigned.div (h : IsUnsigned x) (h' : IsPositive y) : IsUnsigned (x / y) := by
  obtain ⟨n, e', hn, unpacked'⟩ := h'
  rw [IsUnsigned] at h
  rw [IsUnsigned, unpack_div, sign?_saturate, unpacked']
  cases unpacked : x.toModel.unpack with
  | notANumber =>
    rw [unpacked] at h
    cases h
  | finite s m e hm =>
    rw [unpacked] at h
    cases h
    exact rounds_div.sign?
  | _ =>
    rw [unpacked] at h
    cases h
    rfl

theorem isUnsigned_ofNat (n : Nat) : IsUnsigned (Float.ofNat n) := by
  rw [IsUnsigned]
  rcases Nat.eq_zero_or_pos n with rfl | positive
  · rfl
  rcases Nat.lt_or_ge n (2 ^ 53) with small | great
  · rw [unpack_ofNat positive small]
    rfl
  · obtain ⟨f, rounds, unpacked⟩ := unpack_ofNat_of_le great
    rw [unpacked, sign?_saturate, rounds.sign?]

/-! ## Comparison with zero -/

/-- The doubles below zero have a sign, and are neither zero nor NaN. -/
theorem lt_zero_iff : x < 0 ↔
    sign? x.toModel.unpack = some .negative ∧ x.toModel.unpack ≠ .zero .negative := by
  have lt_eq : x < 0 ↔ x.toModel.unpack.lt (.zero .positive) = true := by
    change decide (x.toModel < (0 : Float).toModel) = true ↔ _
    exact decide_eq_true_iff
  rw [lt_eq]
  rcases x.toModel.unpack with ⟨_ | _⟩ | _ | ⟨_ | _⟩ | ⟨_ | _, m, e, hm⟩ <;>
    simp [UnpackedFloat.lt, UnpackedFloat.compare, sign?]

theorem eq_of_unpack_eq (h : x.toModel.unpack = y.toModel.unpack) : x = y := by
  apply eq_of_word_eq
  rw [← pack_unpack _ x.toModel.valid, ← pack_unpack _ y.toModel.valid]
  exact congrArg (pack Format.binary64) h

theorem neg_neg (x : Float) : - -x = x := by
  apply eq_of_unpack_eq
  rw [unpack_neg, unpack_neg]
  rcases x.toModel.unpack with s | _ | s | ⟨s, m, e, hm⟩
  · cases s <;> rfl
  · rfl
  · cases s <;> rfl
  · cases s <;> rfl

/-- A double that is not below zero has no sign, if it is neither NaN nor the negative zero. -/
theorem isUnsigned_of_not_lt (h : ¬ x < 0) (number : x.isNaN = false) (zero : x ≠ -0) :
    IsUnsigned x := by
  have zero : x.toModel.unpack ≠ .zero .negative := fun same => zero (eq_of_unpack_eq same)
  have number : x.toModel.unpack.isNaN = false := number
  rw [lt_zero_iff] at h
  rw [IsUnsigned]
  rcases unpacked : x.toModel.unpack with s | _ | s | ⟨s, m, e, hm⟩ <;> rw [unpacked] at h number zero
  · cases s
    · exact absurd ⟨rfl, zero⟩ h
    · rfl
  · cases number
  · cases s
    · exact absurd rfl zero
    · rfl
  · cases s
    · exact absurd ⟨rfl, zero⟩ h
    · rfl

theorem isUnsigned_neg_of_lt (h : x < 0) : IsUnsigned (-x) := by
  rw [IsUnsigned, unpack_neg, sign?_neg, (lt_zero_iff.1 h).1]
  rfl

theorem IsUnsigned.not_lt_zero (h : IsUnsigned x) : ¬ x < 0 := by
  rw [lt_zero_iff, h]
  exact fun both => nomatch both.1

/-! ## Absolute values -/

theorem unpack_abs (x : Float) : x.abs.toModel.unpack = x.toModel.unpack.abs := by
  have canonical : IsCanonical x.toModel.unpack := isCanonical_unpack _
  have kept : saturate x.toModel.unpack = x.toModel.unpack := saturate_unpack _
  have packed : x.abs.toModel.unpack = saturate x.toModel.unpack.abs := by
    refine unpack_pack ?_
    cases unpacked : x.toModel.unpack <;> rw [unpacked] at canonical <;> exact canonical
  rw [packed]
  rcases unpacked : x.toModel.unpack with s | _ | s | ⟨s, m, e, hm⟩ <;> rw [unpacked] at kept
  · rfl
  · rfl
  · rfl
  · rw [saturate] at kept
    split_ifs at kept with great
    exact if_neg great

theorem size_abs (f : UnpackedFloat) : size f.abs = size f := by
  cases f <;> rfl

theorem isPositive_abs (nonzero : 0 < size x.toModel.unpack) : IsPositive x.abs := by
  rw [IsPositive, unpack_abs]
  rcases unpacked : x.toModel.unpack with s | _ | s | ⟨s, m, e, hm⟩ <;> rw [unpacked] at nonzero
  · exact absurd nonzero (lt_irrefl 0)
  · exact absurd nonzero (lt_irrefl 0)
  · exact absurd nonzero (lt_irrefl 0)
  · exact ⟨m, e, hm, rfl⟩

theorem abs_neg (x : Float) : (-x).abs = x.abs := by
  apply eq_of_unpack_eq
  rw [unpack_abs, unpack_abs, unpack_neg]
  cases x.toModel.unpack <;> rfl

theorem IsUnsigned.abs_eq (h : IsUnsigned x) : x.abs = x := by
  apply eq_of_unpack_eq
  rw [IsUnsigned] at h
  rw [unpack_abs]
  rcases unpacked : x.toModel.unpack with s | _ | s | ⟨s, m, e, hm⟩ <;> rw [unpacked] at h <;>
    cases h <;> rfl

theorem abs_eq_of_lt (h : x < 0) : x.abs = -x := by
  rw [← abs_neg, (isUnsigned_neg_of_lt h).abs_eq]

theorem isUnsigned_abs (number : x.isNaN = false) : IsUnsigned x.abs := by
  have number : x.toModel.unpack.isNaN = false := number
  rw [IsUnsigned, unpack_abs]
  rcases unpacked : x.toModel.unpack with s | _ | s | ⟨s, m, e, hm⟩ <;> rw [unpacked] at number
  · rfl
  · cases number
  · rfl
  · rfl

theorem isNaN_neg (x : Float) : (-x).isNaN = x.isNaN := by
  change (-x).toModel.unpack.isNaN = x.toModel.unpack.isNaN
  rw [unpack_neg]
  cases x.toModel.unpack <;> rfl

/-- The negation of a double is below zero if the double is above. -/
theorem neg_lt_zero_iff : -x < 0 ↔ 0 < x := by
  have lt_eq : 0 < x ↔ (UnpackedFloat.zero .positive).lt x.toModel.unpack = true := by
    change decide ((0 : Float).toModel < x.toModel) = true ↔ _
    exact decide_eq_true_iff
  have negated : -Sign.positive = Sign.negative := rfl
  rw [lt_zero_iff, lt_eq, unpack_neg]
  rcases x.toModel.unpack with ⟨_ | _⟩ | _ | ⟨_ | _⟩ | ⟨_ | _, m, e, hm⟩ <;>
    simp [UnpackedFloat.lt, UnpackedFloat.compare, sign?, UnpackedFloat.neg, negated]

/-! ## Zeros and NaN -/

theorem beq_zero_iff : (x == 0) = true ↔ ∃ s, x.toModel.unpack = .zero s := by
  have beq_eq : (x == 0) = x.toModel.unpack.beq (.zero .positive) := rfl
  rw [beq_eq]
  rcases x.toModel.unpack with s | _ | s | ⟨s, m, e, hm⟩ <;> (try cases s) <;>
    simp [UnpackedFloat.beq, UnpackedFloat.compare]

theorem isNaN_iff : x.isNaN = true ↔ x.toModel.unpack = .notANumber := by
  have isNaN_eq : x.isNaN = x.toModel.unpack.isNaN := rfl
  rw [isNaN_eq]
  cases x.toModel.unpack <;> simp [UnpackedFloat.isNaN]

/-- The doubles above zero have no sign, and are neither zero nor NaN. -/
theorem zero_lt_iff : 0 < x ↔
    sign? x.toModel.unpack = some .positive ∧ x.toModel.unpack ≠ .zero .positive := by
  have negated : -Sign.positive = Sign.negative ∧ -Sign.negative = Sign.positive := ⟨rfl, rfl⟩
  rw [← neg_lt_zero_iff, lt_zero_iff, unpack_neg]
  rcases x.toModel.unpack with ⟨_ | _⟩ | _ | ⟨_ | _⟩ | ⟨_ | _, m, e, hm⟩ <;>
    simp [UnpackedFloat.neg, sign?, negated]

/-- Every double is below zero, above, zero or a NaN. -/
theorem sign_cases (x : Float) : x < 0 ∨ 0 < x ∨ (x == 0) = true ∨ x.isNaN = true := by
  rw [lt_zero_iff, zero_lt_iff, beq_zero_iff, isNaN_iff]
  rcases x.toModel.unpack with ⟨_ | _⟩ | _ | ⟨_ | _⟩ | ⟨_ | _, m, e, hm⟩ <;> simp [sign?]

theorem not_lt_zero_of_beq_zero (h : (x == 0) = true) : ¬ x < 0 := by
  obtain ⟨s, unpacked⟩ := beq_zero_iff.1 h
  rw [lt_zero_iff, unpacked]
  cases s <;> simp [sign?]

theorem not_lt_zero_of_isNaN (h : x.isNaN = true) : ¬ x < 0 := by
  rw [lt_zero_iff, isNaN_iff.1 h]
  rintro ⟨⟨⟩, -⟩

theorem not_lt_zero_of_zero_lt (h : 0 < x) : ¬ x < 0 :=
  IsUnsigned.not_lt_zero (zero_lt_iff.1 h).1

theorem beq_zero_of_isNaN (h : x.isNaN = true) : (x == 0) = false := by
  rw [← Bool.not_eq_true, beq_zero_iff, isNaN_iff.1 h]
  rintro ⟨s, ⟨⟩⟩

theorem beq_zero_neg (x : Float) : (-x == 0) = (x == 0) := by
  rw [Bool.eq_iff_iff, beq_zero_iff, beq_zero_iff, unpack_neg]
  cases x.toModel.unpack <;> simp [UnpackedFloat.neg]

/-- The doubles are equal, or both are NaN. -/
def Alike (x y : Float) : Prop := (x == y) = true ∨ x.isNaN = true ∧ y.isNaN = true

theorem alike_refl (x : Float) : Alike x x := by
  have beq_eq : (x == x) = x.toModel.unpack.beq x.toModel.unpack := rfl
  rw [Alike, isNaN_iff, beq_eq]
  rcases x.toModel.unpack with s | _ | s | ⟨s, m, e, hm⟩
  · cases s <;> exact .inl rfl
  · exact .inr ⟨rfl, rfl⟩
  · exact .inl rfl
  · cases s <;> simp [UnpackedFloat.beq, UnpackedFloat.compare]

theorem alike_of_zeros (h : (x == 0) = true) (h' : (y == 0) = true) : Alike x y := by
  obtain ⟨s, unpacked⟩ := beq_zero_iff.1 h
  obtain ⟨t, unpacked'⟩ := beq_zero_iff.1 h'
  have beq_eq : (x == y) = x.toModel.unpack.beq y.toModel.unpack := rfl
  rw [Alike, beq_eq, unpacked, unpacked']
  exact .inl rfl

end Metrology.Binary64
