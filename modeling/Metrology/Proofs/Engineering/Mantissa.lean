import Metrology.Proofs.Engineering.Rounded

/-!
# Mantissas in engineering notation

A rounded double is aligned to a multiple of three and printed.  The mantissa is near to the digits
in one of the three places before the point (`IsMantissa`), and so near that its text denotes exactly
these digits (`Format.denotes_mantissaText`).  It follows that the mantissa in text is from one up to
a thousand, with a thousand left out but for magnitudes just below a power of a thousand
(`Format.parts_normalised`, `Format.parts_thousand`).
-/

open Float.Model (Format UnpackedFloat)
open Float.Model.UnpackedFloat

namespace Metrology.Engineering

open Binary64 hiding one_mul

variable {x m : Float} {d n k : Nat} {e g i r : Int}

/-! ## Alignment -/

/-- The double is below a thousand and approximates a number of `d` digits, of which the first one is
in one of the three places before the point. -/
structure IsMantissa (d : Nat) (m : Float) (n : Nat) (g : Int) : Prop where
  lower : 10 ^ (d - 1) ≤ n
  upper : n ≤ 10 ^ d
  least : 0 ≤ g
  greatest : g ≤ 2
  approximates : Approximates 9 m (n * 10 ^ (g - d + 1))
  below : size m.toModel.unpack < 1000

/-- A number of `d` digits that is all but the next power of ten is that power. -/
theorem eq_ten_pow_of_le (few : d ≤ accurateDigits) (upper : n ≤ 10 ^ d)
    (above : (10 : ℚ) ^ (g + 1) ≤ n * 10 ^ (g - d + 1) * (1 + 1 / 2 ^ 45)) : n = 10 ^ d := by
  have place : (0 : ℚ) < 10 ^ (g - d + 1) := zpow_pos (by norm_num) _
  have all : ((10 ^ d : Nat) : ℚ) ≤ 10 ^ 12 := by exact_mod_cast ten_pow_le few
  have most : (n : ℚ) ≤ (10 ^ d : Nat) := by exact_mod_cast upper
  have power : ((10 ^ d : Nat) : ℚ) * 10 ^ (g - d + 1) = 10 ^ (g + 1) :=
    natCast_ten_pow_mul (by omega)
  rw [← power, mul_right_comm, mul_le_mul_iff_left₀ place] at above
  by_contra short
  have short : (n : ℚ) + 1 ≤ (10 ^ d : Nat) := by exact_mod_cast upper.lt_of_ne short
  linarith

/-- Digits that are near to a double of a thousand or more are a thousand. -/
theorem eq_thousand (few : d ≤ accurateDigits) (hd : 0 < d) (lower : 10 ^ (d - 1) ≤ n)
    (upper : n ≤ 10 ^ d) (most : g ≤ 2) (near : Approximates k m (n * 10 ^ (g - d + 1)))
    (steps : k ≤ stepLimit) (carry : 1000 ≤ size m.toModel.unpack) : g = 2 ∧ n = 10 ^ d := by
  have above := carry.trans (near.near.le_mul steps)
  have last : g = 2 := by
    by_contra small
    have less : (10 : ℚ) ^ (g + 1) ≤ 10 ^ (2 : Int) := zpow_le_zpow_right₀ (by norm_num) (by omega)
    have less := mul_le_mul_of_nonneg_right ((place_bounds hd lower upper).2.trans less)
      (by norm_num : (0 : ℚ) ≤ 1 + 1 / 2 ^ 45)
    exact absurd (above.trans less) (by norm_num)
  subst last
  refine ⟨rfl, eq_ten_pow_of_le (g := 2) few upper (le_trans ?_ above)⟩
  norm_num

/-- A thousand becomes one. -/
theorem isMantissa_one (hd : 0 < d) (h : Approximates 8 m 1000) :
    IsMantissa d (m / 1000) (10 ^ (d - 1)) 0 := by
  have thousand : Approximates 0 1000 1000 := approximates_ofNat (n := 1000) (by decide) (by decide)
  have same : (1000 : ℚ) / 1000 = 1 := div_self (by norm_num)
  have quotient : Approximates 9 (m / 1000) 1 := by
    have divided := h.div thousand (same ▸ isModerate_ten_pow (n := 0) (by decide)) (by decide)
    rwa [same] at divided
  refine ⟨le_rfl, Nat.pow_le_pow_right (by decide) (Nat.sub_le d 1), le_rfl, by decide, ?_, ?_⟩
  · rwa [natCast_ten_pow_mul (b := 0) (by omega), zpow_zero]
  · exact (quotient.near.le_mul (by decide)).trans_lt (by norm_num)

/-- The rounded double in the exponent of its aligned form: the digits stand in the place of the
exponent, or they are the power of ten that is one after a carry. -/
theorem exists_isMantissa (h : IsPositive x) (in_range : IsModerate (size x.toModel.unpack))
    (hd : 0 < d) (few : d ≤ accurateDigits) (rounded : IsRounded d x n) :
    ∃ n' g, IsMantissa d (Scaled.ofFloat d x).mantissa n' g ∧
      (n' : ℚ) * 10 ^ (g - d + 1) * 10 ^ (Scaled.ofFloat d x).exponent =
        n * 10 ^ (exponent x - d + 1) ∧
      (g = 0 ∨ (Scaled.ofFloat d x).exponent + g = exponent x) := by
  obtain ⟨least, greatest⟩ := exponent_range h in_range
  obtain ⟨lower, upper, -, moderate, approximates⟩ := rounded
  obtain ⟨e, he⟩ : ∃ e, e = alignedExponent (exponent x) := ⟨_, rfl⟩
  obtain ⟨g, hg⟩ : ∃ g, g = exponent x - e := ⟨_, rfl⟩
  have range : 0 ≤ g ∧ g ≤ 2 := by
    unfold alignedExponent at he
    omega
  have few_steps : (-e).natAbs ≤ 2 * stepExponent := by
    unfold alignedExponent at he
    unfold stepExponent
    omega
  have number : (n : ℚ) * 10 ^ (exponent x - d + 1) * 10 ^ (-e) = n * 10 ^ (g - d + 1) := by
    rw [mul_assoc, ← zpow_add₀ (by norm_num)]
    congr 2
    omega
  have moderate' : IsModerate (n * 10 ^ (g - d + 1)) :=
    isModerate_place hd (by omega) lower upper (.inl (by omega))
  have aligned : Approximates 8 (shift (Engineering.round d x).1 (-e)) (n * 10 ^ (g - d + 1)) := by
    rw [← number] at moderate' ⊢
    exact shift_approximates approximates moderate moderate' few_steps (by decide)
  have scaled : Scaled.ofFloat d x =
      if 1000 ≤ shift (Engineering.round d x).1 (-e) then
        ⟨shift (Engineering.round d x).1 (-e) / 1000, e + 3⟩
      else ⟨shift (Engineering.round d x).1 (-e), e⟩ := by
    have positive : 0 < x := by
      rw [lt_iff_size_lt isNonnegative_zero h.isNonnegative]
      exact h.approximates.near.pos
    rw [Scaled.ofFloat, if_pos positive, he]
    rfl
  generalize shift (Engineering.round d x).1 (-e) = m at aligned scaled
  have thousand_le := ofNat_le_iff (n := 1000) (by decide) (by decide) aligned.positive
  by_cases carry : 1000 ≤ m
  · obtain ⟨rfl, rfl⟩ := eq_thousand few hd lower upper range.2 aligned (by decide)
      (thousand_le.1 carry)
    have thousand : ((10 ^ d : Nat) : ℚ) * 10 ^ (2 - (d : Int) + 1) = 1000 := by
      rw [natCast_ten_pow_mul (b := 3) (by omega)]
      norm_num
    rw [scaled, if_pos carry]
    refine ⟨10 ^ (d - 1), 0, isMantissa_one hd (thousand ▸ aligned), ?_, .inl rfl⟩
    have next : e + 3 = exponent x + 1 := by omega
    rw [natCast_ten_pow_mul (b := 0) (by omega), zpow_zero, MulOneClass.one_mul,
      natCast_ten_pow_mul (b := exponent x + 1) (by omega)]
    exact congrArg _ next
  · rw [scaled, if_neg carry]
    refine ⟨n, g, ⟨lower, upper, range.1, range.2, aligned.mono (by decide), ?_⟩, ?_, .inr ?_⟩
    · exact not_le.1 (fun great => carry (thousand_le.2 great))
    · rw [← number, mul_assoc, ← zpow_add₀ (by norm_num), neg_add_cancel, zpow_zero, mul_one]
    · exact (congrArg (e + ·) hg).trans (add_sub_cancel e _)

/-! ## Texts of mantissas -/

/-- Between which powers of ten the double is, for one that is in the place `g`. -/
theorem IsMantissa.place (h : IsMantissa d m n g) (hd : 0 < d)
    (lower : i ≤ g ∨ (10 : ℚ) ^ i ≤ size m.toModel.unpack)
    (upper : size m.toModel.unpack < 10 ^ (i + 1)) :
    g ≤ i + 1 ∧ (i ≤ g ∨ i = g + 1 ∧ (10 : ℚ) ^ (g + 1) ≤ size m.toModel.unpack) := by
  obtain ⟨first, last⟩ := place_bounds (e := g) hd h.lower h.upper
  have near := abs_le.1 (h.approximates.near.abs_sub_le (by decide))
  have step (e : Int) : (10 : ℚ) ^ (e + 1) = 10 ^ e * 10 := zpow_add_one₀ (by norm_num) e
  have positive (e : Int) : (0 : ℚ) < 10 ^ e := zpow_pos (by norm_num) e
  constructor
  · by_contra far
    have far : (10 : ℚ) ^ (i + 1 + 1) ≤ 10 ^ g := zpow_le_zpow_right₀ (by norm_num) (by omega)
    rw [step (i + 1)] at far
    linarith [positive (i + 1)]
  · refine lower.elim .inl fun lower => ?_
    by_contra far
    rw [not_or, not_and] at far
    rcases (by omega : i = g + 1 ∨ g + 1 + 1 ≤ i) with rfl | far'
    · exact far.2 rfl lower
    · have far : (10 : ℚ) ^ (g + 1 + 1) ≤ 10 ^ i := zpow_le_zpow_right₀ (by norm_num) far'
      rw [step (g + 1)] at far
      linarith [positive (g + 1)]

/-- The digits are a whole number in a place at or behind the last of them. -/
theorem IsMantissa.exists_whole (h : IsMantissa d m n g) (few : d ≤ accurateDigits)
    (place : i ≤ g ∨ i = g + 1 ∧ (10 : ℚ) ^ (g + 1) ≤ size m.toModel.unpack)
    (last : r ≤ i - d + 1) (whole : r ≤ i) :
    ∃ t : Nat, (t : ℚ) * 10 ^ r = n * 10 ^ (g - d + 1) := by
  obtain inside | ⟨rfl, above⟩ := place
  · refine ⟨n * 10 ^ (g - d + 1 - r).toNat, ?_⟩
    rw [Nat.cast_mul, mul_assoc, natCast_ten_pow_mul (b := g - d + 1) (by omega)]
  · obtain rfl := eq_ten_pow_of_le few h.upper
      (above.trans (h.approximates.near.le_mul (by decide)))
    refine ⟨10 ^ (g + 1 - r).toNat, ?_⟩
    rw [natCast_ten_pow_mul (b := g + 1) (by omega), natCast_ten_pow_mul (b := g + 1) (by omega)]

theorem eq_of_abs_sub_lt {t : Nat} {a : ℚ} (half : |(k : ℚ) - a| ≤ 1 / 2) (near : |a - t| < 1 / 2) :
    k = t := by
  have same : |((k : Int) : ℚ) - (t : Int)| < 1 := by
    rw [Int.cast_natCast, Int.cast_natCast]
    calc |(k : ℚ) - t| ≤ |(k : ℚ) - a| + |a - t| := abs_sub_le _ _ _
      _ < 1 := by linarith
  have same : |(k : Int) - t| < 1 := by exact_mod_cast same
  rw [abs_lt] at same
  omega

/-- Rounded in a place at or behind the last digit, the double is the number itself. -/
theorem IsMantissa.rounds_to (h : IsMantissa d m n g) (hd : 0 < d)
    (few : d ≤ accurateDigits) (lower : i ≤ g ∨ (10 : ℚ) ^ i ≤ size m.toModel.unpack)
    (upper : size m.toModel.unpack < 10 ^ (i + 1)) (last : r ≤ i - d + 1) (whole : r ≤ i)
    (near : i ≤ r + 11) (error : |(k : ℚ) - size m.toModel.unpack / 10 ^ r| ≤ 1 / 2) :
    (k : ℚ) * 10 ^ r = n * 10 ^ (g - d + 1) := by
  obtain ⟨least, place⟩ := h.place hd lower upper
  obtain ⟨t, ht⟩ := h.exists_whole few place last whole
  have unit : (0 : ℚ) < 10 ^ r := zpow_pos (by norm_num) r
  have bound : (t : ℚ) * 10 ^ r ≤ 10 ^ 13 * 10 ^ r := by
    have power : (10 : ℚ) ^ 13 * 10 ^ r = 10 ^ (13 + r) := (zpow_add₀ (by norm_num) 13 r).symm
    rw [ht, power]
    exact (place_bounds hd h.lower h.upper).2.trans
      (zpow_le_zpow_right₀ (by norm_num) (by omega))
  have bound : (t : ℚ) ≤ 10 ^ 13 := le_of_mul_le_mul_right bound unit
  have number := h.approximates.near.abs_sub_le (by decide)
  rw [← ht, mul_div_right_comm] at number
  have number : |size m.toModel.unpack / 10 ^ r - t| ≤ t / 2 ^ 45 := by
    rw [← mul_le_mul_iff_left₀ unit, abs_sub_mul_of_pos unit, div_mul_cancel₀ _ unit.ne']
    exact number
  rw [← ht, eq_of_abs_sub_lt error (number.trans_lt (by linarith))]

/-- The whole digits of a mantissa are those of its value. -/
theorem extraWholeDigits_bounds {s : Scaled} (positive : IsPositive s.mantissa)
    (below : size s.mantissa.toModel.unpack < 1000) :
    (s.extraWholeDigits = 0 ∨ (10 : ℚ) ^ s.extraWholeDigits ≤ size s.mantissa.toModel.unpack) ∧
      size s.mantissa.toModel.unpack < 10 ^ (s.extraWholeDigits + 1) := by
  have ten := ofNat_le_iff (n := 10) (by decide) (by decide) positive
  have hundred := ofNat_le_iff (n := 100) (by decide) (by decide) positive
  have thousand := ofNat_le_iff (n := 1000) (by decide) (by decide) positive
  unfold Scaled.extraWholeDigits
  split_ifs with three two one
  · exact absurd (thousand.1 three) (not_le.2 below)
  · have least := hundred.1 two
    norm_num at least ⊢
    exact ⟨least, below⟩
  · have least := ten.1 one
    have greatest := mt hundred.2 two
    norm_num at least greatest ⊢
    exact ⟨least, greatest⟩
  · have greatest := mt ten.2 one
    norm_num at greatest ⊢
    exact greatest

/-- The text of a mantissa denotes the number that the mantissa approximates. -/
theorem Format.denotes_mantissaText {f : Format} {s : Scaled}
    (h : IsMantissa f.digits s.mantissa n g) (few : f.digits ≤ accurateDigits) :
    ∃ text, f.mantissaText s = .ok text ∧
      Literal.Denotes text.toList (n * 10 ^ (g - f.digits + 1)) := by
  have hd := f.digits_pos
  have positive := h.approximates.positive
  obtain ⟨text, written⟩ := exists_mantissaText (f := f) (few.trans (by decide)) s
  refine ⟨text, written, ?_⟩
  have few' : f.digits ≤ 12 := few
  rw [mantissaText_eq written]
  split_ifs
  · obtain ⟨m, error, denotes⟩ :=
      denotes_fixed positive (f.digits - s.extraWholeDigits - 1)
    obtain ⟨lower, upper⟩ := extraWholeDigits_bounds positive h.below
    have most : s.extraWholeDigits ≤ 2 := by
      unfold Scaled.extraWholeDigits
      split_ifs <;> decide
    obtain ⟨p, hp⟩ : ∃ p, p = f.digits - s.extraWholeDigits - 1 := ⟨_, rfl⟩
    rw [← hp] at error denotes ⊢
    have place : (10 : ℚ) ^ (-p : Int) = (10 ^ p)⁻¹ := by rw [zpow_neg, zpow_natCast]
    have number := h.rounds_to (i := s.extraWholeDigits) (r := -p) (k := m) hd few
      (lower.imp_left fun bare => by rw [bare]; exact h.least) (by exact_mod_cast upper)
      (by omega) (by omega) (by omega) (by rwa [place, div_inv_eq_mul])
    rwa [← number, place, ← div_eq_mul_inv]
  · obtain ⟨m, k, lower, upper, error, denotes⟩ :=
      denotes_general positive (p := max f.digits 3) (by omega) (by unfold exactDigits; omega)
    have number := h.rounds_to (i := k) (r := k - (max f.digits 3 : Nat) + 1) (k := m) hd few
      (.inr lower) upper (by omega) (by omega) (by omega) error
    rwa [← number]

/-! ## Magnitudes -/

theorem absolute_of_pos (nonzero : 0 < size x.toModel.unpack) : absolute x = x.abs := by
  refine Format.absolute_eq ?_ ?_
  · change x.toModel.unpack.isNaN = false
    rcases unpacked : x.toModel.unpack with s | _ | s | ⟨s, m, e, hm⟩ <;> rw [unpacked] at nonzero <;>
      first | rfl | exact absurd nonzero (lt_irrefl 0)
  · rintro rfl
    exact absurd nonzero (lt_irrefl 0)

/-- The number of a mantissa is a thousand only if it was rounded up to it. -/
theorem IsMantissa.lt_thousand_or (h : IsMantissa d m n g) (hd : 0 < d) (positive : IsPositive x)
    (place : g = 0 ∨ e + g = exponent x)
    (near : |n * 10 ^ (g - d + 1) * 10 ^ e - size x.toModel.unpack| ≤
      3 / 4 * 10 ^ (exponent x - d + 1)) :
    (n : ℚ) * 10 ^ (g - d + 1) < 1000 ∨ (n : ℚ) * 10 ^ (g - d + 1) = 1000 ∧
      (1000 - 1000 / 10 ^ d) * 10 ^ e < size x.toModel.unpack ∧
      size x.toModel.unpack < 1000 * 10 ^ e := by
  obtain ⟨-, last⟩ := place_bounds (e := g) hd h.lower h.upper
  have greatest := h.greatest
  generalize (n : ℚ) * 10 ^ (g - d + 1) = v at last near ⊢
  have most : v ≤ 1000 := by
    refine last.trans ?_
    calc (10 : ℚ) ^ (g + 1) ≤ 10 ^ (3 : Int) := zpow_le_zpow_right₀ (by norm_num) (by omega)
      _ = 1000 := by norm_num
  refine most.lt_or_eq.imp_right fun thousand => ⟨thousand, ?_⟩
  subst thousand
  -- Only three digits before the point reach a thousand.
  obtain rfl : g = 2 := by
    have places : (10 : ℚ) ^ (2 : Int) < 10 ^ (g + 1) := lt_of_lt_of_le (by norm_num) last
    rw [zpow_lt_zpow_iff_right₀ (by norm_num)] at places
    omega
  have same : exponent x = e + 2 := (place.resolve_left two_ne_zero).symm
  have unit : (10 : ℚ) ^ (exponent x - d + 1) = 1000 / 10 ^ d * 10 ^ e := by
    rw [same, (by ring : e + 2 - (d : Int) + 1 = 3 - d + e), zpow_add₀ (by norm_num),
      zpow_sub₀ (by norm_num), zpow_natCast]
    norm_num
  have next : (10 : ℚ) ^ (exponent x + 1) = 1000 * 10 ^ e := by
    rw [same, (by ring : e + 2 + 1 = 3 + e), zpow_add₀ (by norm_num)]
    norm_num
  obtain ⟨-, upper⟩ := exponent_bounds positive
  have digit : (0 : ℚ) < 1000 / 10 ^ d * 10 ^ e := by positivity
  rw [unit] at near
  rw [next] at upper
  exact ⟨by linarith [(abs_le.1 near).2], upper⟩

/-- What is printed of a magnitude behind its sign and before its exponent or the unit is a decimal
number from one up to a thousand, which with the exponent is the magnitude up to the digits that were
asked for.  It is a thousand only for a magnitude that is less than one unit of the last digit below a
thousand times a power of ten. -/
theorem Format.parts_normalised {f : Format} {q : Quantity} {r : Registry} {symbol : String}
    (few : f.digits ≤ accurateDigits) (moderate : IsModerate (size q.value.toModel.unpack))
    (named : q.symbol r = .ok symbol) :
    ∃ (e : Int) (text : String) (v : ℚ),
      f.parts q r = .ok ((f.finiteParts r q.dimension symbol e text).signed (f.sign q.value)) ∧
      e % 3 = 0 ∧ Literal.Denotes text.toList v ∧ 1 ≤ v ∧
      (v < 1000 ∨ v = 1000 ∧ (1000 - 1000 / 10 ^ f.digits) * 10 ^ e < size q.value.toModel.unpack ∧
        size q.value.toModel.unpack < 1000 * 10 ^ e) ∧
      |v * 10 ^ e - size q.value.toModel.unpack| ≤
        size q.value.toModel.unpack / 10 ^ (f.digits - 1) := by
  have nonzero : 0 < size q.value.toModel.unpack :=
    (zpow_pos (by norm_num) _).trans_le moderate.1
  have positive : IsPositive (absolute q.value) := by
    rw [absolute_of_pos nonzero]
    exact isPositive_abs nonzero
  have same : size (absolute q.value).toModel.unpack = size q.value.toModel.unpack := by
    rw [absolute_of_pos nonzero, unpack_abs, size_abs]
  rw [← same] at moderate ⊢
  obtain ⟨n, rounded⟩ := exists_isRounded positive moderate f.digits_pos few
  obtain ⟨n', g, mantissa, number, place⟩ :=
    exists_isMantissa positive moderate f.digits_pos few rounded
  obtain ⟨text, written, denotes⟩ := denotes_mantissaText mantissa few
  obtain ⟨first, -⟩ := place_bounds (e := g) f.digits_pos mantissa.lower mantissa.upper
  obtain ⟨near, error⟩ := rounded.error positive f.digits_pos
  rw [← number] at near error
  refine ⟨_, text, _, ?parts, ?aligned, denotes, ?least,
    mantissa.lt_thousand_or f.digits_pos positive place near, error⟩
  case parts =>
    have finite : (absolute q.value).isFinite = true := positive.isNonnegative.finite
    rw [parts_eq_body, named, Except.bind, body, if_pos finite, written]
    rfl
  case aligned => exact exponent_ofFloat_emod _ _
  case least => exact (one_le_zpow₀ (by norm_num) mantissa.least).trans first

/-- The length of 4700 meters. -/
theorem Format.parts_normalised_km :
    IsModerate (size (4700 : Float).toModel.unpack) ∧
    Quantity.symbol ⟨.length, 4700⟩ {} = .ok "m" ∧
    Format.parts {} ⟨.length, 4700⟩ {} = .ok ⟨"4.7", "km"⟩ ∧
    ∃ (e : Int) (text : String) (v : ℚ),
      Format.parts {} ⟨.length, 4700⟩ {} =
        .ok ((Format.finiteParts {} {} .length "m" e text).signed "") ∧
      e % 3 = 0 ∧ Literal.Denotes text.toList v ∧ 1 ≤ v ∧ v < 1000 ∧
      |v * 10 ^ e - 4700| ≤ 4700 / 10 ^ 5 := by
  have size_eq : size (4700 : Float).toModel.unpack = 4700 :=
    size_ofNat (n := 4700) (by decide) (by decide)
  have moderate : IsModerate (size (4700 : Float).toModel.unpack) := by
    rw [size_eq]
    exact (isModerate_ten_pow (n := 0) (by decide)).of_between
      (isModerate_ten_pow (n := 4) (by decide)) (.inl (by norm_num)) (.inr (by norm_num))
  have named : Quantity.symbol ⟨.length, 4700⟩ {} = .ok "m" := by decide +kernel
  have printed : Format.parts {} ⟨.length, 4700⟩ {} = .ok ⟨"4.7", "km"⟩ := by decide +kernel
  have sign : Format.sign {} 4700 = "" := by decide +kernel
  obtain ⟨e, text, v, parts, aligned, denotes, least, below, error⟩ :=
    Format.parts_normalised (f := {}) (q := ⟨.length, 4700⟩) (r := {}) (by decide) moderate named
  rw [sign] at parts
  rw [size_eq] at below error
  refine ⟨moderate, named, printed, e, text, v, parts, aligned, denotes, least, ?_, error⟩
  -- No power of a thousand is just above 4700.
  refine below.resolve_right fun ⟨_, lower, upper⟩ => ?_
  have positive : (10 : ℚ) ^ (0 : Int) < 10 ^ e := by linarith
  rw [zpow_lt_zpow_iff_right₀ (by norm_num)] at positive
  have great : (10 : ℚ) ^ (3 : Int) ≤ 10 ^ e := zpow_le_zpow_right₀ (by norm_num) (by omega)
  rw [show Format.digits {} = 6 from rfl] at lower
  linarith

/-- Just below a power of a thousand the digits are rounded up to it, scaled to the double below a
thousand, which carries nothing, and printed as a thousand.  With more digits than doubles have
places for, the scaled double is infinite. -/
theorem Format.parts_thousand :
    Format.parts {} ⟨.electricPotential, 9.9999999e-25⟩ {} = .ok ⟨"1000e-27", "V"⟩ ∧
    Format.parts { digits := 400 } ⟨.electricPotential, 1e300⟩ {} = .ok ⟨"infe303", "V"⟩ := by
  decide +kernel

end Metrology.Engineering
