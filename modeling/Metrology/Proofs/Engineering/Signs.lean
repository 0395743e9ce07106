import Metrology.Catalogue.Dimensions
import Metrology.Proofs.Engineering.Scaling
import Metrology.Proofs.Number.Texts
import Metrology.Proofs.Results

/-!
# Signs in engineering notation

The parts of a quantity are its sign and what is written of the absolute value
(`Format.parts_eq_body`), and that has no sign itself (`Format.isSignless_body`).  So a quantity and
its negation differ in the sign alone (`Format.parts_signs`).  All of this is about magnitudes other
than the negative zero, which is not below zero and keeps its sign to the end
(`Format.parts_negativeZero`).
-/

namespace Metrology.Engineering

open Binary64

variable {f : Format} {q : Quantity} {r : Registry} {d : Dimension} {symbol : String} {p : Parts}
  {x : Float}

/-! ## The sign and what stands behind it -/

/-- Parts with a sign before the magnitude. -/
def Parts.signed (sign : String) (p : Parts) : Parts := ⟨sign ++ p.magnitude, p.unit⟩

theorem exists_checkPrecision_iff {n : Nat} :
    (∃ m, checkPrecision n = .ok m) ↔ n ≤ precisionLimit := by
  have limits : precisionLimit ≤ precisionBound := by decide
  rw [checkPrecision]
  split_ifs with long big
  · refine iff_of_false (by rintro ⟨_, ⟨⟩⟩) ?_
    omega
  · refine iff_of_false (by rintro ⟨_, ⟨⟩⟩) ?_
    omega
  · exact iff_of_true ⟨n, rfl⟩ (Nat.le_of_not_lt big)

/-- The absolute value that is scaled. -/
def absolute (x : Float) : Float := if x < 0 then -x else x

theorem isFinite_absolute (x : Float) : (absolute x).isFinite = x.isFinite := by
  unfold absolute
  split_ifs
  · exact isFinite_neg x
  · rfl

namespace Format

/-- The parts of a finite magnitude behind its sign, with the mantissa in text. -/
def finiteParts (f : Format) (r : Registry) (d : Dimension) (symbol : String) (exponent : Int)
    (mantissa : String) : Parts :=
  if takesGlyph r d exponent then ⟨mantissa, Prefix.glyph f.micro exponent ++ symbol⟩
  else ⟨mantissa ++ "e" ++ toString exponent, symbol⟩

/-- The parts of a quantity behind its sign, from the absolute value of the magnitude. -/
def body (f : Format) (r : Registry) (d : Dimension) (symbol : String) (x : Float) :
    Except TextFault Parts :=
  if x.isFinite then
    (f.mantissaText (Scaled.ofFloat f.digits x)).map
      (f.finiteParts r d symbol (Scaled.ofFloat f.digits x).exponent)
  else .ok ⟨general Quantity.displayDigits x, symbol⟩

theorem parts_eq_body (f : Format) (q : Quantity) (r : Registry) :
    f.parts q r = (q.symbol r).bind fun symbol =>
      (f.body r q.dimension symbol (absolute q.value)).map
        (.signed (f.sign q.value)) := by
  unfold parts body
  cases q.symbol r with
  | error fault => rfl
  | ok symbol =>
    dsimp only [bind, Except.bind, pure, Except.pure]
    rw [← absolute]
    generalize absolute q.value = x
    by_cases finite : x.isFinite = true
    · rw [if_pos finite, if_pos finite]
      cases f.mantissaText (Scaled.ofFloat f.digits x) with
      | error fault => rfl
      | ok mantissa =>
        unfold finiteParts
        dsimp only [Except.map]
        split_ifs with glyph
        · rfl
        · rw [Parts.signed, ← String.append_assoc, ← String.append_assoc]
          rfl
    · rw [if_neg finite, if_neg finite]
      rfl

/-- Behind the sign stands the mantissa of a finite magnitude with its exponent, or the text of any
other magnitude. -/
theorem body_cases (printed : f.body r d symbol x = .ok p) :
    (x.isFinite = true ∧ ∃ m, f.mantissaText (Scaled.ofFloat f.digits x) = .ok m ∧
      p = f.finiteParts r d symbol (Scaled.ofFloat f.digits x).exponent m) ∨
    (x.isFinite = false ∧ p = ⟨general Quantity.displayDigits x, symbol⟩) := by
  unfold body at printed
  split_ifs at printed with finite
  · obtain ⟨m, written, rfl⟩ := map_eq_ok_iff.1 printed
    exact .inl ⟨finite, m, written, rfl⟩
  · cases printed
    exact .inr ⟨Bool.eq_false_of_not_eq_true finite, rfl⟩

/-- A quantity that is printed has a symbol, and something is printed behind its sign. -/
theorem exists_body_of_parts (printed : f.parts q r = .ok p) :
    ∃ symbol b, q.symbol r = .ok symbol ∧
      f.body r q.dimension symbol (absolute q.value) = .ok b ∧ p = b.signed (f.sign q.value) := by
  rw [parts_eq_body] at printed
  obtain ⟨symbol, named, signed⟩ := bind_eq_ok_iff.1 printed
  obtain ⟨b, behind, rfl⟩ := map_eq_ok_iff.1 signed
  exact ⟨symbol, b, named, behind, rfl⟩

/-! ## Signs of mantissas -/

/-- The text of a mantissa, if there is one. -/
theorem mantissaText_eq {s : Scaled} {m : String} (written : f.mantissaText s = .ok m) :
    m = if f.fixed then Binary64.fixed (f.digits - s.extraWholeDigits - 1) s.mantissa
      else general (max f.digits 3) s.mantissa := by
  unfold mantissaText checkPrecision at written
  split_ifs at written ⊢ <;> cases written <;> rfl

theorem exists_mantissaText (h : f.digits ≤ precisionLimit) (s : Scaled) :
    ∃ m, f.mantissaText s = .ok m := by
  have three : 3 ≤ precisionLimit := by decide
  unfold mantissaText
  split_ifs
  · obtain ⟨p, checked⟩ := exists_checkPrecision_iff.2
      (by omega : f.digits - s.extraWholeDigits - 1 ≤ precisionLimit)
    rw [checked]
    exact ⟨_, rfl⟩
  · obtain ⟨p, checked⟩ := exists_checkPrecision_iff.2 (max_le h three)
    rw [checked]
    exact ⟨_, rfl⟩

/-- What is written behind the sign has no sign. -/
theorem isSignless_body (h : IsUnsigned x) (printed : f.body r d symbol x = .ok p) :
    IsSignless p.magnitude := by
  obtain ⟨-, m, written, rfl⟩ | ⟨-, rfl⟩ := body_cases printed
  · have unsigned := isUnsigned_mantissa f.digits h
    have signless : IsSignless m := by
      rw [mantissaText_eq written]
      split_ifs
      · exact unsigned.fixed _
      · exact unsigned.general _
    unfold finiteParts
    split_ifs
    · exact signless
    · rw [String.append_assoc]
      exact signless.append _
  · exact h.general _

/-! ## Zero -/

/-- How zero is written in a format. -/
def zeroText (f : Format) : String :=
  if f.fixed then String.ofList ('0' :: Layout.fractionText (List.replicate (f.digits - 1) '0'))
  else "0"

theorem textWith_zero (magnitude : Nat → Nat → List Char) :
    textWith magnitude 0 = String.ofList (magnitude 0 1) := rfl

theorem general_zero {n : Nat} (hn : 0 < n) : general n 0 = "0" := by
  have positional : ¬ ((0 : Int) < (Layout.general n).least ∨ (Layout.general n).bound ≤ 0) := by
    change ¬ ((0 : Int) < -4 ∨ (n : Int) ≤ 0)
    omega
  rw [general, textWith_zero, if_pos rfl, Layout.render, if_neg positional, if_neg (lt_irrefl 0)]
  rfl

theorem fixed_zero (n : Nat) :
    Binary64.fixed n 0 = String.ofList ('0' :: Layout.fractionText (List.replicate n '0')) := by
  have digits : Decimal.digits (Decimal.places n 0 1) = ['0'] := by
    unfold Decimal.places
    rw [Nat.zero_mul]
    rfl
  have padded : List.replicate n '0' ++ ['0'] = '0' :: List.replicate n '0' :=
    (List.replicate_succ' ..).symm.trans List.replicate_succ
  have whole : ('0' :: List.replicate n '0').length - n = 1 := by
    rw [List.length_cons, List.length_replicate]
    omega
  rw [Binary64.fixed, textWith_zero, digits]
  dsimp only [List.length_singleton]
  rw [Nat.add_sub_cancel, padded, whole]
  rfl

theorem scaled_zero (digits : Nat) : Scaled.ofFloat digits 0 = ⟨0, 0⟩ := by
  have up : shift 0 0 = 0 * powerOfTen 0 := by
    change scaleUp 0 0 = _
    rw [scaleUp, if_pos (by decide)]
  have product : 0 * powerOfTen 0 = 0 := by decide +kernel
  have nonpositive : ¬ (0 : Float) < 0 := by decide +kernel
  have small : ¬ (1000 : Float) ≤ 0 := by decide +kernel
  have aligned : -alignedExponent 0 = 0 := rfl
  unfold Scaled.ofFloat
  rw [if_neg nonpositive]
  dsimp only
  rw [aligned, up, product, if_neg small]
  rfl

/-- Zero is written as zero, with an exponent that is zero where the unit takes no glyph. -/
theorem magnitude_body_zero (printed : f.body r d symbol 0 = .ok p) :
    p.magnitude = f.zeroText ∨ p.magnitude = f.zeroText ++ "e0" := by
  obtain ⟨-, m, written, rfl⟩ | ⟨⟨⟩, -⟩ := body_cases printed
  rw [scaled_zero] at written ⊢
  have whole : Scaled.extraWholeDigits ⟨0, 0⟩ = 0 := by decide +kernel
  have zero : m = f.zeroText := by
    rw [mantissaText_eq written, whole, Nat.sub_zero, fixed_zero, general_zero (by omega)]
    rfl
  rw [← zero]
  unfold finiteParts
  split_ifs
  · exact .inl rfl
  · exact .inr (String.append_assoc ..)

/-! ## The texts of a quantity and its negation -/

theorem absolute_eq (number : x.isNaN = false) (zero : x ≠ -0) : absolute x = x.abs := by
  unfold absolute
  symm
  split_ifs with negative
  · exact abs_eq_of_lt negative
  · exact (isUnsigned_of_not_lt negative number zero).abs_eq

/-- Nothing stands before the absolute value if plus signs are not shown. -/
theorem parts_abs (f : Format) (r : Registry) (number : q.value.isNaN = false) :
    Format.parts { f with showsPlus := false } q.abs r =
      (q.symbol r).bind fun symbol => f.body r q.dimension symbol q.value.abs := by
  have unsigned : ¬ q.abs.value < 0 := (isUnsigned_abs number).not_lt_zero
  have signless : Format.sign { f with showsPlus := false } q.abs.value = "" := if_neg unsigned
  have bare : Parts.signed "" = id := by
    funext p
    rw [Parts.signed, String.empty_append]
    rfl
  rw [parts_eq_body, signless, absolute, if_neg unsigned, bare]
  simp only [Except.map_id, id_eq]
  rfl

theorem parts_signed (f : Format) (r : Registry) (number : q.value.isNaN = false)
    (zero : q.value ≠ -0) : f.parts q r =
      (Format.parts { f with showsPlus := false } q.abs r).map (.signed (f.sign q.value)) := by
  rw [parts_abs f r number, parts_eq_body, absolute_eq number zero]
  cases q.symbol r <;> rfl

theorem body_of_parts_abs (number : q.value.isNaN = false)
    (printed : Format.parts { f with showsPlus := false } q.abs r = .ok p) :
    ∃ symbol, f.body r q.dimension symbol q.value.abs = .ok p := by
  rw [parts_abs f r number] at printed
  obtain ⟨symbol, -, behind⟩ := bind_eq_ok_iff.1 printed
  exact ⟨symbol, behind⟩

theorem exists_body (h : f.digits ≤ precisionLimit) (r : Registry) (d : Dimension)
    (symbol : String) (x : Float) : ∃ p, f.body r d symbol x = .ok p := by
  unfold body
  split_ifs
  · obtain ⟨m, written⟩ := exists_mantissaText h (Scaled.ofFloat f.digits x)
    rw [written]
    exact ⟨_, rfl⟩
  · exact ⟨_, rfl⟩

/-- The magnitude of a quantity is its sign and the magnitude of the absolute value, which has no
sign; the negation has the same magnitude under its own sign, and the same unit. -/
theorem parts_signs (f : Format) (q : Quantity) (r : Registry) (number : q.value.isNaN = false)
    (zero : q.value ≠ -0) :
    let absolute := Format.parts { f with showsPlus := false } q.abs r
    (∀ p, absolute = .ok p → IsSignless p.magnitude) ∧
    (∀ plus, Format.parts { f with showsPlus := plus } q r = absolute.map
      (.signed (if q.value < 0 then "-" else if plus then "+" else ""))) ∧
    (q.value ≠ 0 → ∀ plus, Format.parts { f with showsPlus := plus } q.neg r = absolute.map
      (.signed (if 0 < q.value then "-" else if plus then "+" else ""))) ∧
    (q.value = 0 → ∀ p, absolute = .ok p →
      p.magnitude = f.zeroText ∨ p.magnitude = f.zeroText ++ "e0") ∧
    (f.digits ≤ precisionLimit → ∀ symbol, q.symbol r = .ok symbol → ∃ p, absolute = .ok p) := by
  intro absolute
  refine ⟨fun p printed => ?signless, fun plus => parts_signed _ r number zero,
    fun nonzero plus => ?negation, fun null p printed => ?zero, fun few symbol named => ?written⟩
  case signless =>
    obtain ⟨symbol, printed⟩ := body_of_parts_abs number printed
    exact isSignless_body (isUnsigned_abs number) printed
  case negation =>
    have negated : q.neg.abs = q.abs := congrArg (Quantity.mk q.dimension) (abs_neg q.value)
    have number' : q.neg.value.isNaN = false := (isNaN_neg q.value).trans number
    have zero' : q.neg.value ≠ -0 := fun same =>
      nonzero ((neg_neg q.value).symm.trans ((congrArg (- ·) same).trans (neg_neg 0)))
    have signed := parts_signed { f with showsPlus := plus } r number' zero'
    have sign : Format.sign { f with showsPlus := plus } q.neg.value =
        if 0 < q.value then "-" else if plus then "+" else "" := if_congr neg_lt_zero_iff rfl rfl
    rwa [negated, sign] at signed
  case zero =>
    obtain ⟨symbol, printed⟩ := body_of_parts_abs number printed
    have absolute_zero : (0 : Float).abs = 0 := (isUnsigned_ofNat 0).abs_eq
    rw [null, absolute_zero] at printed
    exact magnitude_body_zero printed
  case written =>
    obtain ⟨p, printed⟩ := exists_body few r q.dimension symbol q.value.abs
    refine ⟨p, ?_⟩
    rw [← printed]
    exact (parts_abs f r number).trans (by rw [named]; rfl)

/-- The length of -4700 meters and its negation. -/
theorem parts_signs_km : Float.isNaN (-4700) = false ∧ (-4700 : Float) ≠ -0 ∧
    Format.parts {} ⟨.length, -4700⟩ {} = .ok ⟨"-4.7", "km"⟩ ∧
    Format.parts { showsPlus := true } (Quantity.neg ⟨.length, -4700⟩) {} = .ok ⟨"+4.7", "km"⟩ := by
  have number : Float.isNaN (-4700) = false := by decide +kernel
  have nonzero : (-4700 : Float) ≠ -0 := by decide +kernel
  obtain ⟨-, same, negation, -⟩ := parts_signs {} ⟨.length, -4700⟩ {} number nonzero
  exact ⟨number, nonzero, (same false).trans (by decide +kernel),
    (negation (by decide +kernel) true).trans (by decide +kernel)⟩

/-- The negative zero keeps its sign, also behind a plus sign. -/
theorem parts_negativeZero :
    Format.parts {} ⟨.electricPotential, -0⟩ {} = .ok ⟨"-0", "V"⟩ ∧
    Format.parts { showsPlus := true } ⟨.electricPotential, -0⟩ {} = .ok ⟨"+-0", "V"⟩ := by
  decide +kernel

end Format

end Metrology.Engineering
