import Metrology.Number.Layout
import Metrology.Proofs.Number.Digits
import Metrology.Proofs.Number.Signs
import Metrology.Proofs.Number.Written

/-!
# Texts of doubles

The rational number of a decimal numeral (`Literal.Numeral.number`), and the numbers that the texts
of doubles denote: the double rounded to its significant digits (`Binary64.denotes_general`), or
rounded to decimal places (`Binary64.denotes_fixed`).  The texts of doubles without a sign have no
sign in front (`Binary64.IsUnsigned.general`, `Binary64.IsUnsigned.fixed`).
-/

namespace Metrology

variable {ds cs : List Char} {k : Nat}

/-! ## Numbers of digits -/

namespace Whole

/-- Digits behind a number move it by their places. -/
theorem foldl_digits (ds : List Char) (n : Nat) :
    ds.foldl (fun n d => 10 * n + (d.toNat - '0'.toNat)) n = n * 10 ^ ds.length + ofDigits ds := by
  induction ds generalizing n with
  | nil => exact (Nat.mul_one n).symm
  | cons d ds ih =>
    have first : ofDigits (d :: ds) =
        (d.toNat - '0'.toNat) * 10 ^ ds.length + ofDigits ds := by
      rw [ofDigits, List.foldl_cons, Nat.mul_zero, Nat.zero_add, ih]
    rw [List.foldl_cons, ih, first, List.length_cons, Nat.pow_succ]
    ring

theorem ofDigits_append (ds cs : List Char) :
    ofDigits (ds ++ cs) = ofDigits ds * 10 ^ cs.length + ofDigits cs := by
  rw [ofDigits, List.foldl_append, foldl_digits]
  rfl

theorem ofDigits_replicate_zero (k : Nat) : ofDigits (List.replicate k '0') = 0 := by
  induction k with
  | zero => rfl
  | succ k ih =>
    rw [List.replicate_succ', ofDigits_append, ih]
    rfl

theorem ofDigits_append_zeros (ds : List Char) (k : Nat) :
    ofDigits (ds ++ List.replicate k '0') = ofDigits ds * 10 ^ k := by
  rw [ofDigits_append, ofDigits_replicate_zero, List.length_replicate, Nat.add_zero]

theorem ofDigits_zeros_append (k : Nat) (ds : List Char) :
    ofDigits (List.replicate k '0' ++ ds) = ofDigits ds := by
  rw [ofDigits_append, ofDigits_replicate_zero, Nat.zero_mul, Nat.zero_add]

theorem ofDigits_digits (n : Nat) : ofDigits (Decimal.digits n) = n := ofDigits_toDigits n

end Whole

/-- Zeros behind digits move the place of the last one. -/
theorem natCast_mul_ten_pow (n k : Nat) (e : Int) :
    ((n * 10 ^ k : Nat) : ℚ) * 10 ^ e = n * 10 ^ (k + e) := by
  rw [zpow_add₀ (by norm_num), zpow_natCast, Nat.cast_mul, Nat.cast_pow, mul_assoc]
  rfl

/-! ## Numbers of numerals -/

namespace Literal

/-- The number that a numeral denotes. -/
def Numeral.number (n : Numeral) : ℚ :=
  (if n.sign = some .minus then -1 else 1) * Whole.ofDigits (n.whole ++ n.fraction.getD []) *
    10 ^ (Exponent.value n.exponent - (n.fraction.getD []).length)

/-- The text is a numeral of the number. -/
def Denotes (text : List Char) (v : ℚ) : Prop := ∃ n : Numeral, n.text = text ∧ n.number = v

/-- Digits around a point denote the number of all digits, with the place of the last one. -/
theorem denotes_digits {whole fraction : List Char} (whole_ne_nil : whole ≠ [])
    (whole_isDigit : whole.all Char.isDigit = true)
    (fraction_isDigit : fraction.all Char.isDigit = true) (e : Option Exponent) :
    Denotes (whole ++ Layout.fractionText fraction ++ Exponent.text e)
      (Whole.ofDigits (whole ++ fraction) * 10 ^ (Exponent.value e - fraction.length)) := by
  cases fraction with
  | nil =>
    refine ⟨⟨none, whole, none, e, whole_isDigit, rfl, fun empty => whole_ne_nil empty.1⟩, ?_, ?_⟩
    · simp [Numeral.text, Sign.text, Numeral.mantissa, Numeral.fractionText, Layout.fractionText]
    · simp [Numeral.number]
  | cons d ds =>
    refine ⟨⟨none, whole, some (d :: ds), e, whole_isDigit, fraction_isDigit,
      fun empty => whole_ne_nil empty.1⟩, ?_, ?_⟩
    · simp [Numeral.text, Sign.text, Numeral.mantissa, Numeral.fractionText, Layout.fractionText]
    · simp [Numeral.number]

end Literal

/-! ## Layouts -/

namespace Layout

open Literal

theorem isExponentMark_e : isExponentMark 'e' = true := rfl

/-- The exponent that is written in scientific notation. -/
def writtenExponent (e : Int) : Exponent where
  mark := 'e'
  sign := some (if e < 0 then .minus else .plus)
  digits := List.replicate (2 - (Decimal.digits e.natAbs).length) '0' ++ Decimal.digits e.natAbs
  isExponentMark_mark := isExponentMark_e
  digits_ne_nil := List.append_ne_nil_of_right_ne_nil _ Nat.toDigits_ne_nil
  all_isDigit := by
    rw [List.all_append, List.all_replicate, Decimal.digits, Whole.all_isDigit_toDigits]
    split_ifs <;> rfl

theorem text_writtenExponent (e : Int) :
    Exponent.text (some (writtenExponent e)) = 'e' :: exponentText e := by
  unfold Exponent.text writtenExponent exponentText
  dsimp only
  split_ifs <;> rfl

theorem value_writtenExponent (e : Int) : Exponent.value (some (writtenExponent e)) = e := by
  unfold Exponent.value writtenExponent
  dsimp only
  rw [Whole.ofDigits_zeros_append, Whole.ofDigits_digits]
  split_ifs with negative minus minus
  · omega
  · exact absurd rfl minus
  · cases minus
  · omega

theorem exists_stripZeros (ds : List Char) :
    ∃ k, ds = stripZeros ds ++ List.replicate k '0' := by
  have split := List.takeWhile_append_dropWhile (p := (· == '0')) (l := ds.reverse)
  have zeros : ds.reverse.takeWhile (· == '0') =
      List.replicate (ds.reverse.takeWhile (· == '0')).length '0' := by
    refine List.eq_replicate_iff.2 ⟨rfl, fun c member => ?_⟩
    have zero := List.mem_takeWhile_imp member
    exact beq_iff_eq.1 zero
  refine ⟨(ds.reverse.takeWhile (· == '0')).length, ?_⟩
  rw [stripZeros, ← List.reverse_replicate, ← zeros, ← List.reverse_append, split,
    List.reverse_reverse]

/-- The digits that are written, if zeros at the end are left out. -/
def kept (ds : List Char) : List Char :=
  match stripZeros ds with
  | [] => ['0']
  | ds => ds

/-- There is a digit to write, and what is left out is a power of ten. -/
theorem exists_kept (nonempty : ds ≠ []) : ∃ k, ds.length = (kept ds).length + k ∧
    Whole.ofDigits ds = Whole.ofDigits (kept ds) * 10 ^ k := by
  obtain ⟨k, split⟩ := exists_stripZeros ds
  unfold kept
  split
  · next stripped =>
    rw [stripped, List.nil_append] at split
    have positive : 0 < ds.length := List.length_pos_iff.2 nonempty
    refine ⟨ds.length - 1, by rw [List.length_singleton]; omega, ?_⟩
    rw [split, Whole.ofDigits_replicate_zero]
    exact (Nat.zero_mul _).symm
  · refine ⟨k, ?_, ?_⟩
    · rw [← List.length_replicate (n := k) (a := '0'), ← List.length_append, ← split]
    · rw [← Whole.ofDigits_append_zeros, ← split]

theorem kept_ne_nil (ds : List Char) : kept ds ≠ [] := by
  unfold kept
  split
  · exact List.cons_ne_nil _ _
  · assumption

theorem kept_isDigit (digits : ds.all Char.isDigit = true) : (kept ds).all Char.isDigit = true := by
  obtain ⟨k, split⟩ := exists_stripZeros ds
  unfold kept
  split
  · rfl
  · rw [split, List.all_append, Bool.and_eq_true] at digits
    exact digits.1

/-- What is left out moves the place of the last digit. -/
theorem number_kept (nonempty : ds ≠ []) (e : Int) :
    (Whole.ofDigits ds : ℚ) * 10 ^ (e - ds.length + 1) =
      Whole.ofDigits (kept ds) * 10 ^ (e - (kept ds).length + 1) := by
  obtain ⟨k, length, digits⟩ := exists_kept nonempty
  have place : e - ((kept ds).length : Int) + 1 = k + (e - ds.length + 1) := by omega
  rw [digits, place, natCast_mul_ten_pow]

/-! ## The three forms -/

theorem denotes_scientific (nonempty : ds ≠ []) (digits : ds.all Char.isDigit = true) (e : Int) :
    Denotes (ds.take 1 ++ fractionText (ds.drop 1) ++ 'e' :: exponentText e)
      (Whole.ofDigits ds * 10 ^ (e - ds.length + 1)) := by
  rw [← List.take_append_drop 1 ds, List.all_append, Bool.and_eq_true] at digits
  have whole : ds.take 1 ≠ [] := fun empty =>
    (List.take_eq_nil_iff.1 empty).elim one_ne_zero nonempty
  have denotes := denotes_digits whole digits.1 digits.2 (some (writtenExponent e))
  have positive : 0 < ds.length := List.length_pos_iff.2 nonempty
  have place : e - ((ds.drop 1).length : Int) = e - ds.length + 1 := by
    rw [List.length_drop]
    omega
  rwa [List.take_append_drop, value_writtenExponent, place, text_writtenExponent] at denotes

theorem denotes_below_one (nonempty : ds ≠ []) (digits : ds.all Char.isDigit = true) {e : Int}
    (below : e < 0) :
    Denotes ('0' :: '.' :: (List.replicate (e.natAbs - 1) '0' ++ ds))
      (Whole.ofDigits ds * 10 ^ (e - ds.length + 1)) := by
  obtain ⟨fraction, hf⟩ : ∃ fraction, fraction = List.replicate (e.natAbs - 1) '0' ++ ds := ⟨_, rfl⟩
  have isDigit : fraction.all Char.isDigit = true := by
    rw [hf, List.all_append, digits, List.all_replicate]
    split_ifs <;> rfl
  have value : Whole.ofDigits (['0'] ++ fraction) = Whole.ofDigits ds := by
    have zero : ['0'] = List.replicate 1 '0' := rfl
    rw [hf, zero, Whole.ofDigits_zeros_append, Whole.ofDigits_zeros_append]
  have text : ['0'] ++ fractionText fraction ++ Exponent.text none = '0' :: '.' :: fraction := by
    obtain ⟨c, cs, cons⟩ : ∃ c cs, fraction = c :: cs :=
      List.exists_cons_of_ne_nil (hf ▸ List.append_ne_nil_of_right_ne_nil _ nonempty)
    rw [cons, Exponent.text, List.append_nil]
    rfl
  have place : Exponent.value none - (fraction.length : Int) = e - ds.length + 1 := by
    rw [hf, List.length_append, List.length_replicate, Exponent.value]
    omega
  have denotes := denotes_digits (List.cons_ne_nil '0' []) rfl isDigit none
  rwa [text, value, place, hf] at denotes

/-- Digits with a point behind the first `w` of them, and with zeros if there are not so many. -/
theorem denotes_positional (nonempty : ds ≠ []) (digits : ds.all Char.isDigit = true) {w : Nat}
    (positive : 0 < w) (marksWhole : Bool) :
    Denotes (ds.take w ++ List.replicate (w - ds.length) '0' ++
        fractionText (if (ds.drop w).isEmpty && marksWhole then ['0'] else ds.drop w))
      (Whole.ofDigits ds * 10 ^ ((w : Int) - ds.length)) := by
  have isDigit := digits
  rw [← List.take_append_drop w ds, List.all_append, Bool.and_eq_true] at isDigit
  have whole : ds.take w ++ List.replicate (w - ds.length) '0' ≠ [] :=
    List.append_ne_nil_of_left_ne_nil
      (fun empty => (List.take_eq_nil_iff.1 empty).elim positive.ne' nonempty) _
  have whole_isDigit :
      (ds.take w ++ List.replicate (w - ds.length) '0').all Char.isDigit = true := by
    rw [List.all_append, isDigit.1, List.all_replicate]
    split_ifs <;> rfl
  rcases Nat.lt_or_ge w ds.length with inside | filled
  · -- The point is between the digits.
    have nonempty' : (ds.drop w).isEmpty = false := by
      rw [List.isEmpty_eq_false_iff, ← List.length_pos_iff, List.length_drop]
      omega
    have none_missing : List.replicate (w - ds.length) '0' = [] := by
      rw [Nat.sub_eq_zero_of_le inside.le, List.replicate_zero]
    have denotes := denotes_digits whole whole_isDigit isDigit.2 none
    have place : Exponent.value none - ((ds.drop w).length : Int) = w - ds.length := by
      rw [List.length_drop]
      change 0 - _ = _
      omega
    rw [none_missing, List.append_nil] at denotes ⊢
    rw [List.take_append_drop, place, Exponent.text, List.append_nil] at denotes
    rwa [nonempty', Bool.false_and, if_neg Bool.false_ne_true]
  · have all : ds.take w = ds := List.take_of_length_le filled
    have rest : ds.drop w = [] := List.drop_eq_nil_of_le filled
    have places : ((w - ds.length : Nat) : Int) = w - ds.length := by omega
    have number : ((Whole.ofDigits (ds ++ List.replicate (w - ds.length) '0') : Nat) : ℚ) =
        Whole.ofDigits ds * 10 ^ ((w : Int) - ds.length) := by
      rw [Whole.ofDigits_append_zeros, ← places, zpow_natCast]
      push_cast
      rfl
    rw [all] at whole whole_isDigit
    rw [all, rest, ← number]
    cases marksWhole with
    | false =>
      have denotes := @denotes_digits _ [] whole whole_isDigit rfl none
      rw [List.append_nil] at denotes
      simpa [Exponent.text, Exponent.value] using denotes
    | true =>
      have zero : ['0'] = List.replicate 1 '0' := rfl
      have denotes := @denotes_digits _ ['0'] whole whole_isDigit rfl none
      rw [zero, Whole.ofDigits_append_zeros _ 1, natCast_mul_ten_pow] at denotes
      simpa [Exponent.text, Exponent.value] using denotes

theorem render_eq (l : Layout) (ds : List Char) (e : Int) : l.render ds e =
    if e < l.least ∨ l.bound ≤ e then
      (kept ds).take 1 ++ fractionText ((kept ds).drop 1) ++ 'e' :: exponentText e
    else if e < 0 then '0' :: '.' :: (List.replicate (e.natAbs - 1) '0' ++ kept ds)
    else
      (kept ds).take (e.toNat + 1) ++ List.replicate (e.toNat + 1 - (kept ds).length) '0' ++
        fractionText (if ((kept ds).drop (e.toNat + 1)).isEmpty && l.marksWhole then ['0']
          else (kept ds).drop (e.toNat + 1)) := rfl

/-- A layout denotes the digits with the first one in the place of the exponent. -/
theorem denotes_render (l : Layout) (nonempty : ds ≠ []) (digits : ds.all Char.isDigit = true)
    (e : Int) :
    Denotes (l.render ds e) (Whole.ofDigits ds * 10 ^ (e - ds.length + 1)) := by
  have isDigit := kept_isDigit digits
  have kept_ne_nil := kept_ne_nil ds
  rw [number_kept nonempty, render_eq]
  by_cases scientific : e < l.least ∨ l.bound ≤ e
  · rw [if_pos scientific]
    exact denotes_scientific kept_ne_nil isDigit e
  by_cases below : e < 0
  · rw [if_neg scientific, if_pos below]
    exact denotes_below_one kept_ne_nil isDigit below
  · rw [if_neg scientific, if_neg below]
    have place : e - ((kept ds).length : Int) + 1 = (e.toNat + 1 : Nat) - (kept ds).length := by
      omega
    rw [place]
    exact denotes_positional kept_ne_nil isDigit (Nat.succ_pos _) _

end Layout

/-! ## Texts of doubles -/

namespace Binary64

open Literal

variable {x : Float} {p : Nat}

/-! ## Signs of texts -/

/-- The text is not empty and its first character is not a sign. -/
def IsSignless (text : String) : Prop :=
  ∃ c, text.toList.head? = some c ∧ c ≠ '-' ∧ c ≠ '+'

theorem IsSignless.append {a : String} (h : IsSignless a) (b : String) : IsSignless (a ++ b) := by
  obtain ⟨c, first, signless⟩ := h
  refine ⟨c, ?_, signless⟩
  rw [String.toList_append, List.head?_append, first]
  rfl

theorem isSignless_of_digits {cs rest : List Char} (nonempty : cs ≠ [])
    (digits : cs.all Char.isDigit = true) : IsSignless (String.ofList (cs ++ rest)) := by
  obtain ⟨c, tail, rfl⟩ := List.exists_cons_of_ne_nil nonempty
  have digit := List.all_eq_true.1 digits c List.mem_cons_self
  refine ⟨c, by rw [String.toList_ofList]; rfl, ?_, ?_⟩
  · rintro rfl
    exact absurd digit (by decide)
  · rintro rfl
    exact absurd digit (by decide)

theorem isSignless_render (l : Layout) {ds : List Char} (digits : ds.all Char.isDigit = true)
    (e : Int) : IsSignless (String.ofList (l.render ds e)) := by
  have isDigit := Layout.kept_isDigit digits
  have take {n : Nat} (positive : 0 < n) (rest : List Char) :
      IsSignless (String.ofList ((Layout.kept ds).take n ++ rest)) := by
    rw [← List.take_append_drop n (Layout.kept ds), List.all_append, Bool.and_eq_true] at isDigit
    refine isSignless_of_digits (fun empty => ?_) isDigit.1
    exact (List.take_eq_nil_iff.1 empty).elim positive.ne' (Layout.kept_ne_nil ds)
  rw [Layout.render_eq]
  split_ifs
  · rw [List.append_assoc]
    exact take one_pos _
  · exact ⟨'0', by rw [String.toList_ofList]; rfl, by decide⟩
  all_goals
    rw [List.append_assoc]
    exact take (Nat.succ_pos e.toNat) _

/-- The text of an unsigned double has no sign if the texts of fractions have none. -/
theorem IsUnsigned.textWith (h : IsUnsigned x) {magnitude : Nat → Nat → List Char}
    (signless : ∀ n d, IsSignless (String.ofList (magnitude n d))) :
    IsSignless (textWith magnitude x) := by
  rw [IsUnsigned] at h
  unfold Binary64.textWith ExactValue.ofFloat
  rcases unpacked : x.toModel.unpack with s | _ | s | ⟨s, m, e, hm⟩ <;> rw [unpacked] at h <;>
    cases h
  · change IsSignless "inf"
    exact ⟨'i', by decide, by decide⟩
  · exact signless 0 1
  · cases e <;> exact signless _ _

theorem IsUnsigned.general (h : IsUnsigned x) (p : Nat) : IsSignless (general p x) := by
  refine h.textWith fun n d => ?_
  split_ifs
  · exact isSignless_render _ rfl _
  · exact isSignless_render _ (Whole.all_isDigit_toDigits _) _

/-- Digits with so many zeros in front that there are more of them than decimal places. -/
def padded (p : Nat) (ds : List Char) : List Char := List.replicate (p + 1 - ds.length) '0' ++ ds

theorem lt_length_padded (p : Nat) (ds : List Char) : p < (padded p ds).length := by
  rw [padded, List.length_append, List.length_replicate]
  omega

theorem take_padded_ne_nil (p : Nat) (ds : List Char) :
    (padded p ds).take ((padded p ds).length - p) ≠ [] := fun empty => by
  have long := lt_length_padded p ds
  have short := congrArg List.length empty
  rw [List.length_take, List.length_nil] at short
  omega

theorem all_isDigit_padded {ds : List Char} (p : Nat) (digits : ds.all Char.isDigit = true) :
    ((padded p ds).take ((padded p ds).length - p)).all Char.isDigit = true ∧
      ((padded p ds).drop ((padded p ds).length - p)).all Char.isDigit = true := by
  rw [← Bool.and_eq_true, ← List.all_append, List.take_append_drop, padded, List.all_append, digits,
    List.all_replicate]
  split_ifs <;> rfl

theorem IsUnsigned.fixed (h : IsUnsigned x) (p : Nat) : IsSignless (fixed p x) :=
  h.textWith fun _ _ => isSignless_of_digits (take_padded_ne_nil p _)
    (all_isDigit_padded p (Whole.all_isDigit_toDigits _)).1

/-! ## Numbers of texts -/

/-- The fraction of a positive double. -/
theorem exists_fraction (h : IsPositive x) : ∃ n d, ExactValue.ofFloat x = .finite false n d ∧
    0 < n ∧ 0 < d ∧ (n : ℚ) / d = size x.toModel.unpack := by
  obtain ⟨m, e, hm, unpacked⟩ := h
  unfold ExactValue.ofFloat
  rw [unpacked]
  cases e with
  | ofNat e =>
    refine ⟨m * 2 ^ e, 1, rfl, Nat.mul_pos hm (Nat.two_pow_pos e), one_pos, ?_⟩
    rw [Nat.cast_one, div_one, Nat.cast_mul, Nat.cast_pow]
    rfl
  | negSucc e =>
    refine ⟨m, 2 ^ (e + 1), rfl, hm, Nat.two_pow_pos _, ?_⟩
    rw [size, zpow_negSucc, Nat.cast_pow, div_eq_mul_inv]
    rfl

/-- The text with at most `p` significant digits denotes the double rounded to so many digits. -/
theorem denotes_general (h : IsPositive x) (hp : 0 < p) (few : p ≤ exactDigits) :
    ∃ (m : Nat) (k : Int), (10 : ℚ) ^ k ≤ size x.toModel.unpack ∧
      size x.toModel.unpack < 10 ^ (k + 1) ∧
      |(m : ℚ) - size x.toModel.unpack / 10 ^ (k - p + 1)| ≤ 1 / 2 ∧
      Denotes (general p x).toList (m * 10 ^ (k - p + 1)) := by
  obtain ⟨n, d, fraction, hn, hd, value⟩ := exists_fraction h
  obtain ⟨lower, upper⟩ := Decimal.exponent_spec hn hd
  obtain ⟨m, error, length, number⟩ := Decimal.significant_spec hp hn hd
  rw [value] at lower upper error
  refine ⟨m, _, lower, upper, error, ?_⟩
  have text : (general p x).toList = (Layout.general p).render
      (Decimal.digits (Decimal.significant p n d).mantissa) (Decimal.significant p n d).exponent := by
    have digits : min (max p 1) exactDigits = p := by omega
    have bound : max p 1 = p := by omega
    unfold general textWith
    rw [fraction]
    dsimp only
    rw [if_neg Bool.false_ne_true, if_neg hn.ne', String.toList_ofList, digits, bound]
  have denotes := Layout.denotes_render (Layout.general p) (Nat.toDigits_ne_nil)
    (Whole.all_isDigit_toDigits (Decimal.significant p n d).mantissa)
    (Decimal.significant p n d).exponent
  have length : (Nat.toDigits 10 (Decimal.significant p n d).mantissa).length = p := length
  rw [Whole.ofDigits_toDigits, length] at denotes
  rwa [text, ← number]

/-- The text with `p` decimal places denotes the double rounded to so many places. -/
theorem denotes_fixed (h : IsPositive x) (p : Nat) :
    ∃ m : Nat, |(m : ℚ) - size x.toModel.unpack * 10 ^ p| ≤ 1 / 2 ∧
      Denotes (fixed p x).toList (m / 10 ^ p) := by
  obtain ⟨n, d, fraction, hn, hd, value⟩ := exists_fraction h
  have error := abs_roundDiv_sub_le (a := n * 10 ^ p) hd
  rw [Nat.cast_mul, Nat.cast_pow, mul_div_right_comm, value] at error
  refine ⟨Decimal.places p n d, error, ?_⟩
  obtain ⟨ds, hds⟩ : ∃ ds, ds = Decimal.digits (Decimal.places p n d) := ⟨_, rfl⟩
  have text : (fixed p x).toList = (padded p ds).take ((padded p ds).length - p) ++
      Layout.fractionText ((padded p ds).drop ((padded p ds).length - p)) := by
    unfold fixed textWith
    rw [fraction, hds]
    dsimp only
    rw [if_neg Bool.false_ne_true, String.toList_ofList]
    rfl
  have isDigit := all_isDigit_padded p (hds ▸ Whole.all_isDigit_toDigits _ : ds.all _ = true)
  have number : Whole.ofDigits (padded p ds) = Decimal.places p n d := by
    rw [padded, Whole.ofDigits_zeros_append, hds, Whole.ofDigits_digits]
  have denotes := denotes_digits (take_padded_ne_nil p ds) isDigit.1 isDigit.2 none
  have place : Exponent.value none -
      (((padded p ds).drop ((padded p ds).length - p)).length : Int) = -p := by
    have long := lt_length_padded p ds
    rw [List.length_drop]
    change 0 - _ = _
    omega
  rw [List.take_append_drop, number, place, Exponent.text, List.append_nil, zpow_neg, zpow_natCast,
    ← div_eq_mul_inv] at denotes
  rwa [text]

end Binary64

end Metrology
