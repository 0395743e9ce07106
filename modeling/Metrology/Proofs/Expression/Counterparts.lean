import Metrology.Proofs.Expression.Characters
import Metrology.Proofs.Text.Span

/-!
# Texts that are read alike

Two characters are counterparts under two options if each is the escape character of its options,
or if they are the same character and it is the escape character of neither (`Counterpart`).  No
class of characters that the readers ask for has an escape character in it (`Reserves`), so
counterparts are in the same classes.  A `Pairing` relates two texts whose characters are
counterparts as long as enough of the first one is left, and a scan finds the same in both
(`Pairing.span_eq`, `Pairing.keeps_split`).
-/

namespace Metrology

open Text

/-! ## Classes without escape characters -/

theorem reserves_isSign : Reserves Literal.isSign := by
  intro c sign
  refine reserves_isStart c ?_
  rw [Literal.isStart, sign, Bool.or_true, Bool.true_or]

theorem reserves_isSignedDigit : Reserves Literal.isSignedDigit := by
  intro c digit
  refine reserves_isStart c ?_
  rw [Literal.isStart, ← Literal.isSignedDigit, digit, Bool.true_or]

theorem reserves_isDigitOrPoint : Reserves Literal.isDigitOrPoint := by
  intro c digit
  refine reserves_isStart c ?_
  rw [Literal.isStart, Bool.or_right_comm, ← Literal.isDigitOrPoint, digit, Bool.true_or]

theorem reserves_isExponentMark : Reserves Literal.isExponentMark := by
  intro c mark
  refine reserves_isLetter c ?_
  rw [Literal.isExponentMark, Bool.or_eq_true, decide_eq_true_eq, decide_eq_true_eq] at mark
  rcases mark with rfl | rfl <;> rfl

theorem reserves_isNameCharacter : Reserves Expression.isNameCharacter := by
  intro c name
  rw [Expression.isNameCharacter, Bool.or_eq_true, decide_eq_true_eq] at name
  rcases name with rfl | letter
  · exact Options.isEscape_of_reserved rfl
  · exact reserves_isLetter c letter

namespace Expression

theorem reserves_isUnprefixedPair (c : Char) : Reserves (isUnprefixedPair c) := by
  intro d pair
  refine reserves_isLetter d ?_
  simp only [isUnprefixedPair, List.contains_iff_mem, List.mem_cons, Prod.mk.injEq,
    List.not_mem_nil, or_false] at pair
  rcases pair with ⟨-, rfl⟩ | ⟨-, rfl⟩ | ⟨-, rfl⟩ | ⟨-, rfl⟩ | ⟨-, rfl⟩ | ⟨-, rfl⟩ <;> rfl

variable {o o' : Options} {c c' d : Char} {a a' : Option Char} {fits : Char → Bool}

/-! ## Counterparts -/

/-- The character `c'` is to the options `o'` what `c` is to the options `o`. -/
inductive Counterpart (o o' : Options) : Char → Char → Prop
  | escape : Counterpart o o' o.escape o'.escape
  | other {c : Char} (h : c ≠ o.escape) (h' : c ≠ o'.escape) : Counterpart o o' c c

theorem counterpart_self (o : Options) (c : Char) : Counterpart o o c c := by
  by_cases h : c = o.escape
  · exact h ▸ .escape
  · exact .other h h

namespace Counterpart

theorem fits_eq (h : Counterpart o o' c c') (reserves : Reserves fits) : fits c' = fits c := by
  cases h with
  | escape => rw [reserves.eq_false o.escape_fits, reserves.eq_false o'.escape_fits]
  | other => rfl

theorem eq_of_fits (h : Counterpart o o' c c') (reserves : Reserves fits) (hc : fits c = true) :
    c' = c := by
  cases h with
  | escape => rw [reserves.eq_false o.escape_fits] at hc; cases hc
  | other => rfl

theorem eq_escape_iff (h : Counterpart o o' c c') : c' = o'.escape ↔ c = o.escape := by
  cases h with
  | escape => exact iff_of_true rfl rfl
  | other h h' => exact iff_of_false h' h

theorem eq_iff (h : Counterpart o o' c c') (fixed : isEscape d = false) : c' = d ↔ c = d := by
  cases h with
  | escape => exact iff_of_false (o'.escape_ne fixed).symm (o.escape_ne fixed).symm
  | other => exact Iff.rfl

/-- Under the same options only the same character is a counterpart. -/
theorem eq_of_same (h : Counterpart o o c c') : c' = c := by
  cases h <;> rfl

end Counterpart

/-! ## Characters ahead -/

/-- What comes next in two texts: counterparts, or the ends of both. -/
abbrev Ahead (o o' : Options) : Option Char → Option Char → Prop := Option.Rel (Counterpart o o')

namespace Ahead

theorem any_eq (h : Ahead o o' a a') (reserves : Reserves fits) : a'.any fits = a.any fits := by
  cases h with
  | none => rfl
  | some h => exact h.fits_eq reserves

theorem filter_eq (h : Ahead o o' a a') (reserves : Reserves fits) :
    a'.filter fits = a.filter fits := by
  cases h with
  | none => rfl
  | @some c c' h =>
    by_cases hc : fits c = true
    · rw [h.eq_of_fits reserves hc]
    · rw [Bool.not_eq_true] at hc
      rw [Option.filter_some_neg hc, Option.filter_some_neg ((h.fits_eq reserves).trans hc)]

theorem eq_some_iff (h : Ahead o o' a a') (fixed : isEscape d = false) :
    a' = some d ↔ a = some d := by
  cases h with
  | none => exact Iff.rfl
  | some h => rw [Option.some_inj, Option.some_inj, h.eq_iff fixed]

theorem eq_escape_iff (h : Ahead o o' a a') : a' = some o'.escape ↔ a = some o.escape := by
  cases h with
  | none => exact iff_of_false (by rintro ⟨⟩) (by rintro ⟨⟩)
  | some h => rw [Option.some_inj, Option.some_inj, h.eq_escape_iff]

theorem eq_of_same (h : Ahead o o a a') : a' = a := by
  cases h with
  | none => rfl
  | some h => rw [h.eq_of_same]

end Ahead

/-! ## Pairs of texts -/

/-- Both texts are at their end, or they go on with counterparts, and one character further with
counterparts again. -/
inductive View (o o' : Options) (Pairs : List Char → List Char → Prop) :
    List Char → List Char → Prop
  | nil : View o o' Pairs [] []
  | cons {c c' : Char} {s s' : List Char} (first : Counterpart o o' c c')
    (ahead : Ahead o o' s.head? s'.head?) (rest : Pairs s s') :
    View o o' Pairs (c :: s) (c' :: s')

theorem View.head? {Pairs : List Char → List Char → Prop} {s s' : List Char}
    (h : View o o' Pairs s s') : Ahead o o' s.head? s'.head? := by
  cases h with
  | nil => exact .none
  | cons first => exact .some first

theorem View.startsName_eq {Pairs : List Char → List Char → Prop} {s s' : List Char}
    (view : View o o' Pairs s s') :
    startsName o'.escape s' = startsName o.escape s := by
  cases view with
  | nil => rfl
  | cons first ahead rest =>
    rw [startsName, startsName, first.fits_eq reserves_isLetter, ahead.any_eq reserves_isLetter,
      decide_eq_decide.2 first.eq_escape_iff,
      decide_eq_decide.2 (first.eq_iff (Options.isEscape_of_reserved rfl)),
      decide_eq_decide.2 (ahead.eq_some_iff (Options.isEscape_of_isLetter rfl))]

/-- Texts that are read side by side, the first one under the options `o` and the second one under
the options `o'`, for as long as at least `horizon` characters of the first one are left. -/
structure Pairing (o o' : Options) where
  Pairs : List Char → List Char → Prop
  horizon : Nat
  /-- Where so many characters of the first text are left, … -/
  behind : Nat
  /-- … so many of the second one are. -/
  behind' : Nat
  length_eq : ∀ {s s' : List Char}, Pairs s s' → s'.length + behind = s.length + behind'
  behind_le : behind ≤ horizon
  view : ∀ {s s' : List Char}, Pairs s s' → horizon ≤ s.length → View o o' Pairs s s'

namespace Pairing

variable (T : Pairing o o') {s s' t t' : List Char}

/-! ## Scans -/

/-- A span within the horizon is the same in both texts. -/
theorem span_eq (reserves : Reserves fits) (pair : T.Pairs s s')
    (seen : T.horizon ≤ (s.dropWhile fits).length) :
    s'.takeWhile fits = s.takeWhile fits ∧ T.Pairs (s.dropWhile fits) (s'.dropWhile fits) := by
  induction s generalizing s' with
  | nil =>
    cases T.view pair seen
    exact ⟨rfl, pair⟩
  | cons c s ih =>
    cases T.view pair (Nat.le_trans seen (List.dropWhile_suffix _).length_le) with
    | @cons _ c' _ s' first ahead rest =>
      by_cases hc : fits c = true
      · obtain rfl := first.eq_of_fits reserves hc
        rw [List.dropWhile_cons_of_pos hc] at seen
        rw [List.takeWhile_cons_of_pos hc, List.takeWhile_cons_of_pos hc,
          List.dropWhile_cons_of_pos hc, List.dropWhile_cons_of_pos hc]
        obtain ⟨found, left⟩ := ih rest seen
        exact ⟨congrArg _ found, left⟩
      · have hc' : ¬fits c' = true := by rwa [first.fits_eq reserves]
        rw [List.takeWhile_cons_of_neg hc, List.takeWhile_cons_of_neg hc',
          List.dropWhile_cons_of_neg hc, List.dropWhile_cons_of_neg hc']
        exact ⟨rfl, pair⟩

/-- The scan finds the same in the second text as in the first one, if it ends within the
horizon. -/
def Keeps (scan : List Char → List Char × List Char) : Prop :=
  ∀ s s', T.Pairs s s' → T.horizon ≤ (scan s).2.length →
    (scan s').1 = (scan s).1 ∧ T.Pairs (scan s).2 (scan s').2

theorem keeps_splitSign : T.Keeps Literal.splitSign := by
  intro s s' pair seen
  have shorter := congrArg List.length (Literal.splitSign_append s)
  rw [List.length_append] at shorter
  cases T.view pair (by omega) with
  | nil => exact ⟨rfl, pair⟩
  | @cons c c' s s' first ahead rest =>
    rw [Literal.splitSign, Literal.splitSign, first.fits_eq reserves_isSign]
    split_ifs with sign
    · exact ⟨by rw [first.eq_of_fits reserves_isSign sign], rest⟩
    · exact ⟨rfl, pair⟩

theorem keeps_splitExponent : T.Keeps Literal.splitExponent := by
  intro s s' pair seen
  have shorter := congrArg List.length (Literal.splitExponent_append s)
  rw [List.length_append] at shorter
  cases T.view pair (by omega) with
  | nil => exact ⟨rfl, pair⟩
  | @cons e e' s s' first ahead rest =>
    have same : Literal.StartsExponent (e' :: s') ↔ Literal.StartsExponent (e :: s) := by
      rw [Literal.startsExponent_cons_iff, Literal.startsExponent_cons_iff,
        first.fits_eq reserves_isExponentMark, ahead.any_eq reserves_isSignedDigit]
    by_cases starts : Literal.StartsExponent (e :: s)
    · obtain ⟨mark, digit⟩ := Literal.startsExponent_cons_iff.1 starts
      obtain ⟨mark', digit'⟩ := Literal.startsExponent_cons_iff.1 (same.2 starts)
      rw [Literal.splitExponent_cons mark digit] at seen ⊢
      rw [Literal.splitExponent_cons mark' digit', first.eq_of_fits reserves_isExponentMark mark]
      have signed := Nat.le_trans seen (List.dropWhile_suffix _).length_le
      obtain ⟨sign, rest⟩ := T.keeps_splitSign _ _ rest signed
      obtain ⟨digits, rest⟩ := T.span_eq reserves_isDigitOrPoint rest seen
      exact ⟨by rw [sign, digits], rest⟩
    · rw [Literal.splitExponent_of_not_startsExponent starts,
        Literal.splitExponent_of_not_startsExponent (same.not.2 starts)]
      exact ⟨rfl, pair⟩

theorem keeps_split : T.Keeps Literal.split := by
  intro s s' pair seen
  have shorter := congrArg List.length
    (Literal.splitExponent_append ((Literal.splitSign s).2.dropWhile Literal.isDigitOrPoint))
  rw [List.length_append] at shorter
  rw [Literal.split] at seen ⊢
  rw [Literal.split]
  dsimp only at seen ⊢
  have scanned : T.horizon ≤ ((Literal.splitSign s).2.dropWhile Literal.isDigitOrPoint).length := by
    omega
  have signed := Nat.le_trans scanned (List.dropWhile_suffix _).length_le
  obtain ⟨sign, rest⟩ := T.keeps_splitSign s s' pair signed
  obtain ⟨digits, rest⟩ := T.span_eq reserves_isDigitOrPoint rest scanned
  obtain ⟨exponent, rest⟩ := T.keeps_splitExponent _ _ rest seen
  exact ⟨by rw [sign, digits, exponent], rest⟩

end Pairing

end Expression

end Metrology
