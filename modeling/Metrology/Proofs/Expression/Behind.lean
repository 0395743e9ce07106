import Metrology.Proofs.Expression.Texts

/-!
# What comes behind a text

The rules look one character ahead, and no part of an expression goes on with a closing parenthesis.
Where no factor may be missing, none goes on with an operator either.  Such a character behind a
text does not change what the text spells (`Spells.append`), so an expression in parentheses is a
factor that stands for it, and an expression of its own (`spells_enclosed`).
-/

namespace Metrology

variable {s r v : List Char} {c : Char}

namespace Expression

variable {o : Options} {tens : Bool} {part : Part} {x : Option Float} {e : Expression}

/-! ## Characters that end a part -/

/-- The character `c` ends every part of an expression.  An operator does so only where no factor
may be missing, for a missing factor ends where no unit starts. -/
def Closes (o : Options) (c : Char) : Prop :=
  c = ')' ∨ isOperator c = true ∧ o.dimensionless = false

namespace Closes

theorem not_isSignedDigit (h : Closes o c) : Literal.isSignedDigit c = false := by
  rcases h with rfl | ⟨operator, -⟩
  · rfl
  · exact isSignedDigit_of_isOperator operator

theorem not_isExponentMark (h : Closes o c) : Literal.isExponentMark c = false := by
  rcases h with rfl | ⟨operator, -⟩
  · rfl
  · rcases isOperator_iff.1 operator with rfl | rfl | rfl <;> rfl

end Closes

/-- Where no factor may be missing, every part has a text. -/
theorem ne_nil_of_spells (strict : o.dimensionless = false) (h : Spells o tens part s e r) :
    s ≠ [] := by
  induction h with
  | one => exact List.cons_ne_nil _ _
  | ten => exact List.cons_ne_nil _ _
  | @unit w r e word n =>
    intro empty
    have present := present_of_word (r := powerText n ++ r) word
    rw [empty] at present
    rcases present with one | name
    · cases one
    · cases name
  | group => exact List.cons_ne_nil _ _
  | missing lax => cases strict.symm.trans lax
  | first factor ih => exact ih
  | product term operator single factor ih => exact ih
  | quotient term single factor ih => exact ih
  | expression coefficient term ih =>
    cases coefficient with
    | absent => exact List.append_ne_nil_of_right_ne_nil _ ih
    | present n =>
      exact List.append_ne_nil_of_right_ne_nil _ (List.append_ne_nil_of_left_ne_nil
        (fun empty => by simpa [empty] using n.head?_text (r := [])) _)

/-- A part that a character does not end by itself has a text. -/
theorem Closes.eq_or_ne_nil (h : Closes o c) (spelled : Spells o tens part s e r) :
    c = ')' ∨ s ≠ [] :=
  h.imp_right fun operator => ne_nil_of_spells operator.2 spelled

end Expression

open Expression

variable {o : Options} {tens : Bool} {part : Part} {x : Option Float} {e : Expression}

/-! ## Texts with a character behind them -/

theorem Text.Stops.append_char {fits : Char → Bool} (h : Text.Stops fits s)
    (closing : fits ')' = false) (ends : c = ')' ∨ s ≠ []) : Text.Stops fits (s ++ c :: v) := by
  rcases ends with rfl | ne
  · exact h.append_stops (Text.stops_cons.2 closing)
  · exact h.append ne _

theorem Literal.Numeral.EndsBefore.append_char {n : Literal.Numeral} (h : n.EndsBefore s)
    (closes : Closes o c) (ends : c = ')' ∨ s ≠ []) : n.EndsBefore (s ++ c :: v) := by
  refine ⟨h.1.append_char rfl ends, fun absent exponent => h.2 absent ?_⟩
  obtain ⟨mark, d, t, text, marked, signed⟩ := exponent
  rcases s with _ | ⟨mark', _ | ⟨d', s⟩⟩
  · obtain ⟨rfl, -⟩ := List.cons.inj text
    cases closes.not_isExponentMark.symm.trans marked
  · obtain ⟨-, rest⟩ := List.cons.inj text
    obtain ⟨rfl, -⟩ := List.cons.inj rest
    cases closes.not_isSignedDigit.symm.trans signed
  · obtain ⟨rfl, rest⟩ := List.cons.inj text
    obtain ⟨rfl, -⟩ := List.cons.inj rest
    exact ⟨_, _, s, rfl, marked, signed⟩

namespace Expression

theorem Coefficient.append_char (h : Coefficient s x r) (closes : Closes o c)
    (ends : c = ')' ∨ r ≠ []) : Coefficient (s ++ c :: v) x (r ++ c :: v) := by
  cases h with
  | absent blanks noBlank noNumeral =>
    rw [List.append_assoc]
    exact .absent blanks (noBlank.append_char (by decide) ends) (noNumeral.append_char rfl ends)
  | present n blanks blanks' noBlank numeral =>
    have numeral' := numeral.append_char (v := v) closes
      (ends.imp_right fun ne => List.append_ne_nil_of_right_ne_nil _ ne)
    rw [List.append_assoc] at numeral'
    rw [List.append_assoc, List.append_assoc, List.append_assoc]
    exact .present n blanks blanks' (noBlank.append_char (by decide) ends) numeral'

theorem startsName_append_closing (h : startsName o.escape s = false) :
    startsName o.escape (s ++ ')' :: v) = false := by
  rcases s with _ | ⟨c, _ | ⟨d, s⟩⟩
  · have escape : ')' ≠ o.escape := o.escape_ne (Options.isEscape_of_reserved rfl)
    simp [startsName, escape, show Text.isLetter ')' = false from rfl]
  · simpa [startsName, show Text.isLetter ')' = false from rfl] using h
  · exact h

theorem head?_append_closing (h : s.head? ≠ some c) (other : c ≠ ')') :
    (s ++ ')' :: v).head? ≠ some c := by
  cases s with
  | nil => exact fun first => other (Option.some.inj first).symm
  | cons => exact h

/-- What the grammar spells, it also spells before a character that ends every part. -/
theorem Spells.append (h : Spells o tens part s e r) (closes : Closes o c) :
    Spells o tens part (s ++ c :: v) e (r ++ c :: v) := by
  induction h with
  | one => exact .one
  | ten h => exact .ten h
  | unit word n =>
    rw [List.append_assoc, List.append_assoc]
    exact .unit word n
  | group n inner ih =>
    rw [List.cons_append, List.append_assoc] at ih
    exact .group n ih
  | missing lax noGroup noOne noName =>
    obtain rfl : c = ')' := closes.resolve_right fun operator => by
      cases operator.2.symm.trans lax
    exact .missing lax (head?_append_closing noGroup (by decide))
      (head?_append_closing noOne (by decide)) (startsName_append_closing noName)
  | first factor ih => exact .first ih
  | product term operator single factor ih ih' =>
    exact .product ih operator (single.append_char rfl (closes.eq_or_ne_nil factor)) ih'
  | quotient term single factor ih ih' =>
    exact .quotient ih (single.append_char rfl (closes.eq_or_ne_nil factor)) ih'
  | expression coefficient term ih =>
    exact .expression (coefficient.append_char closes (closes.eq_or_ne_nil term)) ih

/-! ## Parentheses around a text -/

theorem Coefficient.append_closing (h : Coefficient s x r) :
    Coefficient (s ++ ')' :: v) x (r ++ ')' :: v) :=
  have closes : Closes default ')' := .inl rfl
  h.append_char closes (.inl rfl)

/-- The text in parentheses. -/
def enclosed (s : List Char) : List Char := '(' :: (s ++ [')'])

/-- There are no blanks at the ends of a text in parentheses. -/
theorem trim_enclosed (s : List Char) : Text.trim (enclosed s) = enclosed s := by
  have last : (enclosed s).reverse = ')' :: ('(' :: s).reverse := by simp [enclosed]
  refine Text.trimWhere_of_stops (Text.stops_cons.2 (by decide)) ?_
  rw [last]
  exact Text.stops_cons.2 (by decide)

/-- No coefficient stands in front of a parenthesis. -/
theorem coefficient_enclosed (s : List Char) : Coefficient (enclosed s) none (enclosed s) :=
  .absent (b := []) rfl (Text.stops_cons.2 (by decide)) (Text.stops_cons.2 rfl)

theorem spells_factor_enclosed (h : Spells o tens .expression s e []) :
    Spells o tens .factor (enclosed s) e [] :=
  .group none (h.append (.inl rfl))

/-- An expression in parentheses stands for the same expression. -/
theorem spells_enclosed (h : Spells o tens .expression s e []) :
    Spells o tens .expression (enclosed s) e [] :=
  .expression (coefficient_enclosed s) (.first (spells_factor_enclosed h))

end Expression

end Metrology
