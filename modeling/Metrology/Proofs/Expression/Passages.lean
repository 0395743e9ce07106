import Metrology.Proofs.Expression.Factors

/-!
# Passages

A text goes on to a later place in it without some characters (`Passes`).  Which characters a word,
a power and a coefficient can hold decides where they pass (`passes_word`, `passes_powerText`,
`passes_coefficient`).
-/

namespace Metrology.Expression

variable {o : Options} {barred : List Char} {s t r w : List Char} {c : Char} {x : Option Float}
  {e : Expression}

/-- The text `s` goes on to `r` without the characters `barred`. -/
def Passes (barred s r : List Char) : Prop := ∃ w, s = w ++ r ∧ ∀ c ∈ barred, c ∉ w

namespace Passes

theorem refl (s : List Char) : Passes barred s s := ⟨[], rfl, fun _ _ => List.not_mem_nil⟩

theorem trans (h : Passes barred s t) (h' : Passes barred t r) : Passes barred s r := by
  obtain ⟨w, rfl, free⟩ := h
  obtain ⟨w', rfl, free'⟩ := h'
  refine ⟨w ++ w', (List.append_assoc ..).symm, fun c member => ?_⟩
  rw [List.mem_append, not_or]
  exact ⟨free c member, free' c member⟩

theorem cons (h : c ∉ barred) : Passes barred (c :: s) s := by
  refine ⟨[c], rfl, fun d member => ?_⟩
  rw [List.mem_singleton]
  rintro rfl
  exact h member

theorem of_all {fits : Char → Bool} (h : w.all fits = true) (h' : barred.any fits = false) :
    Passes barred (w ++ r) r :=
  ⟨w, rfl, fun c member holds => List.any_eq_false.1 h' c member (List.all_eq_true.1 h c holds)⟩

/-- A character of a class that is not barred. -/
theorem cons_of_fits {fits : Char → Bool} (h : fits c = true) (h' : barred.any fits = false) :
    Passes barred (c :: s) s := by
  refine .cons fun member => ?_
  exact List.any_eq_false.1 h' c member h

end Passes

/-- A class of which no character is barred may be narrowed. -/
theorem any_eq_false_of_imp {fits fits' : Char → Bool} (h : barred.any fits = false)
    (imp : ∀ c, fits' c = true → fits c = true) : barred.any fits' = false :=
  List.any_eq_false.2 fun c member fit => List.any_eq_false.1 h c member (imp c fit)

theorem passes_powerText (h : barred.any Literal.isSignedDigit = false)
    {n : Option Whole.Numeral} : Passes barred (powerText n ++ r) r := by
  cases n with
  | none => exact .refl r
  | some n => exact .of_all n.all_text h

/-! ## Words -/

section Words

variable (names : barred.any isNameCharacter = false)

include names

theorem passes_letters (h : w.all Text.isLetter = true) : Passes barred (w ++ r) r := by
  refine .of_all h (any_eq_false_of_imp names fun c letter => ?_)
  rw [isNameCharacter, letter, Bool.or_true]

/-- The characters of words are those of names and the escape character. -/
theorem passes_word (escapes : barred.any isEscape = false) (h : Word o.escape w e) :
    Passes barred (w ++ r) r := by
  have escape {s : List Char} : Passes barred (o.escape :: s) s :=
    .cons_of_fits o.escape_fits escapes
  cases h with
  | escaped name => exact escape.trans (.of_all name.2 names)
  | prefixed factor name =>
    rw [List.append_assoc]
    exact (passes_letters names (all_isLetter_of_factor? factor)).trans
      (escape.trans (.of_all name.2 names))
  | @celsius n characters =>
    have all : ('\'' :: 'C' :: n).all isNameCharacter = true := characters
    exact .of_all all names
  | deka name => exact (passes_letters (w := ['d', 'a']) names rfl).trans (.of_all name.all names)
  | plain name => exact .of_all name.2 names
  | @letter c _ _ _ factor name =>
    have letters : [c].all Text.isLetter = true := by
      rw [List.all_cons, isLetter_of_letterFactor? factor]
      rfl
    exact (passes_letters names letters).trans (.of_all name.2 names)

end Words

/-! ## Coefficients -/

section Coefficients

variable (starts : barred.any Literal.isStart = false)
  (names : barred.any isNameCharacter = false)

include starts in
theorem passes_sign {sign : Option Literal.Sign} :
    Passes barred (Literal.Sign.text sign ++ r) r := by
  refine .of_all Literal.Sign.all_text (any_eq_false_of_imp starts fun c sign => ?_)
  rw [Literal.isStart, sign, Bool.or_true, Bool.true_or]

include starts in
theorem passes_digits (h : w.all Literal.isDigitOrPoint = true) : Passes barred (w ++ r) r := by
  refine .of_all h (any_eq_false_of_imp starts fun c digit => ?_)
  rcases Bool.or_eq_true_iff.1 digit with digit | point
  · rw [Literal.isStart, digit, Bool.true_or, Bool.true_or]
  · rw [Literal.isStart, point, Bool.or_true]

include starts names

/-- The characters of numerals are those that they start with and the letters before an
exponent. -/
theorem passes_numeral (n : Literal.Numeral) : Passes barred (n.text ++ r) r := by
  rw [Literal.Numeral.text, List.append_assoc, List.append_assoc]
  refine (passes_sign starts).trans
    ((passes_digits starts (List.all_eq_true.2 n.all_mantissa)).trans ?_)
  cases n.exponent with
  | none => exact .refl r
  | some e =>
    have letters : [e.mark].all Text.isLetter = true := by
      have mark := e.isExponentMark_mark
      rw [Literal.isExponentMark, Bool.or_eq_true, decide_eq_true_eq, decide_eq_true_eq] at mark
      rcases mark with mark | mark <;> rw [mark] <;> rfl
    have digits : e.digits.all Literal.isDigitOrPoint = true :=
      List.all_eq_true.2 fun c h => by
        rw [Literal.isDigitOrPoint, List.all_eq_true.1 e.all_isDigit c h, Bool.true_or]
    rw [Literal.Exponent.text, List.cons_append, List.append_assoc]
    exact (passes_letters names letters).trans
      ((passes_sign starts).trans (passes_digits starts digits))

/-- Coefficients have blanks around them. -/
theorem passes_coefficient (blanks : barred.any Text.isBlank = false)
    (h : Coefficient s x r) : Passes barred s r := by
  cases h with
  | absent before => exact .of_all before blanks
  | present n before after =>
    exact (Passes.of_all before blanks).trans
      ((passes_numeral starts names n).trans (.of_all after blanks))

end Coefficients

end Metrology.Expression
