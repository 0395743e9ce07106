import Metrology.Expression.Reader
import Metrology.Proofs.Number.Numeral

/-!
# Characters of unit expressions

Which classes of characters exclude each other: letters and the characters of numbers are neither
blanks nor operators, and no class that has a meaning holds an escape character (`Reserves`).
-/

namespace Metrology

open Text Expression

variable {c d : Char}

/-! ## Letters and digits -/

theorem isBlank_eq_false (h : 33 ≤ c.toNat) (h' : c.toNat ≤ 126) : isBlank c = false := by
  rw [← Bool.not_eq_true, isBlank, Ranges.contains_iff]
  rintro ⟨range, member, first, last⟩
  simp only [blankRanges, List.mem_cons, List.not_mem_nil, or_false] at member
  rcases member with rfl | rfl | rfl | rfl | rfl | rfl | rfl | rfl | rfl | rfl <;> omega

theorem isBlank_of_isLetter (h : isLetter c = true) : isBlank c = false := by
  rcases toNat_of_isLetter h with ⟨_, _⟩ | ⟨_, _⟩ <;> exact isBlank_eq_false (by omega) (by omega)

theorem isBlank_of_isStart (h : Literal.isStart c = true) : isBlank c = false := by
  rcases Literal.isStart_iff.1 h with digit | rfl | rfl | rfl
  · obtain ⟨_, _⟩ := toNat_of_isDigit digit
    exact isBlank_eq_false (by omega) (by omega)
  all_goals decide

/-- Digits, signs, operators and parentheses are no letters. -/
theorem isLetter_eq_false (h : c.toNat < 65) : isLetter c = false := by
  rw [← Bool.not_eq_true]
  intro letter
  rcases toNat_of_isLetter letter with ⟨_, _⟩ | ⟨_, _⟩ <;> omega

theorem isLetter_of_isStart (h : Literal.isStart c = true) : isLetter c = false := by
  rcases Literal.isStart_iff.1 h with digit | rfl | rfl | rfl
  · obtain ⟨_, _⟩ := toNat_of_isDigit digit
    exact isLetter_eq_false (by omega)
  all_goals decide

theorem isOperator_iff : isOperator c = true ↔ c = ' ' ∨ c = '.' ∨ c = '/' := by
  simp [isOperator, or_assoc]

theorem isLetter_of_isOperator (h : isOperator c = true) : isLetter c = false := by
  rcases isOperator_iff.1 h with rfl | rfl | rfl <;> decide

theorem isNameCharacter_of_isOperator (h : isOperator c = true) : isNameCharacter c = false := by
  rcases isOperator_iff.1 h with rfl | rfl | rfl <;> decide

theorem isSignedDigit_of_isOperator (h : isOperator c = true) :
    Literal.isSignedDigit c = false := by
  rcases isOperator_iff.1 h with rfl | rfl | rfl <;> decide

/-! ## Prefixes -/

theorem isLetter_of_letterFactor? {x : Float} (h : Prefix.letterFactor? c = some x) :
    isLetter c = true := by
  unfold Prefix.letterFactor? at h
  split at h <;> first | rfl | cases h

theorem factor?_eq_some_iff {code : String} {x : Float} :
    Prefix.factor? code = some x ↔
      (∃ c, code.toList = [c] ∧ Prefix.letterFactor? c = some x) ∨
        code.toList = ['d', 'a'] ∧ Prefix.deka = x := by
  constructor
  · intro h
    unfold Prefix.factor? at h
    split at h
    · next c single => exact .inl ⟨c, single, h⟩
    · next c d two =>
      split at h
      · next deka => exact .inr ⟨by rw [two, deka.1, deka.2], Option.some.inj h⟩
      · contradiction
    · contradiction
  · intro h
    unfold Prefix.factor?
    obtain ⟨c, single, factor⟩ | ⟨two, rfl⟩ := h
    · rw [single]
      exact factor
    · rw [two]
      exact if_pos ⟨rfl, rfl⟩

theorem all_isLetter_of_factor? {code : String} {x : Float} (h : Prefix.factor? code = some x) :
    code.toList.all isLetter = true := by
  rcases factor?_eq_some_iff.1 h with ⟨c, code, factor⟩ | ⟨code, -⟩ <;> rw [code]
  · rw [List.all_cons, isLetter_of_letterFactor? factor]
    rfl
  · rfl

/-! ## The escape character -/

/-- No character that fits can be an escape character. -/
def Reserves (fits : Char → Bool) : Prop := ∀ c, fits c = true → isEscape c = false

theorem Reserves.eq_false {fits : Char → Bool} (h : Reserves fits) (escape : isEscape c = true) :
    fits c = false := by
  by_contra fit
  rw [h c (Bool.not_eq_false _ ▸ fit)] at escape
  cases escape

namespace Options

/-- The escape character is not a character that cannot be one. -/
theorem escape_ne (o : Options) (h : isEscape c = false) : c ≠ o.escape := by
  rintro rfl
  rw [o.escape_fits] at h
  cases h

theorem isEscape_of_isAlphanumeric (h : isAlphanumeric c = true) : isEscape c = false := by
  rw [isEscape, isFreeCharacter, h]
  rfl

theorem isEscape_of_isLetter (h : isLetter c = true) : isEscape c = false :=
  isEscape_of_isAlphanumeric (isAlphanumeric_of_isLetter h)

theorem isEscape_of_isDigit (h : c.isDigit = true) : isEscape c = false :=
  isEscape_of_isAlphanumeric (isAlphanumeric_of_isDigit h)

theorem isEscape_of_reserved (h : reservedCharacters.contains c = true) : isEscape c = false := by
  rw [isEscape, isFreeCharacter, h, Bool.or_true]
  rfl

end Options

theorem reserves_isBlank : Reserves isBlank := by
  intro c blank
  rw [isEscape, isFreeCharacter, blank, Bool.or_true]
  rfl

theorem reserves_isLetter : Reserves isLetter := fun _ => Options.isEscape_of_isLetter

theorem reserves_isOperator : Reserves isOperator := by
  intro c operator
  rcases isOperator_iff.1 operator with rfl | rfl | rfl
  · decide +kernel
  all_goals exact Options.isEscape_of_reserved rfl

theorem reserves_isStart : Reserves Literal.isStart := by
  intro c start
  rcases Literal.isStart_iff.1 start with digit | rfl | rfl | rfl
  · exact Options.isEscape_of_isDigit digit
  all_goals exact Options.isEscape_of_reserved rfl

namespace Options

variable (o : Options)

theorem isLetter_escape : isLetter o.escape = false := reserves_isLetter.eq_false o.escape_fits

theorem isOperator_escape : isOperator o.escape = false :=
  reserves_isOperator.eq_false o.escape_fits

theorem isStart_escape : Literal.isStart o.escape = false :=
  reserves_isStart.eq_false o.escape_fits

theorem isBlank_escape : isBlank o.escape = false := reserves_isBlank.eq_false o.escape_fits

end Options

end Metrology
