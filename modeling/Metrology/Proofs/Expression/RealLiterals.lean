import Metrology.Parser
import Metrology.Proofs.Expression.Characters
import Metrology.Proofs.Expression.Yields
import Metrology.Proofs.Number.Nearest
import Metrology.Proofs.Number.Shape

/-!
# Real literals in unit expressions

Where a coefficient starts with a digit, a sign or a point, the reader takes the longest text that
has the shape of a real literal, wherever in a text that is.  It fails if and only if this text is
no decimal numeral, and then at its first character; otherwise it yields the double nearest to the
number that the numeral denotes (`readCoefficient_takes_longest`).
-/

namespace Metrology.Expression

open Literal

variable {s w r : List Char} {x : Float}

theorem dropBlanks_of_isStart (starts : s.head?.any isStart = true) : Text.dropBlanks s = s :=
  Text.dropWhile_of_stops (.of_any starts fun _ => isBlank_of_isStart)

/-! ## Readings of literals -/

section

variable (starts : s.head?.any isStart = true) (scanned : split s = (w, r))

include starts scanned

theorem real_mem_steps_readCoefficient : .note (.real w) ∈ (readCoefficient s).steps := by
  unfold readCoefficient
  simp only [dropBlanks_of_isStart starts, starts, if_true, scanned]
  exact List.mem_cons_of_mem _ List.mem_cons_self

theorem yields_readCoefficient_of_value? (read : value? w = some x) :
    (readCoefficient s).Yields [] (some x) (Text.dropBlanks r) := by
  unfold readCoefficient
  simp only [dropBlanks_of_isStart starts, starts, if_true, scanned, read, Reading.yields_noting,
    Reading.yields_done, and_self]

theorem result_readCoefficient_of_value? (read : value? w = none) :
    (readCoefficient s).result = .error ⟨.invalidNumber w, s.length, r.length⟩ := by
  unfold readCoefficient
  simp only [dropBlanks_of_isStart starts, starts, if_true, scanned, read]
  rfl

/-- The reader fails on a text that is no numeral, and on no other. -/
theorem result_readCoefficient_eq_error_iff :
    (readCoefficient s).result = .error ⟨.invalidNumber w, s.length, r.length⟩ ↔
      ¬∃ n : Numeral, n.text = w := by
  cases read : value? w with
  | none =>
    refine iff_of_true (result_readCoefficient_of_value? starts scanned read) ?_
    rintro ⟨n, text⟩
    cases read.symm.trans (value?_eq_some_iff.2 ⟨n, text, rfl⟩)
  | some x =>
    obtain ⟨n, text, -⟩ := value?_eq_some_iff.1 read
    obtain ⟨-, suffix, result⟩ := yields_readCoefficient_of_value? starts scanned read
    rw [result]
    exact iff_of_false nofun (not_not.2 ⟨n, text⟩)

end

/-! ## Places of literals -/

/-- The column of what stands behind a part of the text. -/
theorem column_append (before s : List Char) :
    Parser.column (before ++ s) s.length = before.length + 1 := by
  rw [Parser.column, List.length_append]
  omega

/-! ## The longest literal -/

/-- At a digit, a sign or a point, the longest text of the shape of a real literal is taken, and the
reader stops behind it.  If the text is a numeral, the reader yields the nearest double and goes on
behind the blanks that follow.  It fails if and only if the text is no numeral, at the first
character of the text.  Letters `e` and `E` that start no exponent are left for the unit. -/
theorem readCoefficient_takes_longest (before s : List Char)
    (starts : s.head?.any isStart = true) :
    ∃ w r, split s = (w, r) ∧ Takes s w r ∧ .note (.real w) ∈ (readCoefficient s).steps ∧
      Parser.column (before ++ s) s.length = before.length + 1 ∧
      Parser.column (before ++ s) r.length = before.length + w.length + 1 ∧
      (∀ n : Numeral, n.text = w → ∃ x, n.RoundsTo x ∧
        (readCoefficient s).Yields [] (some x) (Text.dropBlanks r)) ∧
      ((readCoefficient s).result = .error ⟨.invalidNumber w, s.length, r.length⟩ ↔
        ¬∃ n : Numeral, n.text = w) ∧
      ∀ u mark v, s = u ++ mark :: v → isExponentMark mark = true →
        (¬v.head?.any isSignedDigit = true ∨ ∃ c ∈ u, isExponentMark c = true) →
          mark :: v <:+ r := by
  rcases scanned : split s with ⟨w, r⟩
  have takes := takes_iff.2 scanned
  refine ⟨w, r, rfl, takes, real_mem_steps_readCoefficient starts scanned,
    column_append before s, ?_, ?_, result_readCoefficient_eq_error_iff starts scanned, ?_⟩
  · rw [← takes.append_eq, ← List.append_assoc, column_append, List.length_append]
  · intro n text
    have read : value? w = some n.value := value?_eq_some_iff.2 ⟨n, text, rfl⟩
    exact ⟨n.value, n.roundsTo_value, yields_readCoefficient_of_value? starts scanned read⟩
  · rintro u mark v rfl marked stays
    exact takes.suffix_of_mark marked stays

/-- The exponent `e2` belongs to the number, the letter behind it to the unit. -/
theorem readCoefficient_takes_3e2 :
    "3e2eV)".toList.head?.any isStart = true ∧
      Takes "3e2eV)".toList "3e2".toList "eV)".toList ∧
      Parser.column "(3e2eV)".toList "eV)".toList.length = 5 ∧
      ∃ (n : Numeral) (x : Float), n.text = "3e2".toList ∧ n.number = 300 ∧ n.RoundsTo x ∧
        (readCoefficient "3e2eV)".toList).Yields [] (some x) "eV)".toList := by
  have starts : "3e2eV)".toList.head?.any isStart = true := by decide
  obtain ⟨w, r, scanned, takes, -, -, place, value, -, -⟩ :=
    readCoefficient_takes_longest ['('] "3e2eV)".toList starts
  have parts : split "3e2eV)".toList = ("3e2".toList, "eV)".toList) := by decide
  obtain ⟨rfl, rfl⟩ := Prod.mk.inj (scanned.symm.trans parts)
  let exponent : Exponent := ⟨'e', none, ['2'], by decide, by decide, by decide⟩
  let n : Numeral := ⟨none, ['3'], none, some exponent, by decide, by decide, by decide⟩
  have number : n.number = 300 := by
    change (1 : ℚ) * (3 : Nat) * 10 ^ (2 : Int) = 300
    norm_num
  obtain ⟨x, rounds, yields⟩ := value n rfl
  exact ⟨starts, takes, place, n, x, rfl, number, rounds, yields⟩

end Metrology.Expression
