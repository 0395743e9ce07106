import Metrology.Proofs.Expression.Behind
import Metrology.Proofs.Parser.Coefficients

/-!
# Parentheses around a whole text

A text that is accepted is also accepted in any number of parentheses, with the same quantity and
the same registry afterwards (`Parser.parse_enclosed`).
-/

namespace Metrology

open Expression

namespace Parser

variable {o : Options} {tens : Bool} {s : List Char} {e : Expression}

/-- An expression in any number of parentheses stands for the same expression. -/
theorem spells_iterate_enclosed (h : Spells o tens .expression s e []) (n : Nat) :
    Spells o tens .expression (enclosed^[n] s) e [] := by
  induction n with
  | zero => exact h
  | succ n ih =>
    rw [Function.iterate_succ_apply']
    exact spells_enclosed ih

/-- Parentheses are transparent.  A text that is accepted is accepted in any number of parentheses,
with the same quantity and the same registry afterwards, and without a coefficient in front. -/
theorem parse_enclosed (p : Parser) (source : String) (q : Quantity) (n : Nat)
    (accepted : (p.parse source).result = .ok q) :
    let inside := p.parse (String.ofList (enclosed^[n + 1] (Text.trim source.toList)))
    inside.result = .ok q ∧
      inside.parser.registry = (p.parse source).parser.registry ∧
      inside.parser.state.numericalValue = 1 := by
  dsimp only
  obtain ⟨e, spelled, evaluated⟩ := (parse_eq_ok_iff p source q _).1 ⟨accepted, rfl⟩
  have text : Text.trim (String.ofList (enclosed^[n + 1] (Text.trim source.toList))).toList =
      enclosed (enclosed^[n] (Text.trim source.toList)) := by
    rw [String.toList_ofList, Function.iterate_succ_apply', trim_enclosed]
  have again := spells_iterate_enclosed spelled (n + 1)
  rw [Function.iterate_succ_apply', ← text] at again
  have coefficient := coefficient_enclosed (enclosed^[n] (Text.trim source.toList))
  rw [← text] at coefficient
  obtain ⟨ok, registry⟩ := (parse_eq_ok_iff p _ q _).2 ⟨e, again, evaluated⟩
  exact ⟨ok, registry, numericalValue_parse (zero_notMem_of_spells again) coefficient⟩

/-! ## An enclosed definition -/

/-- Options with which a factor may be missing, and a new unit may be defined. -/
def lenient : Options := { (default : Options) with dimensionless := true, extend := true }

/-- The expression of `2 Foo/`, of which the last factor is missing. -/
def twoFoo : Expression := .scaled 2 (.quotient (.unit (String.ofList ['F', 'o', 'o'])) .one)

theorem spells_twoFoo :
    Spells lenient true .expression ['2', ' ', 'F', 'o', 'o', '/'] twoFoo [] := by
  have number : (Literal.Numeral.ofDigits ['2']).value = 2 := by decide +kernel
  have coefficient : Coefficient ['2', ' ', 'F', 'o', 'o', '/'] (some 2) ['F', 'o', 'o', '/'] :=
    number ▸ coefficient_numeral (.ofDigits ['2']) (Text.stops_cons.2 (by decide))
  have word : Word lenient.escape ['F', 'o', 'o'] (.unit (String.ofList ['F', 'o', 'o'])) :=
    .plain (by decide) (by decide)
  have missing : Spells lenient true .factor [] .one [] :=
    .missing rfl (by rintro ⟨⟩) (by rintro ⟨⟩) rfl
  exact .expression coefficient (.quotient (.first (.unit word none)) Text.stops_nil missing)

/-- The text ` 2 Foo/` is accepted, and so is `((2 Foo/))`, each by a parser that defines `Foo`. -/
theorem parse_enclosed_twoFoo :
    (({ options := lenient } : Parser).parse " 2 Foo/").result = .ok ⟨.extension 0, 2⟩ ∧
      (({ options := lenient } : Parser).parse "((2 Foo/))").result = .ok ⟨.extension 0, 2⟩ ∧
      (({ options := lenient } : Parser).parse "((2 Foo/))").parser.registry.extensions =
        ["Foo"] ∧
      (({ options := lenient } : Parser).parse "((2 Foo/))").parser.state.numericalValue = 1 := by
  have text : Text.trim " 2 Foo/".toList = ['2', ' ', 'F', 'o', 'o', '/'] := rfl
  have evaluated : twoFoo.evaluate true {} =
      (.ok ⟨.extension 0, 2⟩, Registry.define {} "Foo") := Prod.ext (by decide +kernel) rfl
  obtain ⟨accepted, registry⟩ := (parse_eq_ok_iff { options := lenient } " 2 Foo/" _ _).2
    ⟨twoFoo, text ▸ spells_twoFoo, evaluated⟩
  obtain ⟨same, kept, number⟩ := parse_enclosed { options := lenient } " 2 Foo/" _ 1 accepted
  have inside : String.ofList (enclosed^[1 + 1] (Text.trim " 2 Foo/".toList)) = "((2 Foo/))" := by
    rw [text]
    rfl
  rw [inside] at same kept number
  refine ⟨accepted, same, ?_, number⟩
  rw [kept, registry]
  rfl

end Parser

end Metrology
