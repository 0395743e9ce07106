import Metrology.Proofs.Expression.TermOperators
import Metrology.Proofs.Parser.UnitParts

/-!
# Repeated solidi

A text is refused if a solidus comes right after another one among the operators of one of its
terms, at any depth of its parentheses (`Parser.parse_repeated_solidus`).  A product between two
solidi is enough for the text to be accepted (`Parser.parse_solidus_after_product`).
-/

namespace Metrology

open Expression

namespace Parser

/-- A text with a term in which a solidus comes right after another one is refused. -/
theorem parse_repeated_solidus (p : Parser) (source : String) (ops : List Char)
    (term : ops ∈ termOperators (Text.trim source.toList)) (repeated : ['/', '/'] <:+: ops) :
    ∃ e, (p.parse source).result = .error e := by
  cases result : (p.parse source).result with
  | error e => exact ⟨e, rfl⟩
  | ok q =>
    obtain ⟨e, spelled, -⟩ := (parse_eq_ok_iff p source q _).1 ⟨result, rfl⟩
    have separate := isUnambiguous_of_spells spelled term
    obtain ⟨before, after, rfl⟩ := repeated
    have pair := (List.isChain_append.1 (List.isChain_append.1 separate).1).2.1
    exact absurd ⟨rfl, rfl⟩ (List.isChain_pair.1 pair)

/-- The repeated solidus may stand in parentheses, with other operators around it. -/
theorem parse_repeated_solidus_nested :
    ['.', '/', '/', ' '] ∈ termOperators (Text.trim "2 kg/(m.s/s/s A)".toList) ∧
      ['/', '/'] <:+: ['.', '/', '/', ' '] ∧
        ∃ e, (({} : Parser).parse "2 kg/(m.s/s/s A)").result = .error e := by
  have term : ['.', '/', '/', ' '] ∈ termOperators (Text.trim "2 kg/(m.s/s/s A)".toList) := by
    decide +kernel
  have repeated : ['/', '/'] <:+: ['.', '/', '/', ' '] := ⟨['.'], [' '], rfl⟩
  exact ⟨term, repeated, parse_repeated_solidus {} _ _ term repeated⟩

/-- A unit without a power, as a factor for the default options. -/
def bareUnit (w : List Char) (name : IsPlainName w := by decide) :
    UnitFactor (default : Options).escape :=
  ⟨w, .unit (String.ofList w), none, name.word⟩

/-- A second solidus in a term is accepted where a product stands between the two. -/
theorem parse_solidus_after_product :
    (∃ ops ∈ termOperators (Text.trim "m/s kg/s".toList), 2 ≤ ops.count '/') ∧
      ∃ q, (({} : Parser).parse "m/s kg/s").result = .ok q := by
  have operators : ['/', ' ', '/'] ∈ termOperators (Text.trim "m/s kg/s".toList) := by
    decide +kernel
  refine ⟨⟨_, operators, by decide⟩, ?_⟩
  have speed := (UnitText.factor (bareUnit ['m'])).quotient (bareUnit ['s'])
  have text := (speed.product (bareUnit ['k', 'g'])).quotient (bareUnit ['s'])
  have known : ∀ name ∈ ["m", "s", "kg", "s"], (({} : Registry).find? name).isSome := by
    decide +kernel
  exact ⟨_, (readsAs_unitText (p := {}) text fun name member =>
    Option.isSome_iff_exists.1 (known name member)).result⟩

end Parser

end Metrology
