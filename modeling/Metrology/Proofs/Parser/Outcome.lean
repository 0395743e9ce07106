import Metrology.Proofs.Expression.Places
import Metrology.Proofs.Parser.Steps

/-!
# How a parse ends

A parse of any text ends in one of two ways (`parse_outcome`): with a quantity, and then the whole
text was read, or with an error that has a position in the text or right behind it, and that is
caused by the syntax or by a unit that the registry refused.
-/

namespace Metrology

open Expression

/-- A request that fails on a registry is one of the steps. -/
theorem request_mem_of_failure {o : Options} {r : Registry} {steps : List Step} {fault : UnitFault}
    {left : Nat} (h : (replay o r steps).failure = some (fault, left)) :
    ∃ name, .request name left ∈ steps := by
  induction steps generalizing r with
  | nil => cases h
  | cons step steps ih =>
    cases step with
    | note note =>
      obtain ⟨name, member⟩ := ih h
      exact ⟨name, List.mem_cons_of_mem _ member⟩
    | request name left' =>
      rw [replay] at h
      dsimp only at h
      split at h
      · cases h
        exact ⟨name, List.mem_cons_self⟩
      · obtain ⟨name, member⟩ := ih h
        exact ⟨name, List.mem_cons_of_mem _ member⟩

namespace Parser

variable {p : Parser} {source : String} {text : List Char}

theorem column_le (left : Nat) : column text left ≤ text.length + 1 := Nat.sub_le _ _

theorem one_le_column {left : Nat} (h : left ≤ text.length) : 1 ≤ column text left := by
  rw [column]
  omega

/-- Why a text has no quantity: a character in it, its syntax, or the first request that the
registry refuses. -/
inductive Cause (p : Parser) (text : List Char) : ParseFault → Prop where
  | zero (h : '\x00' ∈ text) : Cause p text (.expression .endInText)
  | misspelt {error : SyntaxError} (h : (read p.options text).result = .error error) :
    Cause p text (.expression error.fault)
  | unit {fault : UnitFault}
    (h : (p.registry.requests p.options.extend (read p.options text).names).1 = some fault) :
    Cause p text (.unit fault)

theorem Cause.family {fault : ParseFault} (h : p.Cause text fault) :
    fault.family = .expression ∨ fault.family = .unit := by
  cases h with
  | zero => exact .inl rfl
  | misspelt => exact .inl rfl
  | unit => exact .inr rfl

/-- An error for `source`, which is `text` without the blanks around it, with a position in the text
or right behind it. -/
structure Explains (p : Parser) (source : String) (text : List Char) (e : ParseError) : Prop where
  source_eq : e.source = source
  text_eq : e.text = String.ofList text
  one_le_position : 1 ≤ e.position
  position_le : e.position ≤ text.length + 1
  cause : p.Cause text e.fault
  family : e.fault.family = .expression ∨ e.fault.family = .unit

/-- How a parse ends: with a quantity behind the text, or with an error that is explained. -/
def EndsWell (p : Parser) (source : String) (text : List Char) (parsed : Parsed) : Prop :=
  ((∃ q, parsed.result = .ok q) ∧ parsed.parser.state.inputPosition = text.length + 1) ∨
    ((∃ e, parsed.result = .error e ∧ p.Explains source text e) ∧
      parsed.parser.state.inputPosition ≤ text.length + 1)

theorem endsWell_failed {fault : ParseFault} {place left : Nat} (h : place ≤ text.length)
    (cause : p.Cause text fault) :
    p.EndsWell source text (p.failed source text fault place left) :=
  .inr ⟨⟨_, rfl, rfl, rfl, one_le_column h, column_le place, cause, cause.family⟩, column_le left⟩

theorem parseText_outcome (p : Parser) (source : String) (text : List Char) :
    p.EndsWell source text (p.parseText source text) := by
  cases failure : (p.taken source text).failure with
  | none =>
    cases result : (read p.options text).result with
    | error error =>
      rw [parseText_of_error failure result]
      exact endsWell_failed (place_le_of_read_error result).1 (.misspelt result)
    | ok e =>
      obtain ⟨ok, -, position⟩ := parseText_of_ok failure result
      exact .inl ⟨⟨_, ok⟩, position⟩
  | some refused =>
    obtain ⟨fault, left⟩ := refused
    rw [parseText_of_refused failure]
    obtain ⟨name, member⟩ := request_mem_of_failure failure
    refine endsWell_failed ?_ (.unit ?_)
    · exact (isRequestIn_of_read ((List.mem_cons.1 member).resolve_left (by rintro ⟨⟩))).left_le
    · rw [← taken_eq p source text, failure]
      rfl

/-- A parse of any text ends with a quantity behind the text, or with an error that has a position
in the text or right behind it. -/
theorem parse_outcome (p : Parser) (source : String) :
    p.EndsWell source (Text.trim source.toList) (p.parse source) := by
  rw [parse]
  split
  · next i found =>
    obtain ⟨inside, zero, -⟩ := List.findIdx?_eq_some_iff_getElem.1 found
    have member := List.getElem_mem inside
    rw [of_decide_eq_true zero] at member
    have cause : p.Cause (Text.trim source.toList) _ := .zero member
    have position_le : i + 1 ≤ (Text.trim source.toList).length + 1 :=
      Nat.succ_le_succ (Nat.le_of_lt inside)
    exact .inr ⟨⟨_, rfl, rfl, rfl, Nat.le_add_left 1 i, position_le, cause, cause.family⟩,
      Nat.zero_le _⟩
  · exact p.parseText_outcome source _

end Parser

end Metrology
