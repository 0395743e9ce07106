import Metrology.Proofs.Expression.Evaluation
import Metrology.Proofs.Expression.Texts
import Metrology.Proofs.Number.UnitFactor

/-!
# The steps of a parse

A parse reads its text, and then takes the steps of the reading on the registry (`Parser.taken`): a
request may fail, or the syntax may be wrong, or the expression has a value.  What a parse answers
and leaves behind in each case is stated once (`parseText_of_refused`, `parseText_of_error`,
`parseText_of_ok`), and in the last two it comes to an evaluation of the expression
(`parseText_of_read`).
-/

namespace Metrology

open Expression

/-- Taking the steps of a reading requests the units of its names in order. -/
theorem replay_eq (o : Options) (r : Registry) (steps : List Step) :
    ((replay o r steps).failure.map Prod.fst, (replay o r steps).registry) =
      r.requests o.extend (steps.filterMap Step.name?) := by
  induction steps generalizing r with
  | nil => rfl
  | cons step steps ih =>
    cases step with
    | note note => exact ih r
    | request name left =>
      change _ = r.requests o.extend (name :: steps.filterMap Step.name?)
      rw [Registry.requests, replay]
      cases (r.unit name o.extend).result with
      | error fault => rfl
      | ok q => exact ih _

namespace Parser

variable {p : Parser} {source : String} {text : List Char} {x : Option Float} {e : Expression}
  {fault : UnitFault} {left : Nat}

/-- The steps of the reading of a text, taken on the registry. -/
def taken (p : Parser) (source : String) (text : List Char) : Replay :=
  replay p.options p.registry (.note (.start source) :: (read p.options text).steps)

/-- The state of a parser after a parse that stopped `left` characters before the end. -/
def stopped (p : Parser) (source : String) (text : List Char) (left : Nat) : ParserState where
  numericalValue := (read p.options text).coefficient.getD 1
  inputText := String.ofList text
  inputPosition := column text left
  trace := (p.taken source text).notes

/-- A parse that failed. -/
def failed (p : Parser) (source : String) (text : List Char) (fault : ParseFault)
    (place left : Nat) : Parsed where
  result := .error ⟨fault, source, String.ofList text, column text place⟩
  parser :=
    { p with registry := (p.taken source text).registry, state := p.stopped source text left }
  log := (p.taken source text).log

theorem parseText_of_refused (h : (p.taken source text).failure = some (fault, left)) :
    p.parseText source text = p.failed source text (.unit fault) left left := by
  unfold taken at h
  unfold parseText failed stopped taken
  simp only [h, ParserState.load_start]

theorem parseText_of_error {error : SyntaxError} (h : (p.taken source text).failure = none)
    (h' : (read p.options text).result = .error error) :
    p.parseText source text =
      p.failed source text (.expression error.fault) error.place error.left := by
  unfold taken at h
  unfold parseText failed stopped taken
  simp only [h, h', ParserState.load_start]

/-- The quantity of an expression behind the coefficient of the text. -/
def valued (p : Parser) (source : String) (text : List Char) (e : Expression) : Quantity :=
  (e.value (p.taken source text).registry.quantity).scale
    ((read p.options text).coefficient.getD 1)

/-- A parse that succeeded. -/
def completed (p : Parser) (source : String) (text : List Char) (e : Expression) : Parsed where
  result := .ok (p.valued source text e)
  parser :=
    { p with
      registry := (p.taken source text).registry
      state :=
        { p.stopped source text 0 with
          prefixFactor := unitMagnitude (p.valued source text e)
            ((read p.options text).coefficient.getD 1) } }
  log := (p.taken source text).log

theorem parseText_eq_completed (h : (p.taken source text).failure = none)
    (h' : (read p.options text).result = .ok e) :
    p.parseText source text = p.completed source text e := by
  unfold taken at h
  unfold parseText completed valued stopped taken
  simp only [h, h', ParserState.load_start]

theorem parseText_of_ok (h : (p.taken source text).failure = none)
    (h' : (read p.options text).result = .ok e) :
    (p.parseText source text).result = .ok (p.valued source text e) ∧
      (p.parseText source text).parser.registry = (p.taken source text).registry ∧
      (p.parseText source text).parser.state.inputPosition = column text 0 := by
  rw [parseText_eq_completed h h']
  exact ⟨rfl, rfl, rfl⟩

/-- Taking the steps of the reading of a text requests the units of its names in order. -/
theorem taken_eq (p : Parser) (source : String) (text : List Char) :
    ((p.taken source text).failure.map Prod.fst, (p.taken source text).registry) =
      p.registry.requests p.options.extend (read p.options text).names :=
  replay_eq p.options p.registry (.note (.start source) :: (read p.options text).steps)

/-- The value of an expression with a coefficient, which the parser keeps apart from it. -/
theorem value_scaledBy (unitOf : String → Quantity) :
    (e.scaledBy x).value unitOf = (e.value unitOf).scale (x.getD 1) := by
  cases x with
  | none => exact (Quantity.scale_one _).symm
  | some x => rfl

/-- What a parse answers, without the places of an error, and the registry that it leaves. -/
def Parsed.answer (parsed : Parsed) : Except ParseFault Quantity × Registry :=
  (parsed.result.mapError ParseError.fault, parsed.parser.registry)

/-- What an evaluation answers, as an answer of the parser. -/
def evaluated (p : Parser) (e : Expression) : Except ParseFault Quantity × Registry :=
  (e.evaluate p.options.extend p.registry).map (Except.mapError ParseFault.unit) id

/-- Where the text is read as an expression, the parse answers what the expression evaluates to. -/
theorem parseText_of_read (names : (read p.options text).names = e.names)
    (result : (read p.options text).result = .ok e) :
    (p.parseText source text).answer =
      p.evaluated (e.scaledBy (read p.options text).coefficient) := by
  unfold Parsed.answer evaluated
  rw [evaluate_eq, names_scaledBy, ← names, ← taken_eq p source text]
  cases failure : (p.taken source text).failure with
  | none =>
    obtain ⟨ok, registry, -⟩ := parseText_of_ok failure result
    rw [ok, registry]
    refine Prod.ext (congrArg Except.ok ?_) rfl
    exact (value_scaledBy _).symm
  | some refused =>
    obtain ⟨fault, left⟩ := refused
    rw [parseText_of_refused failure]
    rfl

/-- A text whose parse succeeds is read as an expression. -/
theorem exists_read_of_parseText_ok {q : Quantity} (h : (p.parseText source text).result = .ok q) :
    ∃ e, (read p.options text).result = .ok e := by
  cases failure : (p.taken source text).failure with
  | none =>
    cases result : (read p.options text).result with
    | error error =>
      rw [parseText_of_error failure result] at h
      cases h
    | ok e => exact ⟨e, rfl⟩
  | some refused =>
    obtain ⟨fault, left⟩ := refused
    rw [parseText_of_refused failure] at h
    cases h

end Parser

end Metrology
