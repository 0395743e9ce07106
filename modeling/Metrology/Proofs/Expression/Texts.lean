import Metrology.Proofs.Expression.Passages
import Metrology.Proofs.Expression.Terms

/-!
# Whole texts

A whole text is read as an expression exactly if the grammar spells it (`read_of_spells`,
`spells_of_read`), so that a text spells one expression at most (`spells_unique`).  No such text
holds the character that ends all texts (`zero_notMem_of_spells`).
-/

namespace Metrology.Expression

variable {o : Options} {tens : Bool} {s t r w : List Char} {x : Option Float} {e : Expression}

/-! ## Reading -/

/-- The names whose units the reading of a whole text requests. -/
def Outcome.names (outcome : Outcome) : List String := outcome.steps.filterMap Step.name?

/-- The result of reading a term as a whole text. -/
def whole (result : Except SyntaxError (Expression × {r : List Char // r <:+ t})) :
    Except SyntaxError Expression :=
  match result with
  | .error e => .error e
  | .ok (e, r) => match r.1 with
    | [] => .ok e
    | c :: t => .error ⟨.garbage c, t.length + 1, t.length + 1⟩

theorem whole_eq_ok_iff {result : Except SyntaxError (Expression × {r : List Char // r <:+ t})} :
    whole result = .ok e ↔ ∃ h, result = .ok (e, ⟨[], h⟩) := by
  rcases result with error | ⟨f, _ | ⟨c, r⟩, h⟩
  · exact iff_of_false (by rintro ⟨⟩) (by rintro ⟨_, ⟨⟩⟩)
  · constructor
    · rintro ⟨⟩
      exact ⟨h, rfl⟩
    · rintro ⟨_, ⟨⟩⟩
      rfl
  · exact iff_of_false (by rintro ⟨⟩) (by rintro ⟨_, ⟨⟩⟩)

theorem read_of_ok {h : t <:+ s} (coefficient : (readCoefficient s).result = .ok (x, ⟨t, h⟩)) :
    read o s = ⟨x, .note (.rule .numValueExpression s.head?) ::
      ((readCoefficient s).steps ++ (readTerm o t).steps), whole (readTerm o t).result⟩ := by
  simp only [read, Reading.noting, Reading.after, coefficient, List.cons_append]
  rcases (readTerm o t).result with _ | ⟨_, _ | _, _⟩ <;> rfl

theorem names_read (coefficient : (readCoefficient s).Yields [] x t) :
    (read o s).names = (readTerm o t).steps.filterMap Step.name? := by
  obtain ⟨silent, h, coefficient⟩ := coefficient
  rw [Outcome.names, read_of_ok coefficient, List.filterMap_cons, List.filterMap_append, silent]
  rfl

/-- The text of a coefficient and a term is read as these, and requests the units of the term. -/
theorem read_of_spells {divided : Bool} (coefficient : Coefficient s x t)
    (term : Spells o tens (.term divided) t e []) :
    (read o s).coefficient = x ∧ (read o s).names = e.names ∧ (read o s).result = .ok e := by
  have reads := isRead_of_spells term (by rintro c ⟨⟩) [] e []
    ((yields_readContinued_of_stops Text.stops_nil).2 ⟨rfl, rfl, rfl⟩)
  rw [List.append_nil] at reads
  have first := yields_readCoefficient.2 ⟨rfl, coefficient⟩
  obtain ⟨h, result⟩ := first.result_eq
  refine ⟨?_, ?_, ?_⟩
  · rw [read_of_ok result]
  · rw [names_read first, reads.names_eq]
  · rw [read_of_ok result]
    exact whole_eq_ok_iff.2 reads.result_eq

/-- What is read as an expression is a coefficient and a term of the grammar. -/
theorem spells_of_read (h : (read o s).result = .ok e) :
    ∃ t divided, Coefficient s (read o s).coefficient t ∧ (read o s).names = e.names ∧
      Spells o true (.term divided) t e [] := by
  cases result : (readCoefficient s).result with
  | error error =>
    simp only [read, Reading.noting, Reading.after, result] at h
    cases h
  | ok scanned =>
    obtain ⟨x, t, suffix⟩ := scanned
    obtain ⟨-, coefficient⟩ := yields_readCoefficient.1 ⟨rfl, suffix, result⟩
    have first := yields_readCoefficient.2 ⟨rfl, coefficient⟩
    rw [read_of_ok result] at h
    obtain ⟨same, divided, term⟩ := spells_of_readTerm ⟨rfl, whole_eq_ok_iff.1 h⟩
    refine ⟨t, divided, ?_, (names_read first).trans same, term⟩
    rw [read_of_ok result]
    exact coefficient

/-- The grammar is unambiguous: a text spells one expression at most. -/
theorem spells_unique {tens' : Bool} {e' : Expression} (h : Spells o tens .expression s e [])
    (h' : Spells o tens' .expression s e' []) : e = e' := by
  cases h with
  | expression coefficient term =>
    cases h' with
    | expression coefficient' term' =>
      obtain ⟨rfl, -, result⟩ := read_of_spells coefficient term
      obtain ⟨rfl, -, result'⟩ := read_of_spells coefficient' term'
      rw [Except.ok.inj (result.symm.trans result')]

/-! ## The character that ends all texts -/

/-- A part of an expression holds no character that ends all texts. -/
theorem passes_of_spells {part : Part} (h : Spells o tens part s e r) :
    Passes ['\x00'] s r := by
  induction h with
  | one => exact .cons (by decide)
  | ten =>
    exact (Passes.cons (by decide)).trans ((Passes.cons (by decide)).trans (.cons (by decide)))
  | unit word =>
    exact (passes_word (by decide) (by decide +kernel) word).trans (passes_powerText (by decide))
  | group n inner ih =>
    exact (Passes.cons (by decide)).trans (ih.trans
      ((Passes.cons (by decide)).trans (passes_powerText (by decide))))
  | missing => exact .refl _
  | first factor ih => exact ih
  | product term operator single factor ih ih' =>
    refine ih.trans ((Passes.cons ?_).trans ih')
    rcases operator with rfl | rfl <;> decide
  | quotient term single factor ih ih' => exact ih.trans ((Passes.cons (by decide)).trans ih')
  | expression coefficient term ih =>
    exact (passes_coefficient (by decide) (by decide) (by decide) coefficient).trans ih

/-- A text that the grammar spells does not hold the character that ends all texts. -/
theorem zero_notMem_of_spells {part : Part} (h : Spells o tens part s e []) : '\x00' ∉ s := by
  obtain ⟨w, rfl, zero⟩ := passes_of_spells h
  rw [List.append_nil]
  exact zero _ List.mem_cons_self

end Metrology.Expression
