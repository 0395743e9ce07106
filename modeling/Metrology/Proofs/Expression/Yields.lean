import Mathlib
import Metrology.Expression.Reader

/-!
# What readings yield

A reading yields a value and the rest of the text, and requests the units of some names on the way
(`Reading.Yields`).  Each way to build a reading is inverted by one equivalence; together they take
a successful reading apart, and put it together.  A reading that fails before it requests a unit
fails with the readings that it is a part of (`Reading.Fails`).
-/

namespace Metrology.Expression

/-- The name whose unit a step requests. -/
def Step.name? : Step → Option String
  | .note _ => none
  | .request name _ => some name

namespace Reading

variable {α β : Type} {s : List Char}

/-- The reading requests the units of `names` in order, and ends with the value `a` before the rest
`r` of the text. -/
structure Yields (x : Reading α s) (names : List String) (a : α) (r : List Char) : Prop where
  names_eq : x.steps.filterMap Step.name? = names
  result_eq : ∃ h, x.result = .ok (a, ⟨r, h⟩)

variable {x : Reading α s} {names : List String} {a b : α} {r r' : List Char}

theorem Yields.unique {names' : List String} (h : x.Yields names a r) (h' : x.Yields names' b r') :
    names = names' ∧ a = b ∧ r = r' := by
  obtain ⟨rfl, _, e⟩ := h
  obtain ⟨rfl, _, e'⟩ := h'
  cases Except.ok.inj (e.symm.trans e')
  exact ⟨rfl, rfl, rfl⟩

theorem Yields.suffix (h : x.Yields names a r) : r <:+ s := h.result_eq.1

@[simp] theorem yields_done {h : r <:+ s} :
    (done a r h).Yields names b r' ↔ names = [] ∧ a = b ∧ r = r' := by
  constructor
  · rintro ⟨rfl, _, e⟩
    cases Except.ok.inj e
    exact ⟨rfl, rfl, rfl⟩
  · rintro ⟨rfl, rfl, rfl⟩
    exact ⟨rfl, h, rfl⟩

@[simp] theorem not_yields_error {steps : List Step} {e : SyntaxError} :
    ¬(⟨steps, .error e⟩ : Reading α s).Yields names a r := by
  rintro ⟨-, _, ⟨⟩⟩

@[simp] theorem not_yields_fail {fault : SyntaxFault} :
    ¬(fail fault : Reading α s).Yields names a r := not_yields_error

@[simp] theorem yields_noting {note : Note} :
    (x.noting note).Yields names a r ↔ x.Yields names a r :=
  ⟨fun h => ⟨h.1, h.2⟩, fun h => ⟨h.1, h.2⟩⟩

@[simp] theorem yields_after_request {name : String} {left : Nat} :
    (x.after (.request name left)).Yields names a r ↔
      ∃ names', names = name :: names' ∧ x.Yields names' a r := by
  constructor
  · rintro ⟨rfl, h⟩
    exact ⟨_, rfl, rfl, h⟩
  · rintro ⟨_, rfl, rfl, h⟩
    exact ⟨rfl, h⟩

@[simp] theorem yields_widen {t : List Char} {h : t <:+ s} {x : Reading α t} :
    (x.widen h).Yields names a r ↔ x.Yields names a r := by
  constructor
  · rintro ⟨rfl, _, e⟩
    refine ⟨rfl, ?_⟩
    rcases result : x.result with error | ⟨b, t⟩ <;> simp only [widen, result] at e
    · cases e
    · cases Except.ok.inj e
      exact ⟨_, rfl⟩
  · rintro ⟨rfl, h', e⟩
    exact ⟨rfl, h'.trans h, by simp only [widen, e]⟩

theorem yields_andThen {f : α → (r : List Char) → r.length ≤ s.length → Reading β r} {b : β} :
    (x.andThen f).Yields names b r' ↔
      ∃ names₁ names₂ a r h, names = names₁ ++ names₂ ∧ x.Yields names₁ a r ∧
        (f a r h).Yields names₂ b r' := by
  constructor
  · rintro ⟨rfl, _, e⟩
    rcases result : x.result with error | ⟨a, r, h⟩ <;> simp only [andThen, result] at e
    · cases e
    · refine ⟨_, _, a, r, h.length_le, ?_, ⟨rfl, h, result⟩, yields_widen.1 ⟨rfl, _, e⟩⟩
      simp only [andThen, result, List.filterMap_append]
  · rintro ⟨_, _, a, r, _, rfl, ⟨rfl, h, result⟩, second⟩
    obtain ⟨rfl, h', result'⟩ := yields_widen (h := h).2 second
    refine ⟨?_, h', ?_⟩
    · simp only [andThen, result, List.filterMap_append]
    · simp only [andThen, result, result']

/-! ## Failing readings -/

/-- The reading ends with the error `e`, and requests no unit before. -/
structure Fails (x : Reading α s) (e : SyntaxError) : Prop where
  names_eq : x.steps.filterMap Step.name? = []
  result_eq : x.result = .error e

variable {e : SyntaxError}

theorem fails_fail {fault : SyntaxFault} :
    (fail fault : Reading α s).Fails ⟨fault, s.length, s.length⟩ := ⟨rfl, rfl⟩

theorem Fails.noting {note : Note} (h : x.Fails e) : (x.noting note).Fails e :=
  ⟨h.1, h.2⟩

theorem Fails.widen {t : List Char} {x : Reading α t} (h : x.Fails e) (suffix : t <:+ s) :
    (x.widen suffix).Fails e :=
  ⟨h.1, by simp only [Reading.widen, h.2]⟩

theorem Fails.andThen {f : α → (r : List Char) → r.length ≤ s.length → Reading β r}
    (h : x.Fails e) : (x.andThen f).Fails e := by
  constructor
  · simp only [Reading.andThen, h.2, h.1]
  · simp only [Reading.andThen, h.2]

theorem Yields.andThen_fails {f : α → (r : List Char) → r.length ≤ s.length → Reading β r}
    (h : x.Yields [] a r) (h' : ∀ shorter, (f a r shorter).Fails e) : (x.andThen f).Fails e := by
  obtain ⟨silent, suffix, result⟩ := h
  obtain ⟨silent', result'⟩ := (h' suffix.length_le).widen suffix
  constructor
  · simp only [Reading.andThen, result, List.filterMap_append, silent, silent', List.append_nil]
  · simp only [Reading.andThen, result, result']

end Reading

end Metrology.Expression
