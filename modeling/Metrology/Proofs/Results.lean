import Mathlib.Data.List.Basic

/-!
# Results and errors

How a chain of steps that may fail ends: it has a result if every step has one
(`bind_eq_ok_iff`, `exists_mapM_ok_iff`), and fails with the error of one of them
(`bind_eq_error`).
-/

namespace Metrology

variable {α β ε ε' : Type} {x : Except ε α} {f : α → Except ε β} {a : α} {b : β} {e : ε}

theorem ok_bind (a : α) (f : α → Except ε β) : (.ok a >>= f) = f a := rfl

theorem bind_eq_ok_iff : x >>= f = .ok b ↔ ∃ a, x = .ok a ∧ f a = .ok b := by
  cases x <;> simp [bind, Except.bind]

theorem bind_eq_error (h : x >>= f = .error e) : x = .error e ∨ ∃ a, f a = .error e := by
  cases x with
  | error e' => exact .inl (congrArg Except.error (Except.error.inj h))
  | ok a => exact .inr ⟨a, h⟩

theorem map_eq_ok_iff {f : α → β} : x.map f = .ok b ↔ ∃ a, x = .ok a ∧ f a = b := by
  cases x <;> simp [Except.map]

theorem mapError_eq_ok_iff {f : ε → ε'} : x.mapError f = .ok a ↔ x = .ok a := by
  cases x <;> simp [Except.mapError]

theorem exists_bind_ok_iff : (∃ b, x >>= f = .ok b) ↔ ∃ a, x = .ok a ∧ ∃ b, f a = .ok b := by
  cases x <;> simp [bind, Except.bind]

theorem exists_map_ok_iff (f : α → β) : (∃ b, x.map f = .ok b) ↔ ∃ a, x = .ok a := by
  cases x <;> simp [Except.map]

theorem exists_mapM_ok_iff {xs : List α} :
    (∃ ys, xs.mapM f = .ok ys) ↔ ∀ x ∈ xs, ∃ y, f x = .ok y := by
  induction xs with
  | nil => exact iff_of_true ⟨[], rfl⟩ fun _ h => absurd h List.not_mem_nil
  | cons x xs ih =>
    rw [List.mapM_cons, exists_bind_ok_iff, List.forall_mem_cons, ← ih]
    simp only [exists_bind_ok_iff]
    constructor
    · rintro ⟨y, head, ys, tail, -⟩
      exact ⟨⟨y, head⟩, ys, tail⟩
    · rintro ⟨⟨y, head⟩, ys, tail⟩
      exact ⟨y, head, ys, tail, _, rfl⟩

end Metrology
