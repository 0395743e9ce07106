import Metrology.Proofs.Expression.Places

/-!
# The requests of a reading

The requests that a reading makes, with their places, and how many characters are left where it
ends.  Only names are requested: the rules for coefficients, prefixes and powers make no request.
A whole text, with its coefficient and its end, is one reading (`readWhole`), and the outcome of the
text is that of this reading (`requests_readWhole`, `result_readWhole`).
-/

namespace Metrology.Expression

/-! ## Requests -/

/-- The name and the place of a request. -/
def Step.request? : Step → Option (String × Nat)
  | .note _ => none
  | .request name left => some (name, left)

namespace Reading

variable {α β : Type} {s : List Char}

/-- The requests of a reading, in order. -/
def requests (x : Reading α s) : List (String × Nat) := x.steps.filterMap Step.request?

/-- How many characters are left where a reading ends. -/
def left (x : Reading α s) : Nat :=
  match x.result with
  | .error e => e.left
  | .ok (_, r) => r.1.length

@[simp] theorem requests_noting {note : Note} {x : Reading α s} :
    (x.noting note).requests = x.requests := rfl

@[simp] theorem left_widen {r : List Char} {h : r <:+ s} {x : Reading α r} :
    (x.widen h).left = x.left := by
  unfold left widen
  rcases x.result with e | ⟨a, t⟩ <;> rfl

section Second

variable {x : Reading α s} {f : α → (r : List Char) → r.length ≤ s.length → Reading β r}
  {e : SyntaxError} {a : α} {r : {r : List Char // r <:+ s}}

theorem andThen_of_error (h : x.result = .error e) : x.andThen f = ⟨x.steps, .error e⟩ := by
  rw [andThen, h]

theorem andThen_of_ok (h : x.result = .ok (a, r)) :
    x.andThen f = ⟨x.steps ++ (f a r.1 r.2.length_le).steps,
      ((f a r.1 r.2.length_le).widen r.2).result⟩ := by
  rw [andThen, h]
  rfl

theorem requests_andThen_of_error (h : x.result = .error e) :
    (x.andThen f).requests = x.requests := by
  rw [andThen_of_error h]
  rfl

theorem requests_andThen_of_ok (h : x.result = .ok (a, r)) :
    (x.andThen f).requests = x.requests ++ (f a r.1 r.2.length_le).requests := by
  rw [andThen_of_ok h]
  exact List.filterMap_append

theorem requests_prefix_andThen : x.requests <+: (x.andThen f).requests := by
  rcases result : x.result with e | ⟨a, r⟩
  · rw [requests_andThen_of_error result]
  · rw [requests_andThen_of_ok result]
    exact List.prefix_append _ _

theorem left_andThen_of_ok (h : x.result = .ok (a, r)) :
    (x.andThen f).left = (f a r.1 r.2.length_le).left := by
  rw [andThen_of_ok h]
  exact left_widen (h := r.2)

theorem left_of_ok (h : x.result = .ok (a, r)) : x.left = r.1.length := by
  rw [left, h]

end Second

theorem Within.left_le {x : Reading α s} (h : x.Within) : x.left ≤ s.length := by
  unfold left
  rcases result : x.result with e | ⟨a, r, suffix⟩
  · exact (h.error e result).2
  · exact suffix.length_le

theorem Within.le_of_mem_requests {x : Reading α s} (h : x.Within) {q : String × Nat}
    (member : q ∈ x.requests) : q.2 ≤ s.length := by
  obtain ⟨_ | ⟨name, left⟩, taken, same⟩ := List.mem_filterMap.1 member
  · cases same
  · cases same
    exact (h.request name left taken).left_le

end Reading

open Reading

variable {o : Options} {s : List Char}

/-! ## Rules without requests -/

theorem requests_readCoefficient : (readCoefficient s).requests = [] := by
  unfold readCoefficient
  dsimp only
  split_ifs
  · split <;> rfl
  · rfl

theorem requests_readScale {escape : Char} : (readScale escape s).requests = [] := by
  unfold readScale
  rw [requests_noting]
  split
  · split_ifs
    · rfl
    · rfl
    · split <;> rfl
  · rfl

theorem requests_readPower {e : Expression} : (readPower e s).requests = [] := by
  unfold readPower
  split_ifs
  · dsimp only
    split <;> rfl
  · rfl

theorem readClosing_of_ne (h : s.head? ≠ some ')') : readClosing s = .fail .notClosed := by
  unfold readClosing
  split
  · exact absurd rfl h
  · rfl

theorem readFactor_of_ne (h : s.head? ≠ some '(') :
    readFactor o s = .noting (.rule .factor s.head?) (readSimpleFactor o s) := by
  rw [readFactor.eq_def]
  split
  · exact absurd rfl h
  · rfl

/-! ## Whole texts -/

/-- The end of a text. -/
def readEnd {α : Type} (a : α) (s : List Char) : Reading α s :=
  s.head?.elim (.done a [] List.nil_suffix) fun c => .fail (.garbage c)

/-- A whole text as one reading, with the coefficient in front and the expression behind it. -/
def readWhole (o : Options) (s : List Char) : Reading (Option Float × Expression) s :=
  (readCoefficient s).andThen fun x r _ =>
    (readTerm o r).andThen fun e r' _ => readEnd (x, e) r'

theorem within_readEnd {α : Type} {a : α} {s : List Char} : (readEnd a s).Within := by
  cases s with
  | nil => exact within_done
  | cons c s => exact within_fail

theorem requests_readEnd {α : Type} {a : α} {s : List Char} : (readEnd a s).requests = [] := by
  cases s <;> rfl

/-- The text makes the requests of its reading as a whole. -/
theorem requests_readWhole (o : Options) (s : List Char) :
    (readWhole o s).requests = (read o s).steps.filterMap Step.request? := by
  unfold readWhole
  rcases coefficient : (readCoefficient s).result with e | ⟨x, r, h⟩
  · rw [requests_andThen_of_error coefficient]
    simp only [read, noting, after, coefficient]
    rfl
  · rw [requests_andThen_of_ok coefficient, read_of_ok coefficient]
    rw [List.filterMap_cons_none rfl, List.filterMap_append]
    refine congrArg (requests (readCoefficient s) ++ ·) ?_
    rcases term : (readTerm o r).result with e | ⟨e, t⟩
    · rw [requests_andThen_of_error term, requests]
    · rw [requests_andThen_of_ok term, requests_readEnd, List.append_nil, requests]

/-- The text ends as its reading as a whole does. -/
theorem result_readWhole (o : Options) (s : List Char) :
    match (readWhole o s).result with
    | .error e => (read o s).result = .error e
    | .ok ((x, e), _) => (read o s).coefficient = x ∧ (read o s).result = .ok e := by
  unfold readWhole
  rcases coefficient : (readCoefficient s).result with e | ⟨x, r, h⟩
  · rw [andThen_of_error coefficient]
    simp only [read, noting, after, coefficient]
  · rw [andThen_of_ok coefficient, read_of_ok coefficient]
    rcases term : (readTerm o r).result with e | ⟨e, _ | ⟨c, t⟩, h'⟩
    · rw [andThen_of_error term]
      rfl
    · rw [andThen_of_ok term]
      exact ⟨rfl, rfl⟩
    · rw [andThen_of_ok term]
      rfl

end Metrology.Expression
