import Mathlib
import Metrology.Proofs.Expression.Factors

/-!
# The options of a reading

What is read from a text depends on two options: `dimensionless`, and the escape character
(`read_eq_of_alike`).  The other two, `debug` and `extend`, say what becomes of the steps.  Where a
text is read without the option `dimensionless`, it is read in the same way with it
(`read_eq_of_ok`).

Both follow from one induction over the readers (`readTerm_congr`): options read alike as far as
they read factors without parentheses alike.
-/

namespace Metrology.Expression

/-! ## Parts of a reading -/

/-- A property that the parts of a reading have if the whole has it. -/
structure IsInherited (P : ∀ (α : Type) (s : List Char), Reading α s → Prop) : Prop where
  noting : ∀ {α : Type} {s : List Char} {note : Note} {x : Reading α s},
    P α s (x.noting note) → P α s x
  widen : ∀ {α : Type} {r s : List Char} {h : r <:+ s} {x : Reading α r},
    P α s (x.widen h) → P α r x
  first : ∀ {α β : Type} {s : List Char} {x : Reading α s}
    {f : α → (r : List Char) → r.length ≤ s.length → Reading β r},
    P β s (x.andThen f) → P α s x
  second : ∀ {α β : Type} {s : List Char} {x : Reading α s}
    {f : α → (r : List Char) → r.length ≤ s.length → Reading β r} {a : α}
    {r : {r : List Char // r <:+ s}}, x.result = .ok (a, r) →
    P β s (x.andThen f) → P β r.1 (f a r.1 r.2.length_le)

namespace Reading

variable {α β : Type} {s : List Char} {x x' : Reading α s}
  {f g : α → (r : List Char) → r.length ≤ s.length → Reading β r}
  {P : ∀ (α : Type) (s : List Char), Reading α s → Prop}

theorem andThen_congr (inherited : IsInherited P) (h : P β s (x.andThen f))
    (first : P α s x → x' = x)
    (second : ∀ a r hr, P β r (f a r hr) → g a r hr = f a r hr) :
    x'.andThen g = x.andThen f := by
  rw [first (inherited.first h)]
  unfold andThen
  cases result : x.result with
  | error e => rfl
  | ok y => simp only [second _ _ _ (inherited.second result h)]

/-- The reading ends without an error. -/
def Succeeds (x : Reading α s) : Prop := ∃ y, x.result = .ok y

theorem isInherited_succeeds : IsInherited fun _ _ x => x.Succeeds where
  noting h := h
  widen := by
    rintro α r s h x ⟨y, ok⟩
    cases result : x.result with
    | error e =>
      simp only [Reading.widen, result] at ok
      cases ok
    | ok y => exact ⟨y, result⟩
  first := by
    rintro α β s x f ⟨y, ok⟩
    cases result : x.result with
    | error e =>
      simp only [andThen, result] at ok
      cases ok
    | ok y => exact ⟨y, result⟩
  second := by
    rintro α β s x f a r result ⟨y, ok⟩
    simp only [andThen, result, Reading.widen] at ok
    cases rest : (f a r.1 r.2.length_le).result with
    | error e =>
      simp only [rest] at ok
      cases ok
    | ok y => exact ⟨y, rest⟩

theorem isInherited_true : IsInherited fun _ _ _ => True :=
  ⟨fun h => h, fun h => h, fun h => h, fun _ h => h⟩

end Reading

open Reading

variable {o o' : Options} {s : List Char} {e : Expression}
  {P : ∀ (α : Type) (s : List Char), Reading α s → Prop}

/-- The options `o'` read a factor without parentheses like `o`, if its reading has the property
`P`. -/
def FactorsAgree (P : ∀ (α : Type) (s : List Char), Reading α s → Prop) (o o' : Options) : Prop :=
  ∀ s, s.head? ≠ some '(' → P Expression s (readSimpleFactor o s) →
    readSimpleFactor o' s = readSimpleFactor o s

/-! ## Terms and parentheses -/

-- The recursion is that of the readers, on their measure.
mutual

theorem readNested_congr (inherited : IsInherited P) (agree : FactorsAgree P o o') (s : List Char)
    (h : P Expression s (readNested o s)) : readNested o' s = readNested o s := by
  rw [readNested] at h
  rw [readNested, readNested]
  refine congrArg _ (andThen_congr inherited (inherited.noting h) (fun _ => rfl) ?_)
  intro x r _ rest
  refine andThen_congr inherited rest (readTerm_congr inherited agree r) fun _ _ _ _ => rfl
termination_by 4 * s.length + 3

theorem readTerm_congr (inherited : IsInherited P) (agree : FactorsAgree P o o') (s : List Char)
    (h : P Expression s (readTerm o s)) : readTerm o' s = readTerm o s := by
  rw [readTerm] at h
  rw [readTerm, readTerm]
  refine andThen_congr inherited h (readFactor_congr inherited agree s) ?_
  exact fun e r _ => readContinued_congr inherited agree false e r
termination_by 4 * s.length + 2

theorem readFactor_congr (inherited : IsInherited P) (agree : FactorsAgree P o o') (s : List Char)
    (h : P Expression s (readFactor o s)) : readFactor o' s = readFactor o s := by
  rw [readFactor.eq_def] at h
  rw [readFactor.eq_def, readFactor.eq_def]
  refine congrArg _ ?_
  replace h := inherited.noting h
  split at h
  · next r =>
    refine congrArg _ (andThen_congr inherited (inherited.widen h) ?_ fun _ _ _ _ => rfl)
    exact readNested_congr inherited agree r
  · next noGroup =>
    refine agree _ (fun group => ?_) h
    obtain ⟨r, text⟩ := List.head?_eq_some_iff.1 group
    exact noGroup r text
termination_by 4 * s.length + 1

theorem readContinued_congr (inherited : IsInherited P) (agree : FactorsAgree P o o')
    (divided : Bool) (e : Expression) : (s : List Char) →
    P Expression s (readContinued o divided e s) →
    readContinued o' divided e s = readContinued o divided e s
  | [], _ => by rw [readContinued, readContinued]
  | c :: r, h => by
    rw [readContinued] at h
    rw [readContinued, readContinued]
    by_cases operator : isOperator c = true
    · rw [if_pos operator] at h
      rw [if_pos operator, if_pos operator]
      cases next : r.head?.filter isOperator with
      | some d => rfl
      | none =>
        simp only [next] at h ⊢
        replace h := inherited.noting h
        refine congrArg _ ?_
        by_cases again : (c = '/' && divided) = true
        · rw [if_pos again, if_pos again]
        · rw [if_neg again] at h
          rw [if_neg again, if_neg again]
          refine congrArg _ (andThen_congr inherited (inherited.widen h)
            (readFactor_congr inherited agree r) fun f t shorter => ?_)
          exact readContinued_congr inherited agree _ _ t
    · rw [if_neg operator, if_neg operator]
termination_by s => 4 * s.length

end

/-! ## Whole texts -/

/-- The options that the readers look at are the same. -/
structure Alike (o o' : Options) : Prop where
  dimensionless : o.dimensionless = o'.dimensionless
  escape : o.escape = o'.escape

/-- Options that agree on dimensionless numbers and on the escape character read alike. -/
theorem read_eq_of_alike (h : Alike o o') (s : List Char) : read o s = read o' s := by
  have agree : FactorsAgree (fun _ _ _ => True) o' o := fun s _ _ => by
    unfold readSimpleFactor
    rw [h.dimensionless, h.escape]
  have terms (t : List Char) : readTerm o t = readTerm o' t :=
    readTerm_congr isInherited_true agree t trivial
  unfold read
  simp only [terms]

/-- Without the option `dimensionless`, what is read as a factor starts with a one or a name. -/
theorem present_of_succeeds (strict : o.dimensionless = false) (noGroup : s.head? ≠ some '(')
    (h : (readSimpleFactor o s).Succeeds) : Present o s := by
  obtain ⟨⟨e, r, suffix⟩, ok⟩ := h
  cases (spells_of_readSimpleFactor noGroup ⟨rfl, suffix, ok⟩).2 with
  | one => exact .inl rfl
  | ten => exact .inr (startsName_iff.2 (.inl rfl))
  | unit word n => exact present_of_word word
  | group => exact absurd rfl noGroup
  | missing dimensionless =>
    rw [strict] at dimensionless
    cases dimensionless

/-- A factor that is read without the option `dimensionless` is read in the same way with it. -/
theorem factorsAgree_of_strict (strict : o.dimensionless = false) (escape : o'.escape = o.escape) :
    FactorsAgree (fun _ _ x => x.Succeeds) o o' := by
  intro s noGroup h
  have present : Present o s := present_of_succeeds strict noGroup h
  have present' : Present o' s := by rwa [Present, escape]
  rw [readSimpleFactor, readSimpleFactor,
    if_neg (isMissing_iff.not.2 fun missing => missing.2 present),
    if_neg (isMissing_iff.not.2 fun missing => missing.2 present'), escape]

/-- A text that is read without the option `dimensionless` is read in the same way with it. -/
theorem read_eq_of_ok (strict : o.dimensionless = false) (escape : o'.escape = o.escape)
    (h : (read o s).result = .ok e) : read o' s = read o s := by
  have terms (t : List Char) : (readTerm o t).Succeeds → readTerm o' t = readTerm o t :=
    readTerm_congr isInherited_succeeds (factorsAgree_of_strict strict escape) t
  unfold read at h ⊢
  dsimp only at h ⊢
  split at h
  · cases h
  · next a r coefficient =>
    rw [terms r.1]
    cases result : (readTerm o r.1).result with
    | error e =>
      simp only [result] at h
      cases h
    | ok y => exact ⟨y, result⟩

end Metrology.Expression
