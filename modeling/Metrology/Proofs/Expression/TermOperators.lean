import Metrology.Proofs.Expression.Passages

/-!
# The operators of terms

The operators of the terms of a text are collected level by level of its parentheses, whatever else
the text holds (`termOperators`).  Where the grammar spells the text, no solidus comes right after
another one among the operators of a term (`isUnambiguous_of_spells`), and a term that is divided
has a solidus as its last operator outside of parentheses (`lastOperator?_of_spells`).
-/

namespace Metrology.Expression

variable {o : Options} {tens divided : Bool} {part : Part} {around : List (List Char)}
  {ops s r w : List Char} {c : Char} {x : Option Float} {e : Expression}

/-! ## Collecting operators -/

/-- The operators of each term of a text, from a place inside of it on: `ops` are those before the
place in the term that it stands in, and `around` are those of the terms around it, from the inside
out.  The point and the blanks of a coefficient count as operators before the first factor. -/
def operatorsFrom (ops : List Char) (around : List (List Char)) : List Char → List (List Char)
  | [] => ops :: around
  | '(' :: s => operatorsFrom [] (ops :: around) s
  | ')' :: s => ops :: operatorsFrom (around.headD []) around.tail s
  | c :: s => operatorsFrom (if isOperator c then ops ++ [c] else ops) around s

/-- The operators of each term of a text, in their order. -/
def termOperators (s : List Char) : List (List Char) := operatorsFrom [] [] s

theorem operatorsFrom_cons (opening : c ≠ '(') (closing : c ≠ ')') :
    operatorsFrom ops around (c :: s) =
      operatorsFrom (if isOperator c then ops ++ [c] else ops) around s := by
  rw [operatorsFrom]
  · exact fun h => opening h
  · exact fun h => closing h

/-- A text without parentheses stays in its term. -/
theorem operatorsFrom_append (opening : '(' ∉ w) (closing : ')' ∉ w) :
    operatorsFrom ops around (w ++ s) = operatorsFrom (ops ++ w.filter isOperator) around s := by
  induction w generalizing ops with
  | nil => rw [List.filter_nil, List.append_nil, List.nil_append]
  | cons c w ih =>
    rw [List.mem_cons, not_or] at opening closing
    rw [List.cons_append, operatorsFrom_cons (Ne.symm opening.1) (Ne.symm closing.1),
      ih opening.2 closing.2, List.filter_cons]
    split_ifs <;> simp

/-- A passage without operators and parentheses leaves the operators as they are. -/
theorem operatorsFrom_of_passes (h : Passes [' ', '.', '/', '(', ')'] s r) :
    operatorsFrom ops around s = operatorsFrom ops around r := by
  obtain ⟨w, rfl, free⟩ := h
  have noOperator : w.filter isOperator = [] := by
    refine List.filter_eq_nil_iff.2 fun c member operator => ?_
    rcases isOperator_iff.1 operator with rfl | rfl | rfl <;> exact free _ (by decide) member
  rw [operatorsFrom_append (free _ (by decide)) (free _ (by decide)), noOperator, List.append_nil]

theorem operatorsFrom_cons_operator (h : isOperator c = true) :
    operatorsFrom ops around (c :: s) = operatorsFrom (ops ++ [c]) around s := by
  have opening : c ≠ '(' := by rintro rfl; cases h
  have closing : c ≠ ')' := by rintro rfl; cases h
  rw [operatorsFrom_cons opening closing, if_pos h]

/-! ## Texts of the grammar -/

/-- No solidus comes right after another one. -/
def IsUnambiguous (ops : List Char) : Prop := ops.IsChain fun c d => ¬(c = '/' ∧ d = '/')

/-- The operators go on to a place where a solidus may follow, unless the last one is a solidus. -/
def GoesOn (divided : Bool) (ops : List Char) : Prop :=
  IsUnambiguous ops ∧ (divided = false → ops.getLast? ≠ some '/')

theorem isUnambiguous_of_notMem (h : '/' ∉ ops) : IsUnambiguous ops :=
  List.Pairwise.isChain <| List.pairwise_of_forall_mem_list fun _ member _ _ again =>
    h (again.1 ▸ member)

theorem goesOn_of_notMem (h : '/' ∉ ops) : GoesOn false ops :=
  ⟨isUnambiguous_of_notMem h, fun _ last => h (List.mem_of_getLast? last)⟩

theorem GoesOn.append (h : GoesOn divided ops) (once : ¬(c = '/' ∧ divided = true)) :
    GoesOn (c = '/') (ops ++ [c]) := by
  refine ⟨List.isChain_append.2 ⟨h.1, List.isChain_singleton c, ?_⟩, ?_⟩
  · rintro d last _ ⟨⟩ ⟨rfl, rfl⟩
    exact h.2 (Bool.eq_false_iff.2 fun again => once ⟨rfl, again⟩) last
  · intro noSolidus last
    rw [List.getLast?_concat, Option.some.injEq] at last
    rw [last] at noSolidus
    cases noSolidus

/-- The operators of every term are unambiguous, from a place on. -/
def AllUnambiguous (ops : List Char) (around : List (List Char)) (s : List Char) : Prop :=
  ∀ l ∈ operatorsFrom ops around s, IsUnambiguous l

theorem allUnambiguous_of_passes (h : Passes [' ', '.', '/', '(', ')'] s r)
    (rest : AllUnambiguous ops around r) : AllUnambiguous ops around s := by
  rw [AllUnambiguous, operatorsFrom_of_passes h]
  exact rest

theorem allUnambiguous_cons_operator (h : isOperator c = true) :
    AllUnambiguous ops around (c :: s) ↔ AllUnambiguous (ops ++ [c]) around s := by
  rw [AllUnambiguous, operatorsFrom_cons_operator h, AllUnambiguous]

/-- A coefficient brings no solidus. -/
theorem exists_goesOn_of_coefficient (h : Coefficient s x r) :
    ∃ ops, GoesOn false ops ∧
      ∀ around, operatorsFrom [] around s = operatorsFrom ops around r := by
  have passes : Passes ['/', '(', ')'] s r :=
    passes_coefficient (by decide) (by decide) (by decide) h
  obtain ⟨w, rfl, free⟩ := passes
  refine ⟨w.filter isOperator, goesOn_of_notMem fun member => ?_, fun around => ?_⟩
  · exact free _ List.mem_cons_self (List.mem_of_mem_filter member)
  · exact operatorsFrom_append (free _ (by decide)) (free _ (by decide))

/-- What a part keeps, from its end to its start: a factor adds no operators to the term that it
stands in, a term adds unambiguous ones, and an expression starts a term of its own. -/
def KeepsUnambiguous : Part → List Char → List Char → Prop
  | .factor, s, r => ∀ ops around, AllUnambiguous ops around r → AllUnambiguous ops around s
  | .term divided, s, r => ∀ around, (∀ ops, GoesOn divided ops → AllUnambiguous ops around r) →
      ∀ ops, GoesOn false ops → AllUnambiguous ops around s
  | .expression, s, r => ∀ around, (∀ ops, IsUnambiguous ops → AllUnambiguous ops around r) →
      AllUnambiguous [] around s

theorem keepsUnambiguous_of_spells (h : Spells o tens part s e r) : KeepsUnambiguous part s r := by
  induction h with
  | one => exact fun _ _ => allUnambiguous_of_passes (.cons (by decide))
  | ten =>
    exact fun _ _ => allUnambiguous_of_passes
      ((Passes.cons (by decide)).trans ((Passes.cons (by decide)).trans (.cons (by decide))))
  | unit word n =>
    intro ops around rest
    exact allUnambiguous_of_passes ((passes_word (by decide) (by decide +kernel) word).trans
      (passes_powerText (by decide))) rest
  | group n inner ih =>
    intro ops around rest
    refine ih (ops :: around) fun ops' single => ?_
    rw [AllUnambiguous, operatorsFrom, List.forall_mem_cons]
    exact ⟨single, allUnambiguous_of_passes (passes_powerText (by decide)) rest⟩
  | missing => exact fun _ _ rest => rest
  | first factor ih => exact fun around rest ops start => ih ops around (rest ops start)
  | @product _ r _ _ _ divided c term operator single factor ih ih' =>
    intro around rest
    refine ih around fun ops goesOn => ?_
    have known : isOperator c = true := isOperator_iff.2 (operator.imp_right .inl)
    have solidus : c ≠ '/' := by rcases operator with rfl | rfl <;> decide
    have goesOn' : GoesOn false (ops ++ [c]) :=
      decide_eq_false solidus ▸ goesOn.append fun again => solidus again.1
    rw [allUnambiguous_cons_operator known]
    exact ih' _ around (rest _ goesOn')
  | quotient term single factor ih ih' =>
    intro around rest
    refine ih around fun ops goesOn => ?_
    have goesOn' : GoesOn true (ops ++ ['/']) := goesOn.append fun again => nomatch again.2
    rw [allUnambiguous_cons_operator rfl]
    exact ih' _ around (rest _ goesOn')
  | expression coefficient term ih =>
    intro around rest
    obtain ⟨ops, goesOn, same⟩ := exists_goesOn_of_coefficient coefficient
    rw [AllUnambiguous, same]
    exact ih around (fun ops' goesOn' => rest ops' goesOn'.1) ops goesOn

/-- In a text of the grammar, no solidus comes right after another one among the operators of a
term. -/
theorem isUnambiguous_of_spells (h : Spells o tens .expression s e [])
    (member : ops ∈ termOperators s) : IsUnambiguous ops := by
  refine keepsUnambiguous_of_spells h [] (fun ops' last l end' => ?_) ops member
  rw [operatorsFrom, List.mem_singleton] at end'
  rwa [end']

/-! ## Operators outside of parentheses -/

/-- The last operator of a text outside of its parentheses: the term that the whole text is has its
operators collected at the end of the text. -/
def lastOperator? (s : List Char) : Option Char := ((termOperators s).getLastD []).getLast?

/-- What a part does to the operators that are collected before it: a factor adds none to the term
that it stands in, and a term that is divided adds a solidus last. -/
def Collects : Part → List Char → List Char → Prop
  | .factor, s, r => ∀ ops around, ∃ closed,
      operatorsFrom ops around s = closed ++ operatorsFrom ops around r
  | .term divided, s, r => ∀ ops around, ∃ closed ops',
      operatorsFrom ops around s = closed ++ operatorsFrom ops' around r ∧
        (divided = true → ops'.getLast? = some '/')
  | .expression, s, r => ∀ around, ∃ closed ops,
      operatorsFrom [] around s = closed ++ operatorsFrom ops around r

theorem collects_of_passes (h : Passes [' ', '.', '/', '(', ')'] s r) : Collects .factor s r :=
  fun _ _ => ⟨[], operatorsFrom_of_passes h⟩

/-- A term goes on with an operator and a factor. -/
theorem Collects.operator {t : List Char} (h : Collects (.term divided) s (c :: r))
    (operator : isOperator c = true) (factor : Collects .factor r t) (ops : List Char)
    (around : List (List Char)) : ∃ closed ops',
      operatorsFrom ops around s = closed ++ operatorsFrom (ops' ++ [c]) around t := by
  obtain ⟨closed, ops', collected, -⟩ := h ops around
  obtain ⟨closed', collected'⟩ := factor (ops' ++ [c]) around
  refine ⟨closed ++ closed', ops', ?_⟩
  rw [collected, operatorsFrom_cons_operator operator, collected', List.append_assoc]

theorem collects_of_spells (h : Spells o tens part s e r) : Collects part s r := by
  induction h with
  | one => exact collects_of_passes (.cons (by decide))
  | ten =>
    exact collects_of_passes
      ((Passes.cons (by decide)).trans ((Passes.cons (by decide)).trans (.cons (by decide))))
  | unit word n =>
    exact collects_of_passes ((passes_word (by decide) (by decide +kernel) word).trans
      (passes_powerText (by decide)))
  | group n inner ih =>
    intro ops around
    obtain ⟨closed, ops', collected⟩ := ih (ops :: around)
    refine ⟨closed ++ [ops'], ?_⟩
    rw [operatorsFrom, collected, operatorsFrom, List.headD_cons, List.tail_cons,
      operatorsFrom_of_passes (passes_powerText (by decide)), List.append_assoc,
      List.singleton_append]
  | missing => exact collects_of_passes (.refl _)
  | first factor ih =>
    intro ops around
    obtain ⟨closed, collected⟩ := ih ops around
    exact ⟨closed, ops, collected, nofun⟩
  | product term operator single factor ih ih' =>
    intro ops around
    obtain ⟨closed, ops', collected⟩ :=
      ih.operator (isOperator_iff.2 (operator.imp_right .inl)) ih' ops around
    exact ⟨closed, _, collected, nofun⟩
  | quotient term single factor ih ih' =>
    intro ops around
    obtain ⟨closed, ops', collected⟩ := ih.operator rfl ih' ops around
    exact ⟨closed, _, collected, fun _ => List.getLast?_concat⟩
  | expression coefficient term ih =>
    intro around
    obtain ⟨ops, -, before⟩ := exists_goesOn_of_coefficient coefficient
    obtain ⟨closed, ops', collected, -⟩ := ih ops around
    exact ⟨closed, ops', (before around).trans collected⟩

/-- A term that is divided has a solidus as the last operator of its text. -/
theorem lastOperator?_of_spells (coefficient : Coefficient s x r)
    (h : Spells o tens (.term true) r e []) : lastOperator? s = some '/' := by
  obtain ⟨ops, -, before⟩ := exists_goesOn_of_coefficient coefficient
  obtain ⟨closed, ops', collected, last⟩ := collects_of_spells h ops []
  rw [lastOperator?, termOperators, before, collected, operatorsFrom, List.getLastD_concat,
    last rfl]

end Metrology.Expression
