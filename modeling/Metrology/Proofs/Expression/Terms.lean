import Metrology.Proofs.Expression.Factors

/-!
# Terms and parentheses

The reader against the grammar, through terms and parentheses: what is read as a term is one
(`spells_of_readTerm`), and what the grammar spells is read, where something follows that cannot
belong to it (`isRead_of_spells`).
-/

namespace Metrology.Expression

variable {o : Options} {s t r : List Char} {c : Char} {e f : Expression} {names : List String}
  {divided : Bool}

/-! ## The rules, inverted -/

theorem yields_readClosing {u : Unit} :
    (readClosing s).Yields names u r ↔ names = [] ∧ s = ')' :: r := by
  rw [readClosing.eq_def]
  split
  · rw [Reading.yields_done]
    refine and_congr_right fun _ => ⟨?_, ?_⟩
    · rintro ⟨-, rfl⟩
      rfl
    · intro h
      exact ⟨rfl, List.tail_eq_of_cons_eq h⟩
  · next open' =>
    rw [iff_false_left Reading.not_yields_fail]
    exact fun h => open' _ h.2

theorem yields_readFactor_group :
    (readFactor o ('(' :: s)).Yields names f r ↔
      ∃ e n, (readNested o s).Yields names e (')' :: (powerText n ++ r)) ∧ f = e.raised n ∧
        Text.Stops Literal.isSignedDigit r := by
  rw [readFactor, Reading.yields_noting]
  simp only [Reading.yields_widen, Reading.yields_andThen, yields_readClosing, yields_readPower]
  constructor
  · rintro ⟨_, _, e, t, _, rfl, inner, _, _, _, u, _, rfl, ⟨rfl, rfl⟩, rfl, n, rfl, rfl, stops⟩
    rw [List.append_nil, List.append_nil]
    exact ⟨e, n, inner, rfl, stops⟩
  · rintro ⟨e, n, inner, rfl, stops⟩
    refine ⟨names, [], e, _, inner.suffix.length_le, (List.append_nil _).symm, inner, [], [], (), _,
      Nat.le_succ _, rfl, ⟨rfl, rfl⟩, rfl, n, rfl, rfl, stops⟩

theorem yields_readFactor_simple (h : s.head? ≠ some '(') :
    (readFactor o s).Yields names f r ↔ (readSimpleFactor o s).Yields names f r := by
  rw [readFactor.eq_def, Reading.yields_noting]
  split
  · exact absurd rfl h
  · rfl

theorem yields_readTerm_iff :
    (readTerm o s).Yields names f r ↔
      ∃ names₁ names₂ e t, names = names₁ ++ names₂ ∧ (readFactor o s).Yields names₁ e t ∧
        (readContinued o false e t).Yields names₂ f r := by
  rw [readTerm, Reading.yields_andThen]
  constructor
  · rintro ⟨names₁, names₂, e, t, -, rfl, factor, rest⟩
    exact ⟨names₁, names₂, e, t, rfl, factor, rest⟩
  · rintro ⟨names₁, names₂, e, t, rfl, factor, rest⟩
    exact ⟨names₁, names₂, e, t, factor.suffix.length_le, rfl, factor, rest⟩

theorem yields_readNested_iff :
    (readNested o s).Yields names f r ↔
      ∃ x t e, Coefficient s x t ∧ (readTerm o t).Yields names e r ∧ f = e.scaledBy x := by
  rw [readNested, Reading.yields_noting]
  simp only [Reading.yields_andThen, yields_readCoefficient, Reading.yields_done]
  constructor
  · rintro ⟨_, _, x, t, _, rfl, ⟨rfl, coefficient⟩, _, _, e, u, _, rfl, term, rfl, rfl, rfl⟩
    rw [List.append_nil, List.nil_append]
    exact ⟨x, t, e, coefficient, term, rfl⟩
  · rintro ⟨x, t, e, coefficient, term, rfl⟩
    have shorter := (yields_readCoefficient.2 ⟨rfl, coefficient⟩).suffix.length_le
    exact ⟨[], names, x, t, shorter, rfl, ⟨rfl, coefficient⟩, names, [], e, r,
      term.suffix.length_le, (List.append_nil _).symm, term, rfl, rfl, rfl⟩

theorem yields_readContinued_of_stops (h : Text.Stops isOperator s) :
    (readContinued o divided e s).Yields names f r ↔ names = [] ∧ e = f ∧ s = r := by
  cases s with
  | nil => rw [readContinued, Reading.yields_done]
  | cons c s =>
    have noOperator : ¬isOperator c = true := Bool.eq_false_iff.1 (Text.stops_cons.1 h)
    rw [readContinued, if_neg noOperator, Reading.yields_done]

theorem filter_head?_eq_none_iff {fits : Char → Bool} :
    s.head?.filter fits = none ↔ Text.Stops fits s := by
  rw [Option.filter_eq_none_iff, Text.Stops]
  exact forall₂_congr fun _ _ => Bool.eq_false_iff.symm

theorem yields_readContinued_of_operator (h : isOperator c = true) :
    (readContinued o divided e (c :: s)).Yields names f r ↔
      Text.Stops isOperator s ∧ ¬(c = '/' ∧ divided = true) ∧
        ∃ names₁ names₂ g t, names = names₁ ++ names₂ ∧ (readFactor o s).Yields names₁ g t ∧
          (readContinued o (c = '/') (if c = '/' then .quotient e g else .product e g) t).Yields
            names₂ f r := by
  rw [readContinued, if_pos h]
  cases next : s.head?.filter isOperator with
  | none =>
    rw [and_iff_right (filter_head?_eq_none_iff.1 next)]
    dsimp only
    rw [Reading.yields_noting]
    by_cases again : c = '/' ∧ divided = true
    · rw [if_pos (by rwa [Bool.and_eq_true, decide_eq_true_eq]),
        iff_false_left Reading.not_yields_fail]
      exact fun h => h.1 again
    · rw [if_neg (by rwa [Bool.and_eq_true, decide_eq_true_eq]), and_iff_right again,
        Reading.yields_widen, Reading.yields_andThen]
      constructor
      · rintro ⟨names₁, names₂, g, t, -, rfl, factor, rest⟩
        exact ⟨names₁, names₂, g, t, rfl, factor, rest⟩
      · rintro ⟨names₁, names₂, g, t, rfl, factor, rest⟩
        exact ⟨names₁, names₂, g, t, factor.suffix.length_le, rfl, factor, rest⟩
  | some d =>
    rw [iff_false_left Reading.not_yields_fail]
    intro single
    cases next.symm.trans (filter_head?_eq_none_iff.2 single.1)

/-! ## Soundness -/

-- The inductions are on the text, like the recursion of the reader; a term grows at its end with
-- each factor, and `spells_of_readContinued` carries the part of it that is read so far.

theorem exists_operator (h : ¬Text.Stops isOperator s) :
    ∃ c t, s = c :: t ∧ isOperator c = true := by
  cases s with
  | nil => exact absurd Text.stops_nil h
  | cons c t =>
    rw [Text.stops_cons, Bool.not_eq_false] at h
    exact ⟨c, t, rfl, h⟩

mutual

/-- What is read as an expression is an expression of the grammar. -/
theorem spells_of_readNested {s : List Char} {names : List String} {f : Expression}
    {r : List Char} (h : (readNested o s).Yields names f r) :
    names = f.names ∧ Spells o true .expression s f r := by
  obtain ⟨x, t, e, coefficient, term, rfl⟩ := yields_readNested_iff.1 h
  have shorter := (yields_readCoefficient.2 ⟨rfl, coefficient⟩).suffix.length_le
  obtain ⟨same, divided, spelled⟩ := spells_of_readTerm term
  exact ⟨same.trans names_scaledBy.symm, .expression coefficient spelled⟩
termination_by 4 * s.length + 3

/-- What is read as a term is a term of the grammar. -/
theorem spells_of_readTerm {s : List Char} {names : List String} {f : Expression}
    {r : List Char} (h : (readTerm o s).Yields names f r) :
    names = f.names ∧ ∃ divided, Spells o true (.term divided) s f r := by
  obtain ⟨names₁, names₂, e, t, rfl, factor, rest⟩ := yields_readTerm_iff.1 h
  have shorter := factor.suffix.length_le
  obtain ⟨rfl, spelled⟩ := spells_of_readFactor factor
  exact spells_of_readContinued (.first spelled) rest
termination_by 4 * s.length + 2

/-- What is read as a factor is a factor of the grammar. -/
theorem spells_of_readFactor {s : List Char} {names : List String} {f : Expression}
    {r : List Char} (h : (readFactor o s).Yields names f r) :
    names = f.names ∧ Spells o true .factor s f r := by
  by_cases group : s.head? = some '('
  · obtain ⟨s', text⟩ := List.head?_eq_some_iff.1 group
    have shorter : s'.length < s.length := text ▸ Nat.lt_succ_self _
    rw [text] at h ⊢
    obtain ⟨e, n, inner, rfl, -⟩ := yields_readFactor_group.1 h
    obtain ⟨same, spelled⟩ := spells_of_readNested inner
    exact ⟨same.trans names_raised.symm, .group n spelled⟩
  · exact spells_of_readSimpleFactor group ((yields_readFactor_simple group).1 h)
termination_by 4 * s.length + 1

/-- What goes on a term makes a longer term of the grammar with it. -/
theorem spells_of_readContinued {s : List Char} {names : List String} {e f : Expression}
    {r t : List Char} {divided : Bool} (term : Spells o true (.term divided) t e s)
    (h : (readContinued o divided e s).Yields names f r) :
    e.names ++ names = f.names ∧ ∃ divided', Spells o true (.term divided') t f r := by
  by_cases stops : Text.Stops isOperator s
  · obtain ⟨rfl, rfl, rfl⟩ := (yields_readContinued_of_stops stops).1 h
    exact ⟨List.append_nil _, divided, term⟩
  · obtain ⟨c, s', text, operator⟩ := exists_operator stops
    rw [text] at term h
    obtain ⟨single, once, names₁, names₂, g, u, rfl, factor, rest⟩ :=
      (yields_readContinued_of_operator operator).1 h
    have shorter : u.length < s.length := by
      rw [text]
      exact Nat.lt_succ_of_le factor.suffix.length_le
    obtain ⟨rfl, spelled⟩ := spells_of_readFactor factor
    rw [← List.append_assoc]
    by_cases solidus : c = '/'
    · subst solidus
      obtain rfl : divided = false := Bool.eq_false_iff.2 fun again => once ⟨rfl, again⟩
      exact spells_of_readContinued (.quotient term single spelled) rest
    · rw [if_neg solidus, decide_eq_false solidus] at rest
      refine spells_of_readContinued (.product term ?_ single spelled) rest
      simpa [isOperator_iff, solidus] using operator
termination_by 4 * s.length

end

/-! ## Completeness -/

/-- What is required of the reader on each part: it reads a factor and an expression before a
character that ends them, and a term with all that it goes on to read there. -/
def IsRead (o : Options) : Part → List Char → Expression → List Char → Prop
  | .factor, s, e, r => EndsFactor r → (readFactor o s).Yields e.names e r
  | .term divided, s, e, r => EndsFactor r → ∀ names f t,
      (readContinued o divided e r).Yields names f t → (readTerm o s).Yields (e.names ++ names) f t
  | .expression, s, e, r => Text.Stops isOperator r → EndsFactor r →
      (readNested o s).Yields e.names e r

variable {tens : Bool} {part : Part}

theorem head?_word {w : List Char} (word : Word o.escape w e) : (w ++ r).head? ≠ some '(' := by
  intro group
  rcases present_of_word (r := r) word with one | name
  · cases one.symm.trans group
  · rcases startsName_iff.1 name with letter | ⟨t, text, -⟩ | ⟨t, text⟩
    · rw [group] at letter
      cases letter
    · rw [text] at group
      exact o.escape_ne (Options.isEscape_of_reserved rfl) (Option.some.inj group).symm
    · rw [text] at group
      cases group

/-- The reader reads all that the grammar spells. -/
theorem isRead_of_spells (h : Spells o tens part s e r) : IsRead o part s e r := by
  -- The grammar takes the last factor off a term, and the reader the first: the last factor becomes
  -- the start of what goes on the term before it.
  induction h with
  | one =>
    intro ends
    exact (yields_readFactor_simple (by rintro ⟨⟩)).2 yields_one
  | ten =>
    intro ends
    exact (yields_readFactor_simple (by rintro ⟨⟩)).2 yields_ten
  | unit word n =>
    intro ends
    rw [names_raised]
    exact (yields_readFactor_simple (head?_word word)).2 (yields_word word n ends)
  | group n inner ih =>
    intro ends
    rw [yields_readFactor_group, names_raised]
    exact ⟨_, n, ih (Text.stops_cons.2 (by decide)) (by rintro c ⟨⟩; exact .inr rfl), rfl,
      stops_isSignedDigit ends⟩
  | missing h noGroup noOne noName =>
    intro ends
    exact (yields_readFactor_simple noGroup).2 (yields_missing h noOne noName)
  | first factor ih =>
    intro ends names f t rest
    exact yields_readTerm_iff.2 ⟨_, _, _, _, rfl, ih ends, rest⟩
  | @product _ r r' e g divided c term operator single factor ih ih' =>
    intro ends names f t rest
    have operator' : isOperator c = true := isOperator_iff.2 (operator.imp_right .inl)
    have solidus : c ≠ '/' := by rcases operator with rfl | rfl <;> decide
    have continued : (readContinued o divided e (c :: r)).Yields (g.names ++ names) f t := by
      refine (yields_readContinued_of_operator operator').2
        ⟨single, fun again => solidus again.1, _, _, g, r', rfl, ih' ends, ?_⟩
      rwa [if_neg solidus, decide_eq_false solidus]
    rw [Expression.names, List.append_assoc]
    exact ih (by rintro _ ⟨⟩; exact .inl operator') _ _ _ continued
  | @quotient _ r r' e g term single factor ih ih' =>
    intro ends names f t rest
    have continued : (readContinued o false e ('/' :: r)).Yields (g.names ++ names) f t :=
      (yields_readContinued_of_operator rfl).2
        ⟨single, fun again => Bool.noConfusion again.2, _, _, g, r', rfl, ih' ends, rest⟩
    rw [Expression.names, List.append_assoc]
    exact ih (by rintro _ ⟨⟩; exact .inl rfl) _ _ _ continued
  | expression coefficient term ih =>
    intro stops ends
    rw [names_scaledBy]
    refine yields_readNested_iff.2 ⟨_, _, _, coefficient, ?_, rfl⟩
    have := ih ends [] _ _ ((yields_readContinued_of_stops stops).2 ⟨rfl, rfl, rfl⟩)
    rwa [List.append_nil] at this

end Metrology.Expression
