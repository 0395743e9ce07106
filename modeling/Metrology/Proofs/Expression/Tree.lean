import Metrology.Proofs.Expression.Texts

/-!
# Trees of unit expressions

Unit expressions as trees of factors and terms, in which every name has the escape character in
front (`Tree`).  A tree has a text and stands for an expression, and the grammar spells the one as
the other (`Tree.spells_text`).
-/

namespace Metrology.Expression

/-! ## Trees -/

/-- The operators between factors. -/
inductive Operator where
  | blank | point | solidus
deriving DecidableEq

/-- The character of an operator. -/
def Operator.character : Operator → Char
  | .blank => ' '
  | .point => '.'
  | .solidus => '/'

/-- The product or the quotient that an operator makes. -/
def Operator.apply : Operator → Expression → Expression → Expression
  | .solidus => .quotient
  | _ => .product

/-- A prefix, by its code. -/
structure PrefixCode where
  code : String
  factor : Float
  factor?_eq : Prefix.factor? code = some factor

namespace Tree

mutual

/-- The factors of a tree. -/
inductive Factor where
  | unit (scale : Option PrefixCode) (name : {w : List Char // IsName w})
    (power : Option Whole.Numeral)
  | one
  | group (coefficient : Option Literal.Numeral) (term : Term) (power : Option Whole.Numeral)

/-- Factors with operators between them. -/
inductive Term where
  | single (factor : Factor)
  | joined (term : Term) (operator : Operator) (factor : Factor)

end

/-! ### Well-formed trees -/

/-- Whether the factor is the number one. -/
def Factor.isOne : Factor → Bool
  | .one => true
  | _ => false

/-- Whether the first factor is the number one. -/
def Term.startsWithOne : Term → Bool
  | .single f => f.isOne
  | .joined t _ _ => t.startsWithOne

/-- Whether the last factor is the number one. -/
def Term.endsWithOne : Term → Bool
  | .single f => f.isOne
  | .joined _ _ f => f.isOne

/-- Whether the last operator is a solidus. -/
def Term.divided : Term → Bool
  | .single _ => false
  | .joined _ op _ => op = .solidus

mutual

/-- Inside a factor a one stands only before a solidus, and comes first only behind a coefficient,
and no solidus follows another. -/
def Factor.valid : Factor → Bool
  | .unit _ _ _ => true
  | .one => true
  | .group coefficient t _ =>
    t.valid && !t.endsWithOne && (coefficient.isSome || !t.startsWithOne)

/-- The same for terms, but for a one at their ends. -/
def Term.valid : Term → Bool
  | .single f => f.valid
  | .joined t op f =>
    t.valid && f.valid && (!t.endsWithOne || op = .solidus) && !(t.divided && op = .solidus)

end

/-! ### Texts -/

/-- The text of a coefficient that may be left out. -/
def coefficientText : Option Literal.Numeral → List Char
  | none => []
  | some n => n.text ++ [' ']

/-- The text of a prefix that may be left out. -/
def scaleText : Option PrefixCode → List Char
  | none => []
  | some code => code.code.toList

mutual

/-- The text of a factor. -/
def Factor.text (escape : Char) : Factor → List Char
  | .unit scale name n => scaleText scale ++ escape :: (name.1 ++ powerText n)
  | .one => ['1']
  | .group coefficient t n =>
    '(' :: (coefficientText coefficient ++ (t.text escape ++ ')' :: powerText n))

/-- The text of a term. -/
def Term.text (escape : Char) : Term → List Char
  | .single f => f.text escape
  | .joined t op f => t.text escape ++ op.character :: f.text escape

end

/-! ### Expressions -/

mutual

/-- The expression of a factor. -/
def Factor.expression : Factor → Expression
  | .unit scale name n =>
    ((Expression.unit (String.ofList name.1)).scaledBy (scale.map PrefixCode.factor)).raised n
  | .one => .one
  | .group coefficient t n =>
    (t.expression.scaledBy (coefficient.map Literal.Numeral.value)).raised n

/-- The expression of a term. -/
def Term.expression : Term → Expression
  | .single f => f.expression
  | .joined t op f => op.apply t.expression f.expression

end

end Tree

/-- Trees of unit expressions: an optional coefficient and a term. -/
structure Tree where
  coefficient : Option Literal.Numeral
  term : Tree.Term
  valid : (Tree.Factor.group coefficient term none).valid = true

namespace Tree

/-- The text of a tree. -/
def text (tree : Tree) (escape : Char) : List Char :=
  coefficientText tree.coefficient ++ tree.term.text escape

/-- The expression of a tree. -/
def expression (tree : Tree) : Expression :=
  tree.term.expression.scaledBy (tree.coefficient.map Literal.Numeral.value)

/-! ## The grammar of trees -/

variable {o : Options} {tens : Bool} {r : List Char}

/-- A factor starts with a character that is no blank and no operator, and that starts no
coefficient unless it is a one. -/
theorem Factor.exists_text_eq_cons (o : Options) (f : Factor) :
    ∃ c w, f.text o.escape = c :: w ∧ Text.isBlank c = false ∧ isOperator c = false ∧
      (f.isOne = false → Literal.isStart c = false) := by
  cases f with
  | unit scale name n =>
    cases scale with
    | none => exact ⟨_, _, rfl, o.isBlank_escape, o.isOperator_escape, fun _ => o.isStart_escape⟩
    | some scale =>
      obtain ⟨code, x, factor⟩ := scale
      obtain ⟨c, w, text, letter⟩ : ∃ c w, code.toList = c :: w ∧ Text.isLetter c = true := by
        rcases factor?_eq_some_iff.1 factor with ⟨c, text, factor⟩ | ⟨text, -⟩
        · exact ⟨c, [], text, isLetter_of_letterFactor? factor⟩
        · exact ⟨'d', ['a'], text, rfl⟩
      refine ⟨c, _, by rw [Factor.text, scaleText, text]; rfl, isBlank_of_isLetter letter, ?_, ?_⟩
      · refine Bool.eq_false_iff.2 fun operator => ?_
        cases letter.symm.trans (isLetter_of_isOperator operator)
      · refine fun _ => Bool.eq_false_iff.2 fun start => ?_
        cases letter.symm.trans (isLetter_of_isStart start)
  | one => exact ⟨_, _, rfl, rfl, rfl, by rintro ⟨⟩⟩
  | group => exact ⟨_, _, rfl, rfl, rfl, fun _ => rfl⟩

theorem Term.exists_text_eq_cons (o : Options) (t : Term) :
    ∃ c w, t.text o.escape = c :: w ∧ Text.isBlank c = false ∧
      (t.startsWithOne = false → Literal.isStart c = false) := by
  induction t using Term.rec (motive_1 := fun _ => True) with
  | unit | one | group => trivial
  | single f =>
    obtain ⟨c, w, text, blank, -, start⟩ := f.exists_text_eq_cons o
    exact ⟨c, w, text, blank, start⟩
  | joined t op f ih =>
    obtain ⟨c, w, text, blank, start⟩ := ih
    exact ⟨c, _, by rw [Term.text, text]; rfl, blank, start⟩

/-- A coefficient and a term, or the term alone, make an expression. -/
theorem spells_body {divided : Bool} {e : Expression} {coefficient : Option Literal.Numeral}
    {t : Term} (h : (coefficient.isSome || !t.startsWithOne) = true)
    (term : Spells o tens (.term divided) (t.text o.escape ++ r) e r) :
    Spells o tens .expression (coefficientText coefficient ++ (t.text o.escape ++ r))
      (e.scaledBy (coefficient.map Literal.Numeral.value)) r := by
  refine .expression ?_ term
  obtain ⟨c, w, text, blank, start⟩ := t.exists_text_eq_cons o
  rw [text]
  have noBlank : Text.Stops Text.isBlank (c :: w ++ r) := Text.stops_cons.2 blank
  cases coefficient with
  | none =>
    have noNumeral : Text.Stops Literal.isStart (c :: w ++ r) :=
      Text.stops_cons.2 (start (by simpa using h))
    exact .absent (b := []) rfl noBlank noNumeral
  | some n =>
    have ends : n.EndsBefore ([' '] ++ (c :: w ++ r)) := n.endsBefore_cons rfl rfl
    have present := Coefficient.present (b := []) n rfl rfl noBlank ends
    rw [coefficientText, List.append_assoc]
    exact present

mutual

/-- The text of a factor spells its expression, where a solidus follows a one. -/
theorem Factor.spells_text (f : Factor) (valid : f.valid = true) (r : List Char)
    (next : f.isOne = true → r.head? = some '/') :
    Spells o tens .factor (f.text o.escape ++ r) f.expression r := by
  cases f with
  | unit scale name n =>
    rw [Factor.text, Factor.expression]
    cases scale with
    | none =>
      have word : Word o.escape (o.escape :: name.1) _ := .escaped name.2
      have spelled : Spells o tens _ _ _ r := .unit word n
      simpa [scaleText, scaledBy] using spelled
    | some scale =>
      obtain ⟨code, x, factor⟩ := scale
      have word : Word o.escape (code.toList ++ o.escape :: name.1) _ := .prefixed factor name.2
      have spelled : Spells o tens _ _ _ r := .unit word n
      simpa [scaleText, scaledBy] using spelled
  | one =>
    obtain ⟨r, rfl⟩ := List.head?_eq_some_iff.1 (next rfl)
    exact .one
  | group coefficient t n =>
    simp only [Factor.valid, Bool.and_eq_true, Bool.not_eq_true'] at valid
    have inner := t.spells_text valid.1.1 (')' :: (powerText n ++ r))
      (fun one => Bool.noConfusion (one.symm.trans valid.1.2))
    have spelled : Spells o tens _ _ _ r := .group n (spells_body valid.2 inner)
    rw [Factor.text, Factor.expression]
    simpa using spelled

/-- The text of a term spells its expression, where a solidus follows a one. -/
theorem Term.spells_text (t : Term) (valid : t.valid = true) (r : List Char)
    (next : t.endsWithOne = true → r.head? = some '/') :
    Spells o tens (.term t.divided) (t.text o.escape ++ r) t.expression r := by
  cases t with
  | single f => exact .first (f.spells_text valid r next)
  | joined t op f =>
    simp only [Term.valid, Bool.and_eq_true] at valid
    obtain ⟨⟨⟨valid, valid'⟩, one⟩, once⟩ := valid
    have factor := f.spells_text valid' r next
    obtain ⟨c, w, text, -, operator, -⟩ := f.exists_text_eq_cons o
    have single : Text.Stops isOperator (f.text o.escape ++ r) := by
      rw [text]
      exact Text.stops_cons.2 operator
    have term := t.spells_text valid (op.character :: (f.text o.escape ++ r)) fun last => by
      rw [last] at one
      rw [of_decide_eq_true one]
      rfl
    rw [Term.text, List.append_assoc, List.cons_append]
    cases op with
    | blank => exact .product term (.inl rfl) single factor
    | point => exact .product term (.inr rfl) single factor
    | solidus =>
      rw [show t.divided = false by simpa using once] at term
      exact .quotient term single factor

end

/-! ## Blanks at the ends -/

theorem isBlank_of_isNameCharacter {c : Char} (h : isNameCharacter c = true) :
    Text.isBlank c = false := by
  rw [isNameCharacter, Bool.or_eq_true, decide_eq_true_eq] at h
  rcases h with rfl | letter
  · decide
  · exact isBlank_of_isLetter letter

/-- A text that ends without a blank still does with a power behind it. -/
theorem stops_reverse_powerText {s : List Char} (h : Text.Stops Text.isBlank s.reverse)
    (n : Option Whole.Numeral) : Text.Stops Text.isBlank (s ++ powerText n).reverse := by
  cases n with
  | none => rwa [powerText, List.append_nil]
  | some n =>
    refine Text.stops_reverse_append (Text.stops_of_all fun c member => ?_) n.text_ne_nil s
    have signed := List.all_eq_true.1 n.all_text c (List.mem_reverse.1 member)
    refine isBlank_of_isStart ?_
    rw [Literal.isStart, ← Literal.isSignedDigit, signed, Bool.true_or]

theorem Factor.stops_reverse_text (f : Factor) (escape : Char) :
    Text.Stops Text.isBlank (f.text escape).reverse := by
  cases f with
  | unit scale name n =>
    obtain ⟨w, letter, characters⟩ := name
    have text : (unit scale ⟨w, letter, characters⟩ n).text escape =
        scaleText scale ++ [escape] ++ w ++ powerText n := by simp [Factor.text]
    rw [text]
    refine stops_reverse_powerText (Text.stops_reverse_append ?_ ?_ _) n
    · exact Text.stops_of_all fun c member => isBlank_of_isNameCharacter
        (List.all_eq_true.1 characters c (List.mem_reverse.1 member))
    · rintro rfl
      cases letter
  | one => exact Text.stops_cons.2 rfl
  | group coefficient t n =>
    have text : (group coefficient t n).text escape =
        '(' :: (coefficientText coefficient ++ t.text escape) ++ [')'] ++ powerText n := by
      simp [Factor.text]
    rw [text]
    exact stops_reverse_powerText
      (Text.stops_reverse_append (Text.stops_cons.2 rfl) (List.cons_ne_nil _ _) _) n

theorem Term.stops_reverse_text (t : Term) (o : Options) :
    Text.Stops Text.isBlank (t.text o.escape).reverse := by
  cases t with
  | single f => exact f.stops_reverse_text o.escape
  | joined t op f =>
    have ne : f.text o.escape ≠ [] := by
      obtain ⟨c, w, text, -⟩ := f.exists_text_eq_cons o
      rw [text]
      exact List.cons_ne_nil _ _
    rw [Term.text, List.append_cons]
    exact Text.stops_reverse_append (f.stops_reverse_text o.escape) ne _

/-- There are no blanks at the ends of the text of a tree. -/
theorem trim_text (tree : Tree) (o : Options) :
    Text.trim (tree.text o.escape) = tree.text o.escape := by
  obtain ⟨c, w, text, blank, -⟩ := tree.term.exists_text_eq_cons o
  refine Text.trimWhere_of_stops ?_ ?_
  · rw [Tree.text]
    cases tree.coefficient with
    | none =>
      rw [text]
      exact Text.stops_cons.2 blank
    | some n =>
      rw [coefficientText, List.append_assoc]
      exact .of_any n.head?_text fun _ => isBlank_of_isStart
  · refine Text.stops_reverse_append (tree.term.stops_reverse_text o) ?_ _
    rw [text]
    exact List.cons_ne_nil _ _

/-- The text of a tree spells its expression. -/
theorem spells_text (tree : Tree) :
    Spells o tens .expression (tree.text o.escape) tree.expression [] := by
  have valid := tree.valid
  simp only [Factor.valid, Bool.and_eq_true, Bool.not_eq_true'] at valid
  have term : Spells o tens _ (tree.term.text o.escape ++ []) _ [] :=
    tree.term.spells_text valid.1.1 [] fun one => Bool.noConfusion (one.symm.trans valid.1.2)
  have body := spells_body valid.2 term
  rwa [List.append_nil] at body

end Tree

end Metrology.Expression
