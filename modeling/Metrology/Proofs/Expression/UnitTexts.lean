import Metrology.Proofs.Expression.Tree

/-!
# Unit texts

Texts of factors with operators between them, as symbols of dimensions are printed: words without an
escape character (`IsPlainName`) with powers, multiplied by blanks and divided once by a solidus.
`UnitText` says what the grammar needs of such a text, and how it is put together from its factors
(`UnitText.factor`, `UnitText.products`, `UnitText.quotient`).
-/

namespace Metrology.Expression

variable {o : Options} {escape c d : Char} {s w r n : List Char} {e : Expression} {x : Float}
  {divided : Bool}

/-! ## Words -/

instance : Decidable (IsName w) := inferInstanceAs (Decidable (_ ∧ _))

theorem isPlain_cons : IsPlain c (d :: n) ↔ (Text.isLetter d = true →
    isUnprefixedPair c d = true ∨ (Prefix.letterFactor? c).isNone = true) := by
  simp [IsPlain]

instance : (n : List Char) → Decidable (IsPlain c n)
  | [] => isTrue (by rintro _ ⟨⟩)
  | _ :: _ => decidable_of_iff' _ isPlain_cons

/-- A name whose first letter is not read as a prefix. -/
def IsPlainName (w : List Char) : Prop := ∃ c n, w = c :: n ∧ IsName (c :: n) ∧ IsPlain c n

theorem isPlainName_cons : IsPlainName (c :: n) ↔ IsName (c :: n) ∧ IsPlain c n := by
  simp [IsPlainName]

instance : (w : List Char) → Decidable (IsPlainName w)
  | [] => isFalse (by rintro ⟨_, _, ⟨⟩, -⟩)
  | _ :: _ => decidable_of_iff' _ isPlainName_cons

theorem IsPlainName.word (h : IsPlainName w) : Word escape w (.unit (String.ofList w)) := by
  obtain ⟨c, n, rfl, name, plain⟩ := h
  exact .plain name plain

/-- The characters that a word starts with. -/
theorem exists_cons_of_word (word : Word o.escape w e) :
    ∃ c n, w = c :: n ∧ Text.isBlank c = false ∧ isOperator c = false ∧
      Literal.isStart c = false := by
  have of_letter {c : Char} (letter : Text.isLetter c = true) :
      Text.isBlank c = false ∧ isOperator c = false ∧ Literal.isStart c = false := by
    refine ⟨isBlank_of_isLetter letter, ?_, ?_⟩
    · exact Bool.eq_false_iff.2 fun operator => by
        cases letter.symm.trans (isLetter_of_isOperator operator)
    · exact Bool.eq_false_iff.2 fun start => by
        cases letter.symm.trans (isLetter_of_isStart start)
  cases word with
  | escaped => exact ⟨_, _, rfl, o.isBlank_escape, o.isOperator_escape, o.isStart_escape⟩
  | @prefixed code x n factor name =>
    have letters := all_isLetter_of_factor? factor
    cases code : code.toList with
    | nil => exact ⟨_, _, rfl, o.isBlank_escape, o.isOperator_escape, o.isStart_escape⟩
    | cons c cs =>
      rw [code] at letters
      exact ⟨c, _, rfl, of_letter (Bool.and_eq_true_iff.1 letters).1⟩
  | celsius => exact ⟨_, _, rfl, rfl, rfl, rfl⟩
  | deka => exact ⟨_, _, rfl, rfl, rfl, rfl⟩
  | plain name => exact ⟨_, _, rfl, of_letter name.1⟩
  | letter factor => exact ⟨_, _, rfl, of_letter (isLetter_of_letterFactor? factor)⟩

theorem stops_reverse_of_all (all : w.all isNameCharacter = true) :
    Text.Stops Text.isBlank w.reverse :=
  Text.stops_of_all fun c member => Tree.isBlank_of_isNameCharacter
    (List.all_eq_true.1 all c (List.mem_reverse.1 member))

/-- A word ends with a name, and so without a blank. -/
theorem stops_reverse_word (word : Word o.escape w e) : Text.Stops Text.isBlank w.reverse := by
  have of_name {n : List Char} (name : IsName n) (s : List Char) :
      Text.Stops Text.isBlank (s ++ n).reverse := by
    refine Text.stops_reverse_append (stops_reverse_of_all name.2) ?_ s
    rintro rfl
    cases name.1
  cases word with
  | escaped name => exact of_name name [_]
  | prefixed factor name =>
    rw [List.append_cons]
    exact of_name name _
  | celsius characters =>
    exact stops_reverse_of_all (by rw [List.all_cons, List.all_cons, characters]; rfl)
  | deka name =>
    exact stops_reverse_of_all (by rw [List.all_cons, List.all_cons, name.all]; rfl)
  | plain name => exact stops_reverse_of_all name.2
  | letter factor name => exact of_name name [_]

/-! ## Names alone -/

/-- A name that is read as that name where it stands alone. -/
def ReadsAlone (w : List Char) : Prop := IsPlainName w ∨ ∃ n, w = '\'' :: 'C' :: n

theorem isNameCharacter_of_isStart (h : Literal.isStart c = true) : isNameCharacter c = false := by
  rw [isNameCharacter, isLetter_of_isStart h, Bool.or_false, decide_eq_false_iff_not]
  rintro rfl
  cases h

theorem isStart_of_isSignedDigit (h : Literal.isSignedDigit c = true) :
    Literal.isStart c = true := by
  rw [Literal.isStart, ← Literal.isSignedDigit, h, Bool.true_or]

section

variable {tens : Bool} {t : List Char} (name : w.all isNameCharacter = true)

include name

theorem not_mem_of_all (h : isNameCharacter c = false) : c ∉ w := by
  intro member
  rw [List.all_eq_true.1 name c member] at h
  cases h

/-- No coefficient stands before a name. -/
theorem eq_of_coefficient {x : Option Float} (h : Coefficient w x t) : x = none ∧ w = t := by
  have no_blanks {b t : List Char} (text : w = b ++ t) (blanks : b.all Text.isBlank = true) :
      b = [] := by
    refine List.eq_nil_iff_forall_not_mem.2 fun c member => ?_
    have fits := List.all_eq_true.1 name c (text ▸ List.mem_append_left t member)
    cases (Tree.isBlank_of_isNameCharacter fits).symm.trans (List.all_eq_true.1 blanks c member)
  have no_start : Text.Stops Literal.isStart w := by
    refine Text.stops_of_all fun c member => Bool.eq_false_iff.2 fun start => ?_
    exact not_mem_of_all name (isNameCharacter_of_isStart start) member
  cases h with
  | absent blanks => exact ⟨rfl, by rw [no_blanks rfl blanks, List.nil_append]⟩
  | @present b b' t n blanks =>
    obtain rfl := no_blanks rfl blanks
    exact absurd n.head?_text (Text.not_any_head?_iff.2 no_start)

theorem word_of_factor (ne : w ≠ []) (h : Spells o tens .factor w e []) : Word o.escape w e := by
  cases h with
  | @unit w' _ e' word n =>
    cases n with
    | none =>
      rw [powerText, List.nil_append, List.append_nil]
      exact word
    | some n =>
      obtain ⟨c, digits, text⟩ := List.exists_cons_of_ne_nil n.text_ne_nil
      have signed := List.all_eq_true.1 n.all_text c (text ▸ List.mem_cons_self)
      have other := isNameCharacter_of_isStart (isStart_of_isSignedDigit signed)
      refine absurd ?_ (not_mem_of_all name other)
      rw [powerText, text]
      exact List.mem_append_right _ List.mem_cons_self
  | group => exact absurd List.mem_cons_self (not_mem_of_all name (by decide))
  | missing => exact absurd rfl ne

/-- A text of name characters is a word, if it is an expression at all. -/
theorem word_of_spells (ne : w ≠ []) (h : Spells o tens .expression w e []) :
    Word o.escape w e := by
  cases h with
  | expression coefficient term =>
    obtain ⟨rfl, rfl⟩ := eq_of_coefficient name coefficient
    have no_operator {e : Expression} {c : Char} {r : List Char} {divided : Bool}
        (term : Spells o tens (.term divided) w e (c :: r)) (operator : isOperator c = true) :
        False := by
      obtain ⟨u, text, -⟩ := passes_of_spells term
      refine not_mem_of_all name (isNameCharacter_of_isOperator operator) ?_
      rw [text]
      exact List.mem_append_right u List.mem_cons_self
    cases term with
    | first factor => exact word_of_factor name ne factor
    | product term operator =>
      exact (no_operator term (isOperator_iff.2 (operator.imp_right .inl))).elim
    | quotient term => exact (no_operator term rfl).elim

/-- A word of name characters is the name itself, or has a prefix in front of another name. -/
theorem readsAlone_or_scaled_of_word (h : Word o.escape w e) :
    ReadsAlone w ∨ ∃ x n, e = .scaled x (.unit (String.ofList n)) ∧ n ≠ w := by
  have no_escape := not_mem_of_all name (isNameCharacter_escape (o := o))
  cases h with
  | escaped => exact absurd List.mem_cons_self no_escape
  | prefixed => exact absurd (List.mem_append_right _ List.mem_cons_self) no_escape
  | celsius => exact .inl (.inr ⟨_, rfl⟩)
  | deka =>
    refine .inr ⟨_, _, rfl, fun same => ?_⟩
    have lengths := congrArg List.length same
    rw [List.length_cons, List.length_cons] at lengths
    omega
  | plain isName plain => exact .inl (.inl ⟨_, _, rfl, isName, plain⟩)
  | letter => exact .inr ⟨_, _, rfl, (List.cons_ne_self _ _).symm⟩

end

/-! ## Factors -/

/-- A word and the power behind it. -/
structure UnitFactor (escape : Char) where
  word : List Char
  unit : Expression
  power : Option Whole.Numeral
  isWord : Word escape word unit

namespace UnitFactor

def text (f : UnitFactor escape) : List Char := f.word ++ powerText f.power

def expression (f : UnitFactor escape) : Expression := f.unit.raised f.power

theorem exists_text_eq_cons (f : UnitFactor o.escape) :
    ∃ c n, f.text = c :: n ∧ Text.isBlank c = false ∧ isOperator c = false ∧
      Literal.isStart c = false := by
  obtain ⟨c, n, word, classes⟩ := exists_cons_of_word f.isWord
  exact ⟨c, _, by rw [text, word]; rfl, classes⟩

theorem stops_reverse_text (f : UnitFactor o.escape) : Text.Stops Text.isBlank f.text.reverse :=
  Tree.stops_reverse_powerText (stops_reverse_word f.isWord) f.power

theorem spells_text (f : UnitFactor o.escape) (r : List Char) :
    Spells o true .factor (f.text ++ r) f.expression r := by
  rw [text, List.append_assoc]
  exact .unit f.isWord f.power

theorem stops_isOperator_text (f : UnitFactor o.escape) : Text.Stops isOperator (f.text ++ r) := by
  obtain ⟨c, n, text, -, operator, -⟩ := f.exists_text_eq_cons
  rw [text]
  exact Text.stops_cons.2 operator

end UnitFactor

/-! ## Terms -/

/-- Texts with blanks between them: each but the first has a blank before it. -/
theorem intercalate_blank (t : List Char) (ts : List (List Char)) :
    [' '].intercalate (t :: ts) = t ++ ts.flatMap fun t => ' ' :: t := by
  induction ts generalizing t with
  | nil => simp
  | cons u ts ih =>
    rw [List.intercalate_cons_of_ne_nil (List.cons_ne_nil u ts), ih, List.flatMap_cons]
    simp

/-- A text that spells a term before any rest, without blanks at its ends and without a coefficient
in front; `divided` says whether its last operator is a solidus. -/
structure UnitText (o : Options) (divided : Bool) (s : List Char) (e : Expression) : Prop where
  spells : ∀ r, Spells o true (.term divided) (s ++ r) e r
  starts : ∃ c n, s = c :: n ∧ Text.isBlank c = false ∧ Literal.isStart c = false
  ends : Text.Stops Text.isBlank s.reverse

namespace UnitText

theorem factor (f : UnitFactor o.escape) : UnitText o false f.text f.expression where
  spells r := .first (f.spells_text r)
  starts := by
    obtain ⟨c, n, text, blank, -, start⟩ := f.exists_text_eq_cons
    exact ⟨c, n, text, blank, start⟩
  ends := f.stops_reverse_text

theorem word (h : Word o.escape w e) : UnitText o false w e := by
  have text := factor (o := o) ⟨w, e, none, h⟩
  rwa [UnitFactor.text, powerText, List.append_nil] at text

theorem ne_nil (h : UnitText o divided s e) : s ≠ [] := by
  obtain ⟨c, n, rfl, -⟩ := h.starts
  exact List.cons_ne_nil c n

theorem noBlank (h : UnitText o divided s e) : Text.Stops Text.isBlank s := by
  obtain ⟨c, n, rfl, blank, -⟩ := h.starts
  exact Text.stops_cons.2 blank

theorem trim_eq (h : UnitText o divided s e) : Text.trim s = s :=
  Text.trimWhere_of_stops h.noBlank h.ends

/-- There is no coefficient in front. -/
theorem coefficient (h : UnitText o divided s e) : Coefficient s none s := by
  obtain ⟨c, n, rfl, blank, start⟩ := h.starts
  exact .absent (b := []) rfl (Text.stops_cons.2 blank) (Text.stops_cons.2 start)

/-- What stands behind an operator does not change how a text starts. -/
theorem starts_append (h : UnitText o divided s e) (t : List Char) :
    ∃ c n, s ++ t = c :: n ∧ Text.isBlank c = false ∧ Literal.isStart c = false := by
  obtain ⟨c, n, rfl, classes⟩ := h.starts
  exact ⟨c, n ++ t, rfl, classes⟩

theorem ends_append (f : UnitFactor o.escape) (s : List Char) :
    Text.Stops Text.isBlank (s ++ c :: f.text).reverse := by
  obtain ⟨_, _, text, -⟩ := f.exists_text_eq_cons
  rw [List.append_cons]
  exact Text.stops_reverse_append f.stops_reverse_text (by rw [text]; exact List.cons_ne_nil _ _) _

theorem product (h : UnitText o divided s e) (f : UnitFactor o.escape) :
    UnitText o false (s ++ ' ' :: f.text) (.product e f.expression) where
  spells r := by
    rw [List.append_assoc]
    exact .product (h.spells _) (.inl rfl) f.stops_isOperator_text (f.spells_text r)
  starts := h.starts_append _
  ends := ends_append f s

theorem quotient (h : UnitText o false s e) (f : UnitFactor o.escape) :
    UnitText o true (s ++ '/' :: f.text) (.quotient e f.expression) where
  spells r := by
    rw [List.append_assoc]
    exact .quotient (h.spells _) f.stops_isOperator_text (f.spells_text r)
  starts := h.starts_append _
  ends := ends_append f s

theorem over_word {w' : List Char} {e' : Expression} (h : Word o.escape w e)
    (h' : Word o.escape w' e') : UnitText o true (w ++ '/' :: w') (.quotient e e') := by
  have text := (word h).quotient ⟨w', e', none, h'⟩
  rwa [UnitFactor.text, powerText, List.append_nil] at text

/-- The product of an expression and factors, from the left to the right. -/
def productOf (e : Expression) (fs : List (UnitFactor escape)) : Expression :=
  fs.foldl (fun e f => .product e f.expression) e

/-- Factors behind a text, with blanks before them. -/
theorem products (h : UnitText o false s e) (fs : List (UnitFactor o.escape)) :
    UnitText o false (s ++ fs.flatMap fun f => ' ' :: f.text) (productOf e fs) := by
  induction fs generalizing s e with
  | nil => rwa [List.flatMap_nil, List.append_nil]
  | cons f fs ih =>
    rw [List.flatMap_cons, ← List.append_assoc]
    exact ih (h.product f)

/-- Factors with blanks between them. -/
theorem of_factors (f : UnitFactor o.escape) (fs : List (UnitFactor o.escape)) :
    UnitText o false ([' '].intercalate ((f :: fs).map UnitFactor.text))
      (productOf f.expression fs) := by
  rw [List.map_cons, intercalate_blank, List.flatMap_map]
  exact (factor f).products fs

end UnitText

end Metrology.Expression
