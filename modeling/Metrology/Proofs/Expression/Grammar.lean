import Metrology.Proofs.Expression.Characters
import Metrology.Proofs.Expression.Yields
import Metrology.Proofs.Number.Numeral

/-!
# The grammar of unit expressions

The texts that unit expressions are written as, without reference to the reader: unit words
(`Word`), coefficients (`Coefficient`), and factors, terms and expressions (`Spells`), each with the
text that is left behind it.  The reader is matched with the rules for powers and coefficients here
(`yields_readPower`, `yields_readCoefficient`).
-/

namespace Metrology.Expression

/-! ## Words -/

/-- A letter, and letters and apostrophes after it. -/
def IsName (w : List Char) : Prop :=
  w.head?.any Text.isLetter = true ∧ w.all isNameCharacter = true

/-- A name that is read without an escape character: `'C` may come first instead of a letter. -/
def IsBareName (w : List Char) : Prop :=
  IsName w ∨ ∃ n, w = '\'' :: 'C' :: n ∧ n.all isNameCharacter = true

/-- The letter `c` is no prefix of `n`: no letter comes next, or the two make a pair that starts
the name of a unit, or `c` is no prefix code. -/
def IsPlain (c : Char) (n : List Char) : Prop :=
  ∀ d ∈ n.head?, Text.isLetter d = true →
    isUnprefixedPair c d = true ∨ Prefix.letterFactor? c = none

/-- The words for units, with and without a prefix. -/
inductive Word (escape : Char) : List Char → Expression → Prop where
  | escaped {n : List Char} (name : IsName n) : Word escape (escape :: n) (.unit (String.ofList n))
  | prefixed {code : String} {x : Float} {n : List Char} (factor : Prefix.factor? code = some x)
    (name : IsName n) :
    Word escape (code.toList ++ escape :: n) (.scaled x (.unit (String.ofList n)))
  | celsius {n : List Char} (characters : n.all isNameCharacter = true) :
    Word escape ('\'' :: 'C' :: n) (.unit (String.ofList ('\'' :: 'C' :: n)))
  | deka {n : List Char} (name : IsBareName n) :
    Word escape ('d' :: 'a' :: n) (.scaled Prefix.deka (.unit (String.ofList n)))
  | plain {c : Char} {n : List Char} (name : IsName (c :: n)) (plain : IsPlain c n) :
    Word escape (c :: n) (.unit (String.ofList (c :: n)))
  | letter {c d : Char} {x : Float} {n : List Char} (factor : Prefix.letterFactor? c = some x)
    (name : IsName (d :: n)) (pair : isUnprefixedPair c d = false) (deka : ¬(c = 'd' ∧ d = 'a')) :
    Word escape (c :: d :: n) (.scaled x (.unit (String.ofList (d :: n))))

/-! ## Powers -/

/-- The text of a power that may be left out. -/
def powerText : Option Whole.Numeral → List Char
  | none => []
  | some n => n.text

/-- An expression raised to a power that may be left out. -/
def raised (e : Expression) : Option Whole.Numeral → Expression
  | none => e
  | some n => .power e n.value

variable {e f : Expression} {s r b : List Char} {names : List String}

theorem head?_powerText {n : Whole.Numeral} :
    (n.text ++ r).head?.any Literal.isSignedDigit = true := by
  obtain ⟨c, text, e⟩ := List.exists_cons_of_ne_nil n.text_ne_nil
  have signed := n.all_text
  rw [e] at signed ⊢
  exact (Bool.and_eq_true_iff.1 signed).1

theorem yields_readPower :
    (readPower e s).Yields names f r ↔
      names = [] ∧ ∃ n, s = powerText n ++ r ∧ f = e.raised n ∧
        Text.Stops Literal.isSignedDigit r := by
  rw [readPower, Reading.yields_noting]
  constructor
  · intro h
    split_ifs at h with starts
    · rw [Reading.yields_noting] at h
      cases read : Whole.read? (s.takeWhile Literal.isSignedDigit) with
      | none =>
        simp only [read] at h
        exact absurd h Reading.not_yields_error
      | some k =>
        simp only [read] at h
        obtain ⟨rfl, rfl, rfl⟩ := Reading.yields_done.1 h
        obtain ⟨n, text, rfl⟩ := Whole.read?_eq_some_iff.1 read
        refine ⟨rfl, some n, ?_, rfl, Text.stops_dropWhile s⟩
        rw [powerText, text, List.takeWhile_append_dropWhile]
    · obtain ⟨rfl, rfl, rfl⟩ := Reading.yields_done.1 h
      exact ⟨rfl, none, rfl, rfl, Text.not_any_head?_iff.1 starts⟩
  · rintro ⟨rfl, _ | n, rfl, rfl, stops⟩
    · rw [if_neg (Text.not_any_head?_iff.2 stops)]
      exact Reading.yields_done.2 ⟨rfl, rfl, rfl⟩
    · rw [powerText, if_pos head?_powerText]
      simp only [Text.takeWhile_append_of_stops n.all_text stops,
        Text.dropWhile_append_of_stops n.all_text stops,
        Whole.read?_eq_some_iff.2 ⟨n, rfl, rfl⟩, Reading.yields_noting]
      exact Reading.yields_done.2 ⟨rfl, rfl, rfl⟩

/-! ## Coefficients -/

/-- The coefficient in front of a term, if there is one, with blanks around it. -/
inductive Coefficient : List Char → Option Float → List Char → Prop where
  | absent {b r : List Char} (blanks : b.all Text.isBlank = true)
    (noBlank : Text.Stops Text.isBlank r) (noNumeral : Text.Stops Literal.isStart r) :
    Coefficient (b ++ r) none r
  | present {b b' r : List Char} (n : Literal.Numeral) (blanks : b.all Text.isBlank = true)
    (blanks' : b'.all Text.isBlank = true) (noBlank : Text.Stops Text.isBlank r)
    (ends : n.EndsBefore (b' ++ r)) :
    Coefficient (b ++ (n.text ++ (b' ++ r))) (some n.value) r

theorem exists_blanks_append (s : List Char) :
    ∃ b, b.all Text.isBlank = true ∧ b ++ Text.dropBlanks s = s :=
  ⟨_, Text.all_takeWhile, List.takeWhile_append_dropWhile⟩

theorem dropBlanks_append (blanks : b.all Text.isBlank = true) (h : Text.Stops Text.isBlank r) :
    Text.dropBlanks (b ++ r) = r := Text.dropWhile_append_of_stops blanks h

theorem yields_readCoefficient {x : Option Float} :
    (readCoefficient s).Yields names x r ↔ names = [] ∧ Coefficient s x r := by
  rw [readCoefficient, Reading.yields_noting]
  constructor
  · intro h
    obtain ⟨b, blanks, text⟩ := exists_blanks_append s
    split_ifs at h with starts <;> rw [Reading.yields_noting] at h
    · cases read : Literal.value? (Literal.split (Text.dropBlanks s)).1 with
      | none =>
        simp only [read] at h
        exact absurd h Reading.not_yields_error
      | some y =>
        simp only [read] at h
        rw [Reading.yields_noting] at h
        obtain ⟨rfl, rfl, rfl⟩ := Reading.yields_done.1 h
        obtain ⟨n, numeral, rfl⟩ := Literal.value?_eq_some_iff.1 read
        obtain ⟨b', blanks', rest⟩ := exists_blanks_append (Literal.split (Text.dropBlanks s)).2
        have ends : n.EndsBefore (Literal.split (Text.dropBlanks s)).2 := by
          rw [← Literal.split_text_append_iff, numeral, Literal.split_append]
        rw [← rest] at ends
        have coefficient := Coefficient.present n blanks blanks' (Text.stops_dropWhile _) ends
        rw [← Text.dropBlanks, rest, numeral, Literal.split_append, text] at coefficient
        exact ⟨rfl, coefficient⟩
    · obtain ⟨rfl, rfl, rfl⟩ := Reading.yields_done.1 h
      have coefficient :=
        Coefficient.absent blanks (Text.stops_dropWhile s) (Text.not_any_head?_iff.1 starts)
      rw [← Text.dropBlanks, text] at coefficient
      exact ⟨rfl, coefficient⟩
  · rintro ⟨rfl, coefficient⟩
    cases coefficient with
    | absent blanks noBlank noNumeral =>
      simp only [dropBlanks_append blanks noBlank, if_neg (Text.not_any_head?_iff.2 noNumeral),
        Reading.yields_noting]
      exact Reading.yields_done.2 ⟨rfl, rfl, rfl⟩
    | @present b b' r n blanks blanks' noBlank ends =>
      have starts := n.head?_text (r := b' ++ r)
      have skipped := dropBlanks_append blanks (.of_any starts fun _ => isBlank_of_isStart)
      have split := (Literal.split_text_append_iff n).2 ends
      simp only [skipped, if_pos starts, split, Literal.value?_eq_some_iff.2 ⟨n, rfl, rfl⟩,
        Reading.yields_noting]
      exact Reading.yields_done.2 ⟨rfl, rfl, dropBlanks_append blanks' noBlank⟩

/-! ## Factors, terms and expressions -/

/-- The parts that an expression is made of. -/
inductive Part where
  | factor
  /-- Factors and operators; `divided` says whether the last operator is a solidus. -/
  | term (divided : Bool)
  | expression

/-- `Spells o tens part s e r`: the text `s` starts with a part that stands for `e`, and `r` is the
rest of it.  A one has no prefix, but with `tens` it may have `da`. -/
inductive Spells (o : Options) (tens : Bool) :
    Part → List Char → Expression → List Char → Prop where
  | one {r : List Char} : Spells o tens .factor ('1' :: '/' :: r) .one ('/' :: r)
  | ten {r : List Char} (h : tens = true) :
    Spells o tens .factor ('d' :: 'a' :: '1' :: '/' :: r) (.scaled Prefix.deka .one) ('/' :: r)
  | unit {w r : List Char} {e : Expression} (word : Word o.escape w e) (n : Option Whole.Numeral) :
    Spells o tens .factor (w ++ (powerText n ++ r)) (e.raised n) r
  | group {s r : List Char} {e : Expression} (n : Option Whole.Numeral)
    (inner : Spells o tens .expression s e (')' :: (powerText n ++ r))) :
    Spells o tens .factor ('(' :: s) (e.raised n) r
  | missing {s : List Char} (h : o.dimensionless = true) (noGroup : s.head? ≠ some '(')
    (noOne : s.head? ≠ some '1') (noName : startsName o.escape s = false) :
    Spells o tens .factor s .one s
  | first {s r : List Char} {e : Expression} (factor : Spells o tens .factor s e r) :
    Spells o tens (.term false) s e r
  | product {s r r' : List Char} {e f : Expression} {divided : Bool} {c : Char}
    (term : Spells o tens (.term divided) s e (c :: r)) (operator : c = ' ' ∨ c = '.')
    (single : Text.Stops isOperator r) (factor : Spells o tens .factor r f r') :
    Spells o tens (.term false) s (.product e f) r'
  | quotient {s r r' : List Char} {e f : Expression}
    (term : Spells o tens (.term false) s e ('/' :: r))
    (single : Text.Stops isOperator r) (factor : Spells o tens .factor r f r') :
    Spells o tens (.term true) s (.quotient e f) r'
  | expression {s r r' : List Char} {x : Option Float} {e : Expression} {divided : Bool}
    (coefficient : Coefficient s x r) (term : Spells o tens (.term divided) r e r') :
    Spells o tens .expression s (e.scaledBy x) r'

end Metrology.Expression
