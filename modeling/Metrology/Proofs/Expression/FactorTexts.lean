import Metrology.Proofs.Expression.Behind
import Metrology.Proofs.Expression.UnitTexts

/-!
# The texts of factors

How the text of a factor starts and ends, and the factors that have no power (`BareFactor`): each
may get a power behind it (`BareFactor.spells`), and be multiplied with itself
(`BareFactor.spells_repeated`).
-/

namespace Metrology.Expression

variable {o : Options} {tens : Bool} {s f r : List Char} {e : Expression}

/-! ## Factors as whole texts -/

/-- A factor that is a whole text starts with no blank, no operator and no number. -/
theorem stops_of_factor (h : Spells o tens .factor s e []) :
    Text.Stops Text.isBlank s ∧ Text.Stops isOperator s ∧ Text.Stops Literal.isStart s := by
  cases h with
  | unit word n =>
    obtain ⟨c, w, rfl, blank, operator, start⟩ := exists_cons_of_word word
    exact ⟨Text.stops_cons.2 blank, Text.stops_cons.2 operator, Text.stops_cons.2 start⟩
  | group => exact ⟨Text.stops_cons.2 (by decide), Text.stops_cons.2 rfl, Text.stops_cons.2 rfl⟩
  | missing => exact ⟨Text.stops_nil, Text.stops_nil, Text.stops_nil⟩

/-- A factor that is a whole text ends without a blank. -/
theorem stops_reverse_of_factor (h : Spells o tens .factor s e []) :
    Text.Stops Text.isBlank s.reverse := by
  cases h with
  | unit word n =>
    rw [List.append_nil]
    exact Tree.stops_reverse_powerText (stops_reverse_word word) n
  | group n inner =>
    obtain ⟨w, rfl, -⟩ := passes_of_spells inner
    have text : '(' :: (w ++ ')' :: (powerText n ++ [])) = ('(' :: w) ++ [')'] ++ powerText n := by
      simp
    rw [text]
    exact Tree.stops_reverse_powerText
      (Text.stops_reverse_append (Text.stops_cons.2 rfl) (List.cons_ne_nil _ _) _) n
  | missing => exact Text.stops_nil

/-- A factor that is a whole text is an expression, perhaps with blanks around it. -/
theorem spells_factor (h : Spells o tens .factor s e []) :
    Spells o tens .expression (Text.trim s) e [] := by
  obtain ⟨noBlank, -, noNumeral⟩ := stops_of_factor h
  rw [show Text.trim s = s from Text.trimWhere_of_stops noBlank (stops_reverse_of_factor h)]
  exact .expression (.absent (b := []) rfl noBlank noNumeral) (.first h)

/-! ## Factors without a power -/

/-- A factor without a power: a word, or an expression in parentheses. -/
inductive BareFactor (o : Options) : List Char → Expression → Prop where
  | word {w : List Char} {e : Expression} (word : Word o.escape w e) : BareFactor o w e
  | group {s : List Char} {e : Expression} (inner : Spells o true .expression s e []) :
    BareFactor o (enclosed s) e

/-- A factor times itself, `k` times again. -/
def repeated (e : Expression) : Nat → Expression
  | 0 => e
  | k + 1 => .product (repeated e k) e

namespace BareFactor

variable (h : BareFactor o f e)

include h

/-- A factor without a power may get one, whatever comes behind. -/
theorem spells (n : Option Whole.Numeral) (r : List Char) :
    Spells o true .factor (f ++ (powerText n ++ r)) (e.raised n) r := by
  cases h with
  | word word => exact .unit word n
  | @group s _ inner =>
    have text : enclosed s ++ (powerText n ++ r) = '(' :: (s ++ ')' :: (powerText n ++ r)) := by
      simp [enclosed]
    rw [text]
    exact .group n (inner.append (.inl rfl))

theorem spells_alone (r : List Char) : Spells o true .factor (f ++ r) e r := h.spells none r

theorem spells_whole : Spells o true .factor f e [] := by
  have factor := h.spells_alone []
  rwa [List.append_nil] at factor

/-- No operator stands before a factor. -/
theorem stops_isOperator (strict : o.dimensionless = false) (r : List Char) :
    Text.Stops isOperator (f ++ r) :=
  (stops_of_factor h.spells_whole).2.1.append (ne_nil_of_spells strict h.spells_whole) r

/-- Factors with blanks between them are a product. -/
theorem spells_repeated (strict : o.dimensionless = false) (k : Nat) (r : List Char) :
    Spells o true (.term false) ([' '].intercalate (List.replicate (k + 1) f) ++ r)
      (repeated e k) r := by
  rw [List.replicate_succ, intercalate_blank]
  induction k generalizing r with
  | zero =>
    rw [List.replicate_zero, List.flatMap_nil, List.append_nil]
    exact .first (h.spells_alone r)
  | succ k ih =>
    rw [List.replicate_succ', List.flatMap_append, List.flatMap_singleton, ← List.append_assoc,
      List.append_assoc]
    exact .product (ih _) (.inl rfl) (h.stops_isOperator strict r) (h.spells_alone r)

end BareFactor

/-! ## Their units -/

theorem names_repeated (e : Expression) (k : Nat) :
    ∃ later, (repeated e k).names = e.names ++ later ∧ later ⊆ e.names := by
  induction k with
  | zero => exact ⟨[], (List.append_nil _).symm, List.nil_subset _⟩
  | succ k ih =>
    obtain ⟨later, same, known⟩ := ih
    refine ⟨later ++ e.names, ?_, List.append_subset.2 ⟨known, List.Subset.refl _⟩⟩
    rw [repeated, names, same, List.append_assoc]

/-- Repeating a factor comes to a power of its dimension. -/
theorem dimension_repeated (unitOf : String → Quantity) (e : Expression) (k : Nat) :
    ((repeated e k).value unitOf).dimension =
      (e.value unitOf).dimension ^ ((k + 1 : Nat) : Int) := by
  induction k with
  | zero => ext i; simp [repeated]
  | succ k ih =>
    have product : ((repeated e (k + 1)).value unitOf).dimension =
        ((repeated e k).value unitOf).dimension * (e.value unitOf).dimension := rfl
    rw [product, ih]
    ext i
    simp only [Dimension.exponent_mul, Dimension.exponent_pow, Nat.cast_add, Nat.cast_one]
    ring

end Metrology.Expression
