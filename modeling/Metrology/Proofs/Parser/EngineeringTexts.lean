import Metrology.Engineering
import Metrology.Proofs.Number.Finite
import Metrology.Proofs.Parser.SymbolTexts

/-!
# Engineering notation parses back

A quantity in engineering notation, with `u` for micro, is read as the number in front of the unit,
and as the unit behind it with the prefix of the glyph (`Parser.parse_engineering`).  A glyph before
a display name is read as a prefix and nothing else (`exists_glyphText`), and an exponent without a
glyph belongs to the number.
-/

namespace Metrology

open Expression Registry Engineering

variable {o : Options} {d : Dimension} {s : List Char} {c : Char} {x : Float}

/-! ## Glyphs -/

/-- The glyphs of engineering notation, with `u` for micro, that are not empty. -/
def glyphLetters : List Char :=
  ['y', 'z', 'a', 'f', 'p', 'n', 'u', 'm', 'k', 'M', 'G', 'T', 'P', 'E', 'Z', 'Y']

/-- Whether a letter is read as a prefix of a name. -/
def isPrefixOf (c : Char) : List Char → Bool
  | [] => false
  | d :: _ => !isUnprefixedPair c d && !(c = 'd' && d = 'a')

/-- A glyph before the name of a unit is read as a prefix, unless that is the kilogram. -/
theorem isPrefixOf_unitNames : ∀ entry ∈ unitNames, entry.1 ≠ .mass →
    glyphLetters.all (isPrefixOf · entry.2.toList) = true := by
  decide +kernel

/-- The factor of a glyph may be taken out of a quotient of units. -/
theorem factor_over_one : glyphLetters.all (fun c =>
    (Prefix.letterFactor? c).all fun x => x * 1 / 1 = x * (1 / 1)) = true := by
  decide +kernel

theorem glyph_eq_letter : ∀ k : Fin 17, 3 * (k.val : Int) - 24 ≠ 0 → glyphLetters.any (fun c =>
    Prefix.glyph "u" (3 * k.val - 24) = c.toString ∧
      Prefix.letterFactor? c = some (Binary64.ofDecimal false 1 (3 * k.val - 24))) = true := by
  decide +kernel

/-- The glyph of an exponent other than zero is a letter, and the factor of that letter as a prefix
is the power of ten. -/
theorem exists_glyph {n : Int} (least : -24 ≤ n) (greatest : n ≤ 24) (aligned : n % 3 = 0)
    (nonzero : n ≠ 0) : ∃ c ∈ glyphLetters, Prefix.glyph "u" n = c.toString ∧
      Prefix.letterFactor? c = some (Binary64.ofDecimal false 1 n) := by
  have inside : ((n + 24) / 3).toNat < 17 := by omega
  have place : 3 * (((n + 24) / 3).toNat : Int) - 24 = n := by omega
  have letter := glyph_eq_letter ⟨_, inside⟩
  dsimp only at letter
  rw [place] at letter
  obtain ⟨c, member, eqs⟩ := List.any_eq_true.1 (letter nonzero)
  exact ⟨c, member, of_decide_eq_true eqs⟩

theorem word_glyph {name : String} (entry : (d, name) ∈ unitNames) (light : d ≠ .mass)
    (glyph : c ∈ glyphLetters) (factor : Prefix.letterFactor? c = some x) :
    Word o.escape (c :: name.toList) (.scaled x (.unit name)) := by
  have before := List.all_eq_true.1 (isPrefixOf_unitNames _ entry light) c glyph
  obtain ⟨c', n, text, isName, -⟩ := (isUnitName_of_mem _ entry).plain
  dsimp only at before text
  rw [text, isPrefixOf, Bool.and_eq_true, Bool.not_eq_true', Bool.not_eq_true'] at before
  have word : Word o.escape (c :: c' :: n) _ :=
    .letter factor isName before.1 (by simpa using before.2)
  rwa [← text, String.ofList_toList] at word

/-- The display name of a dimension is a unit text, and a glyph before it scales the unit. -/
theorem exists_glyphText (o : Options) (h : DisplayName d s) (light : d ≠ .mass) :
    ∃ divided e, SymbolText o d divided s e ∧
      ∀ c ∈ glyphLetters, ∀ x, Prefix.letterFactor? c = some x →
        ∃ e', UnitText o divided (c :: s) e' ∧ e'.names = e.names ∧
        e'.value ({} : Registry).quantity = (e.value ({} : Registry).quantity).scale x := by
  cases h with
  | @unit d name entry =>
    refine ⟨_, _, symbolText_unit (isUnitName_of_mem _ entry), fun c glyph x factor => ?_⟩
    exact ⟨_, .word (word_glyph entry light glyph factor), rfl, rfl⟩
  | @quotient d d' name name' entry entry' light' =>
    have unit := isUnitName_of_mem _ entry
    have unit' := isUnitName_of_mem _ entry'
    refine ⟨_, _, symbolText_quotient unit unit', fun c glyph x factor => ?_⟩
    refine ⟨_, .over_word (word_glyph entry light' glyph factor) unit'.word, rfl, ?_⟩
    have taken := List.all_eq_true.1 factor_over_one c glyph
    rw [factor, Option.all_some, decide_eq_true_eq] at taken
    simp only [Expression.value, unit.quantity, unit'.quantity]
    exact congrArg (Quantity.mk _) taken

/-! ## Exponents -/

theorem alignedExponent_emod (n : Int) : alignedExponent n % 3 = 0 := by
  unfold alignedExponent
  omega

/-- The exponent of engineering notation is a multiple of three. -/
theorem exponent_ofFloat_emod (digits : Nat) (x : Float) :
    (Scaled.ofFloat digits x).exponent % 3 = 0 := by
  unfold Scaled.ofFloat
  dsimp only
  split_ifs
  all_goals dsimp only
  all_goals first
    | exact alignedExponent_emod _
    | rw [Int.add_emod_right]; exact alignedExponent_emod _

/-- The text of an exponent: the mark and the whole number. -/
theorem text_written (n : Int) :
    Literal.Exponent.text (some (.written n)) = 'e' :: (toString n).toList := by
  unfold Literal.Exponent.text Literal.Exponent.written
  dsimp only
  split_ifs with negative
  · rw [toString_of_neg negative, String.toList_append, Nat.toString_eq_repr, Nat.toList_repr]
    rfl
  · rw [toString_of_nonneg (Int.not_lt.1 negative), Nat.toString_eq_repr, Nat.toList_repr]
    rfl

/-! ## Texts of quantities -/

/-- The magnitude of a quantity without its sign, as a format rounds it. -/
def scaledOf (f : Format) (q : Quantity) : Scaled :=
  Scaled.ofFloat f.digits (if q.value < 0 then -q.value else q.value)

/-- A text is a decimal number without an exponent. -/
def IsPlainNumeral (text : String) : Prop :=
  ∃ n : Literal.Numeral, n.text = text.toList ∧ n.exponent = none

variable {f : Format} {q : Quantity} {r : Registry} {symbol m : String}

/-- The parts of a finite quantity, where its symbol and its mantissa can be written. -/
theorem parts_eq (finite : q.value.isFinite = true) (printed : q.symbol r = .ok symbol)
    (mantissa : f.mantissaText (scaledOf f q) = .ok m) :
    f.parts q r = .ok (if Format.takesGlyph r q.dimension (scaledOf f q).exponent
      then ⟨f.sign q.value ++ m, Prefix.glyph f.micro (scaledOf f q).exponent ++ symbol⟩
      else ⟨f.sign q.value ++ m ++ "e" ++ toString (scaledOf f q).exponent, symbol⟩) := by
  have finite' : (if q.value < 0 then -q.value else q.value).isFinite = true := by
    split_ifs
    · rw [Binary64.isFinite_neg, finite]
    · exact finite
  unfold scaledOf at mantissa ⊢
  unfold Format.parts
  rw [printed]
  simp only [bind, Except.bind, pure, Except.pure, finite', if_true, mantissa]
  split_ifs <;> rfl

theorem text_parts (parts : Parts) : parts.text.toList =
    parts.magnitude.toList ++ (if parts.unit = "" then [] else ' ' :: parts.unit.toList) := by
  unfold Parts.text joinSymbol
  by_cases empty : parts.unit = ""
  · rw [if_pos empty, empty, List.append_nil]
    rfl
  · rw [if_neg empty, if_neg (by simpa using empty)]
    simp [toString]

/-- The unit that is read behind a number in engineering notation: `u` is the unit of the symbol and
`n` the exponent that the glyph stands for. -/
inductive UnitRead (symbol : String) (u : Quantity) (n : Int) : String → Quantity → Prop where
  | bare : UnitRead symbol u n symbol u
  | glyph {c : Char} {x : Float} (factor : Prefix.letterFactor? c = some x)
    (power : x = Binary64.ofDecimal false 1 n) :
    UnitRead symbol u n (c.toString ++ symbol) (u.scale x)

/-- The number of a magnitude, with the exponent that is removed unless a glyph stands for it. -/
theorem exists_numeral (glyph : Bool) {text : String} (plain : IsPlainNumeral text) (n : Int) :
    ∃ numeral : Literal.Numeral,
      numeral.text = (if glyph then text else text ++ "e" ++ toString n).toList := by
  obtain ⟨numeral, same, bare⟩ := plain
  cases glyph with
  | true => exact ⟨numeral, same⟩
  | false =>
    refine ⟨{ numeral with exponent := some (.written n) }, ?_⟩
    rw [if_neg Bool.false_ne_true, String.toList_append, String.toList_append, ← same]
    unfold Literal.Numeral.text
    rw [bare, text_written]
    simp [Literal.Numeral.mantissa, Literal.Exponent.text]

/-- What is read from the parts of a quantity of dimension `d` that is shown with the exponent `n`:
the number of the magnitude, and the unit that the symbol is read as, times the factor of a
glyph. -/
def ReadsBack (o : Options) (d : Dimension) (n : Int) (symbol : String) (parts : Parts) : Prop :=
  ∃ x u v, Literal.value? parts.magnitude.toList = some x ∧
    (Parser.fresh o).ReadsAs symbol 1 u ∧ u.dimension = d ∧
    (Parser.fresh o).ReadsAs parts.text x v ∧ v.dimension = d ∧
    UnitRead symbol u n parts.unit v

section

variable {divided : Bool} {e : Expression} {parts : Parts} {numeral : Literal.Numeral} {n : Int}

theorem value?_of_text (text : numeral.text = parts.magnitude.toList) :
    Literal.value? parts.magnitude.toList = some numeral.value :=
  Literal.value?_eq_some_iff.2 ⟨numeral, text, rfl⟩

/-- A numeral with a unit text behind it is read as a coefficient and a unit part. -/
theorem readsAs_parts (text : numeral.text = parts.magnitude.toList)
    (h : UnitText o divided parts.unit.toList e) (known : (Parser.fresh o).Knows e) :
    (Parser.fresh o).ReadsAs parts.text numeral.value (e.value ({} : Registry).quantity) := by
  have nonempty : parts.unit ≠ "" := fun empty => h.ne_nil (empty ▸ rfl)
  have reads := Parser.readsAs_numeral_unitText (p := .fresh o) numeral h known
  have whole := text_parts parts
  rw [if_neg nonempty, ← text] at whole
  rwa [← whole, String.ofList_toList] at reads

/-- Where plain numbers are accepted, a numeral without a unit is read as a number. -/
theorem readsBack_one (text : numeral.text = parts.magnitude.toList) (empty : parts.unit = "")
    (plainNumbers : o.dimensionless = true) : ReadsBack o 1 n "" parts := by
  have reads := Parser.readsAs_numeral (p := .fresh o) numeral plainNumbers
  have whole := text_parts parts
  rw [if_pos empty, List.append_nil, ← text] at whole
  rw [← whole, String.ofList_toList] at reads
  exact ⟨_, _, _, value?_of_text text, Parser.readsAs_empty plainNumbers, rfl, reads, rfl,
    empty ▸ .bare⟩

theorem readsBack_bare (text : numeral.text = parts.magnitude.toList)
    (h : SymbolText o d divided parts.unit.toList e) : ReadsBack o d n parts.unit parts :=
  ⟨_, _, _, value?_of_text text, h.readsAs, h.dimension, readsAs_parts text h.isUnitText h.known,
    h.dimension, .bare⟩

/-- A glyph before a display name is read as the power of ten that it stands for. -/
theorem readsBack_glyph (text : numeral.text = parts.magnitude.toList)
    (named : DisplayName d symbol.toList) (light : d ≠ .mass) (glyph : c ∈ glyphLetters)
    (factor : Prefix.letterFactor? c = some (Binary64.ofDecimal false 1 n))
    (unit : parts.unit = c.toString ++ symbol) : ReadsBack o d n symbol parts := by
  obtain ⟨divided, e, unitText, scaled⟩ := exists_glyphText o named light
  obtain ⟨e', unitText', names, value⟩ := scaled c glyph _ factor
  have known : (Parser.fresh o).Knows e' := by
    unfold Parser.Knows
    rw [names]
    exact unitText.known
  have unitText' : UnitText o divided parts.unit.toList e' := by
    rwa [unit, String.toList_append, Char.toString, String.toList_singleton]
  have reads := readsAs_parts text unitText' known
  rw [value] at reads
  exact ⟨_, _, _, value?_of_text text, unitText.readsAs, unitText.dimension, reads,
    unitText.dimension, unit ▸ .glyph factor rfl⟩

end

/-- What it takes for an exponent to be shown as a glyph. -/
theorem exists_of_takesGlyph {n : Int} (h : Format.takesGlyph r d n = true) :
    d ≠ .mass ∧ (∃ name, r.name? d = some name) ∧ -24 ≤ n ∧ n ≤ 24 := by
  rw [Format.takesGlyph, Bool.and_eq_true, Bool.and_eq_true, Bool.and_eq_true, decide_eq_true_eq,
    decide_eq_true_eq, decide_eq_true_eq, hasName, Option.isSome_iff_exists] at h
  obtain ⟨⟨⟨light, named⟩, least⟩, greatest⟩ := h
  exact ⟨light, named, least, greatest⟩

/-- Without a unit there is no glyph. -/
theorem takesGlyph_one (n : Int) : Format.takesGlyph {} 1 n = false := by
  have unnamed : ({} : Registry).hasName 1 = false := by decide +kernel
  rw [Format.takesGlyph, unnamed, Bool.and_false]
  rfl

theorem symbol_one : ({} : Registry).symbol 1 true = .ok "" := by decide +kernel

/-- The text of a finite quantity without extension units in engineering notation, with `u` for
micro, is read back if its mantissa is a plain numeral, and plain numbers are accepted where the
quantity is one: the number is the one that the magnitude is written as, and the unit is the one
that the symbol is read as, times the power of ten that a glyph stands for. -/
theorem Parser.parse_engineering (o : Options) (f : Format) (q : Quantity) (m : String)
    (micro : f.micro = "u") (finite : q.value.isFinite = true) (base : q.dimension.IsBase)
    (writable : q.dimension.isWritable = true)
    (plainNumbers : q.dimension = 1 → o.dimensionless = true)
    (mantissa : f.mantissaText (scaledOf f q) = .ok m)
    (plain : IsPlainNumeral (f.sign q.value ++ m)) :
    ∃ parts symbol, f.parts q {} = .ok parts ∧ q.symbol {} = .ok symbol ∧
      ReadsBack o q.dimension (scaledOf f q).exponent symbol parts := by
  obtain ⟨numeral, text⟩ := exists_numeral
    (Format.takesGlyph {} q.dimension (scaledOf f q).exponent) plain (scaledOf f q).exponent
  by_cases one : q.dimension = 1
  · have printed : q.symbol {} = .ok "" := by rw [Quantity.symbol, one, symbol_one]
    have parts := parts_eq finite printed mantissa
    rw [one, takesGlyph_one, if_neg Bool.false_ne_true] at parts text
    rw [one]
    exact ⟨_, _, parts, printed, readsBack_one text rfl (plainNumbers one)⟩
  by_cases glyph : Format.takesGlyph {} q.dimension (scaledOf f q).exponent = true
  · obtain ⟨light, ⟨name, named⟩, least, greatest⟩ := exists_of_takesGlyph glyph
    have display := displayName_of_name? named base
    have printed : q.symbol {} = .ok name := symbol_of_name named
    have parts := parts_eq finite printed mantissa
    rw [if_pos glyph, micro] at parts
    rw [if_pos glyph] at text
    by_cases zero : (scaledOf f q).exponent = 0
    · have empty : Prefix.glyph "u" 0 = "" := rfl
      rw [zero, empty, String.empty_append] at parts
      obtain ⟨divided, e, unitText⟩ := exists_symbolText_name o display
      exact ⟨_, _, parts, printed, readsBack_bare text unitText⟩
    · obtain ⟨c, member, letter, factor⟩ :=
        exists_glyph least greatest (exponent_ofFloat_emod _ _) zero
      rw [letter] at parts
      exact ⟨_, _, parts, printed, readsBack_glyph text display light member factor rfl⟩
  · obtain ⟨symbol, divided, e, printed, unitText⟩ := exists_symbolText o true one base writable
    have parts := parts_eq finite printed mantissa
    rw [if_neg glyph] at parts text
    exact ⟨_, _, parts, printed, readsBack_bare text unitText⟩

/-! ## An example -/

theorem scaleUp_eq {n : Nat} (h : n ≤ stepExponent) : scaleUp x n = x * powerOfTen n := by
  rw [scaleUp, if_pos h]

theorem scaleDown_eq {n : Nat} (h : n ≤ stepExponent) : scaleDown x n = x / powerOfTen n := by
  rw [scaleDown, if_pos h]

theorem round_4700 : Engineering.round 6 4700 = (4700, 3) := by
  have e : exponent 4700 = 3 := by decide +kernel
  have up : shift 4700 2 = 470000 := (scaleUp_eq (by decide)).trans (by decide +kernel)
  have whole : Binary64.roundHalfUp 470000 = 470000 := by decide +kernel
  have down : shift 470000 (-2) = 4700 := (scaleDown_eq (by decide)).trans (by decide +kernel)
  unfold Engineering.round
  dsimp only
  rw [e]
  refine Prod.ext ?_ rfl
  calc shift (Binary64.roundHalfUp (shift 4700 2)) (-2)
      = shift (Binary64.roundHalfUp 470000) (-2) := by rw [up]
    _ = shift 470000 (-2) := by rw [whole]
    _ = 4700 := down

theorem scaledOf_4700 : scaledOf { micro := "u" } ⟨.length, 4700⟩ = ⟨4.7, 3⟩ := by
  have positive : ¬(4700 : Float) < 0 := by decide +kernel
  have positive' : (0 : Float) < 4700 := by decide +kernel
  have down : shift 4700 (-3) = 4.7 := (scaleDown_eq (by decide)).trans (by decide +kernel)
  have small : ¬(1000 : Float) ≤ 4.7 := by decide +kernel
  have aligned : alignedExponent 3 = 3 := rfl
  unfold scaledOf Scaled.ofFloat
  dsimp only
  rw [if_neg positive, if_pos positive', round_4700]
  dsimp only
  rw [aligned, down, if_neg small]

/-- The 4700 meters that are shown as `4.7 km` are read as 4.7 times one thousand meters. -/
theorem Parser.parse_engineering_km :
    Format.parts { micro := "u" } ⟨.length, 4700⟩ {} = .ok ⟨"4.7", "km"⟩ ∧
      ReadsBack default .length 3 "m" ⟨"4.7", "km"⟩ := by
  have mantissa : Format.mantissaText { micro := "u" } (scaledOf { micro := "u" } ⟨.length, 4700⟩) =
      .ok "4.7" := by
    rw [scaledOf_4700]
    decide +kernel
  have plain : IsPlainNumeral (Format.sign { micro := "u" } 4700 ++ "4.7") :=
    ⟨⟨none, ['4'], some ['7'], none, rfl, rfl, by decide⟩, by decide +kernel, rfl⟩
  obtain ⟨parts, symbol, printed, named, read⟩ := Parser.parse_engineering default { micro := "u" }
    ⟨.length, 4700⟩ "4.7" rfl (by decide +kernel) (by decide +kernel) (by decide +kernel)
    (by decide +kernel) mantissa plain
  have meter : Quantity.symbol ⟨.length, 4700⟩ {} = .ok "m" := by decide +kernel
  have parts_eq := parts_eq (by decide +kernel) meter mantissa
  rw [scaledOf_4700] at parts_eq read
  have km : Format.parts { micro := "u" } ⟨.length, 4700⟩ {} = .ok ⟨"4.7", "km"⟩ :=
    parts_eq.trans (by decide +kernel)
  cases printed.symm.trans km
  cases named.symm.trans meter
  exact ⟨km, read⟩

end Metrology
