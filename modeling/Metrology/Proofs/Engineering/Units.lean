import Metrology.Proofs.Engineering.Signs
import Metrology.Proofs.Parser.EngineeringTexts

/-!
# Units in engineering notation

The glyph before a unit stands for a power of ten that depends on the digits that are asked for: the
rounding to them may carry into the next multiple of three (`exponent_ofFloat`).  The text of a
quantity is its magnitude and its unit, and the unit is rounded for six digits, so the two belong
together if six digits carry where the digits of the magnitude do, or if there is no glyph
(`Quantity.engineeringText_eq_iff`).  Otherwise they denote another number
(`Quantity.engineeringText_volt`).
-/

namespace Metrology

open Engineering

variable {f : Format} {q : Quantity} {r : Registry} {d : Dimension} {symbol : String} {x : Float}
  {n : Int}

/-! ## Carries -/

namespace Engineering

/-- The exponent before a carry. -/
def baseExponent (x : Float) : Int := alignedExponent (if 0 < x then exponent x else 0)

/-- Rounding to so many digits carries into the next multiple of three. -/
def Carries (digits : Nat) (x : Float) : Prop :=
  (Scaled.ofFloat digits x).exponent = baseExponent x + 3

/-- The exponent is the one before a carry, or the next multiple of three if there is a carry. -/
theorem exponent_ofFloat (digits : Nat) (x : Float) :
    (Scaled.ofFloat digits x).exponent = baseExponent x ∧ ¬ Carries digits x ∨
      (Scaled.ofFloat digits x).exponent = baseExponent x + 3 ∧ Carries digits x := by
  have either : (Scaled.ofFloat digits x).exponent = baseExponent x ∨
      (Scaled.ofFloat digits x).exponent = baseExponent x + 3 := by
    unfold Scaled.ofFloat baseExponent
    by_cases positive : 0 < x
    · rw [if_pos positive, if_pos positive]
      unfold Engineering.round
      dsimp only
      split_ifs
      · exact .inr rfl
      · exact .inl rfl
    · rw [if_neg positive, if_neg positive]
      dsimp only
      split_ifs
      · exact .inr rfl
      · exact .inl rfl
  unfold Carries
  omega

/-! ## Glyphs -/

/-- What an exponent puts before the unit of a dimension. -/
def glyphBefore (r : Registry) (d : Dimension) (exponent : Int) : String :=
  if Format.takesGlyph r d exponent then Prefix.glyph "µ" exponent else ""

theorem glyphs_differ : ∀ k : Fin 18,
    (if 0 < k.val then Prefix.glyph "µ" (3 * k.val - 27) else "") ≠
      if k.val < 17 then Prefix.glyph "µ" (3 * k.val - 24) else "" := by
  decide +kernel

/-- Whether a unit takes a glyph is a matter of the dimension, and of the exponents that have one. -/
theorem takesGlyph_eq (r : Registry) (d : Dimension) (n : Int) : Format.takesGlyph r d n =
    (Format.takesGlyph r d 0 && decide (-24 ≤ n ∧ n ≤ 24)) := by
  unfold Format.takesGlyph Prefix.leastGlyphExponent Prefix.greatestGlyphExponent
  rw [Bool.decide_and]
  simp [Bool.and_assoc]

/-- The next multiple of three puts the same before a unit only if there is no glyph at all. -/
theorem glyphBefore_eq_next_iff (aligned : n % 3 = 0) :
    glyphBefore r d n = glyphBefore r d (n + 3) ↔
      Format.takesGlyph r d n = false ∧ Format.takesGlyph r d (n + 3) = false := by
  refine ⟨fun same => ?_, fun ⟨bare, bare'⟩ => by simp [glyphBefore, bare, bare']⟩
  unfold glyphBefore at same
  rw [takesGlyph_eq r d n, takesGlyph_eq r d (n + 3)] at same ⊢
  cases named : Format.takesGlyph r d 0 with
  | false => exact ⟨rfl, rfl⟩
  | true =>
    rw [named] at same
    simp only [Bool.true_and, decide_eq_true_eq, decide_eq_false_iff_not] at same ⊢
    by_contra glyph
    have inside : ((n + 27) / 3).toNat < 18 := by omega
    refine glyphs_differ ⟨_, inside⟩ ?_
    have place : 3 * (((n + 27) / 3).toNat : Int) - 27 = n := by omega
    have place' : 3 * (((n + 27) / 3).toNat : Int) - 24 = n + 3 := by omega
    have first : 0 < ((n + 27) / 3).toNat ↔ -24 ≤ n ∧ n ≤ 24 := by omega
    have second : ((n + 27) / 3).toNat < 17 ↔ -24 ≤ n + 3 ∧ n + 3 ≤ 24 := by omega
    dsimp only
    rw [place, place', if_congr first rfl rfl, if_congr second rfl rfl]
    exact same

end Engineering

/-! ## Units -/

theorem joinSymbol_injective {m u u' : String} (h : joinSymbol m u = joinSymbol m u') : u = u' := by
  have texts (m u : String) : (joinSymbol m u).toList =
      m.toList ++ (if u = "" then [] else ' ' :: u.toList) := text_parts ⟨m, u⟩
  have lists := (texts m u).symm.trans ((congrArg String.toList h).trans (texts m u'))
  have units := List.append_cancel_left lists
  split_ifs at units with empty empty' empty'
  · rw [empty, empty']
  · exact String.toList_injective (List.cons.inj units).2

namespace Engineering

namespace Format

/-- The format of the functions that are asked for digits and a plus sign. -/
def standard (f : Format) : Format :=
  { digits := f.digits, showsPlus := f.showsPlus, digits_pos := f.digits_pos }

/-- What stands before the symbol in the unit of a quantity. -/
def glyphOf (f : Format) (q : Quantity) (r : Registry) : String :=
  if q.value.isFinite then
    glyphBefore r q.dimension (Scaled.ofFloat f.digits (absolute q.value)).exponent
  else ""

theorem unit_finiteParts (f : Format) (r : Registry) (d : Dimension) (symbol : String)
    (exponent : Int) (mantissa : String) : (f.finiteParts r d symbol exponent mantissa).unit =
      (if takesGlyph r d exponent then Prefix.glyph f.micro exponent else "") ++ symbol := by
  unfold finiteParts
  split_ifs
  · rfl
  · exact String.empty_append.symm

theorem unit_parts {p : Parts} (named : q.symbol r = .ok symbol)
    (printed : f.standard.parts q r = .ok p) : p.unit = f.glyphOf q r ++ symbol := by
  obtain ⟨symbol', b, named', behind, rfl⟩ := exists_body_of_parts printed
  cases named.symm.trans named'
  unfold glyphOf Parts.signed
  rw [← isFinite_absolute]
  obtain ⟨finite, m, -, rfl⟩ | ⟨infinite, rfl⟩ := body_cases behind
  · rw [if_pos finite]
    exact unit_finiteParts ..
  · rw [infinite, if_neg Bool.false_ne_true]
    exact String.empty_append.symm

/-- The glyphs for two numbers of digits are the same if both carry or none does, or if there are no
glyphs. -/
theorem glyphOf_eq_iff (f g : Format) (q : Quantity) (r : Registry) :
    f.glyphOf q r = g.glyphOf q r ↔ (q.value.isFinite = true →
      (takesGlyph r q.dimension (baseExponent (absolute q.value)) = true ∨
        takesGlyph r q.dimension (baseExponent (absolute q.value) + 3) = true) →
      (Carries f.digits (absolute q.value) ↔ Carries g.digits (absolute q.value))) := by
  unfold glyphOf
  split_ifs with finite
  · generalize absolute q.value = x
    have next := glyphBefore_eq_next_iff (r := r) (d := q.dimension) (n := baseExponent x)
      (alignedExponent_emod _)
    have bare : glyphBefore r q.dimension (baseExponent x) =
        glyphBefore r q.dimension (baseExponent x + 3) ↔
        ¬ (takesGlyph r q.dimension (baseExponent x) = true ∨
          takesGlyph r q.dimension (baseExponent x + 3) = true) := by
      rw [next, not_or, Bool.not_eq_true, Bool.not_eq_true]
    rcases exponent_ofFloat f.digits x with ⟨e, carry⟩ | ⟨e, carry⟩ <;>
      rcases exponent_ofFloat g.digits x with ⟨e', carry'⟩ | ⟨e', carry'⟩ <;>
      rw [e, e']
    · simp [carry, carry']
    · simp [carry, carry', finite, bare]
    · rw [eq_comm, bare]
      simp [carry, carry', finite]
    · simp [carry, carry']
  · simp [finite]

end Format

end Engineering

/-- The text of a quantity is its magnitude joined with its unit, which is found for six digits, if
and only if these carry where the digits of the magnitude do, or there is no glyph.  Where a quantity
cannot be written for its symbol or its digits, both ways fail alike. -/
theorem Quantity.engineeringText_eq_iff (f : Format) (q : Quantity) (r : Registry) :
    q.engineeringText r f.standard = (do
      let magnitude ← q.engineeringMagnitude r f.standard
      let unit ← q.engineeringUnit r
      return joinSymbol magnitude unit) ↔
    ∀ p, f.standard.parts q r = .ok p → q.value.isFinite = true →
      (Format.takesGlyph r q.dimension (baseExponent (absolute q.value)) = true ∨
        Format.takesGlyph r q.dimension (baseExponent (absolute q.value) + 3) = true) →
      (Carries f.digits (absolute q.value) ↔ Carries 6 (absolute q.value)) := by
  unfold engineeringText engineeringMagnitude engineeringUnit Format.text
  cases printed : f.standard.parts q r with
  | error fault => simp [Except.map, bind, Except.bind]
  | ok p =>
    -- If there are parts, there is a symbol, and the parts for six digits have it too.
    obtain ⟨symbol, -, named, -, -⟩ := Format.exists_body_of_parts printed
    obtain ⟨p', printed'⟩ : ∃ p', Format.parts {} q r = .ok p' := by
      obtain ⟨b, body⟩ := Format.exists_body (f := {}) (by decide) r q.dimension symbol
        (absolute q.value)
      rw [Format.parts_eq_body, named, Except.bind, body]
      exact ⟨_, rfl⟩
    rw [printed']
    have unit := Format.unit_parts named printed
    have unit' : p'.unit = Format.glyphOf {} q r ++ symbol :=
      Format.unit_parts (f := {}) named printed'
    have same : p.text = joinSymbol p.magnitude p'.unit ↔
        f.glyphOf q r = Format.glyphOf {} q r := by
      refine ⟨fun texts => ?_, fun glyphs => ?_⟩
      · have units : p.unit = p'.unit := joinSymbol_injective texts
        rw [unit, unit'] at units
        exact (String.append_left_inj symbol).1 units
      · rw [Parts.text, unit, unit', glyphs]
    have agree := same.trans (Format.glyphOf_eq_iff f {} q r)
    refine ⟨fun texts p' printed' => ?_, fun carries => ?_⟩
    · exact agree.1 (Except.ok.inj texts)
    · exact congrArg Except.ok (agree.2 (carries p rfl))

/-- A voltage just below one kilovolt is rounded to it for six digits, but not for eight: the unit is
the kilovolt, and the magnitude is not in kilovolts. -/
theorem Quantity.engineeringText_volt :
    Quantity.engineeringText ⟨.electricPotential, 999.9996⟩ {} { digits := 8 } = .ok "999.9996 V" ∧
    Quantity.engineeringMagnitude ⟨.electricPotential, 999.9996⟩ {} { digits := 8 } =
      .ok "999.9996" ∧
    Quantity.engineeringUnit ⟨.electricPotential, 999.9996⟩ {} = .ok "kV" := by
  decide +kernel

end Metrology
