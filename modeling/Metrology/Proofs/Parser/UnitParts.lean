import Metrology.Proofs.Expression.UnitTexts
import Metrology.Proofs.Parser.Acceptance

/-!
# Coefficients and unit parts

A parse whose units are all known keeps the registry and splits the quantity into the coefficient in
front and the unit part behind it (`Parser.ReadsAs`).  This is how numerals, unit texts and numerals
with unit texts behind them are read (`readsAs_numeral`, `readsAs_unitText`,
`readsAs_numeral_unitText`).
-/

namespace Metrology

open Expression

/-- Requests for units that are known change nothing. -/
theorem Registry.requests_of_known {r : Registry} {extend : Bool} {names : List String}
    (h : ∀ name ∈ names, ∃ q, r.find? name = some q) : r.requests extend names = (none, r) := by
  induction names with
  | nil => rfl
  | cons name names ih =>
    obtain ⟨⟨q, known⟩, rest⟩ := List.forall_mem_cons.1 h
    rw [requests, unit_of_find? known]
    exact ih rest

namespace Parser

/-- A text is parsed, without a change of the registry, as a coefficient times a unit part. -/
structure ReadsAs (p : Parser) (source : String) (x : Float) (u : Quantity) : Prop where
  result : (p.parse source).result = .ok (u.scale x)
  numericalValue : (p.parse source).parser.state.numericalValue = x
  unitPart : ∃ e, (read p.options (Text.trim source.toList)).result = .ok e ∧
    e.value p.registry.quantity = u
  registry : (p.parse source).parser.registry = p.registry

variable {o : Options} {p : Parser} {source : String} {text s t : List Char} {x : Option Float}
  {e : Expression} {divided tens : Bool}

theorem numericalValue_parseText (p : Parser) (source : String) (text : List Char) :
    (p.parseText source text).parser.state.numericalValue =
      (read p.options text).coefficient.getD 1 := by
  unfold parseText
  dsimp only
  split <;> rfl

/-- Every unit of the expression is known. -/
def Knows (p : Parser) (e : Expression) : Prop :=
  ∀ name ∈ e.names, ∃ q, p.registry.find? name = some q

/-- A coefficient and a term of known units are read as these. -/
theorem readsAs_of_spells (coefficient : Coefficient (Text.trim source.toList) x t)
    (term : Spells p.options tens (.term divided) t e []) (known : p.Knows e) :
    p.ReadsAs source (x.getD 1) (e.value p.registry.quantity) := by
  have zero := zero_notMem_of_spells (.expression coefficient term)
  obtain ⟨scanned, names, result⟩ := read_of_spells coefficient term
  have taken := p.taken_eq source (Text.trim source.toList)
  rw [names, Registry.requests_of_known known, Prod.mk.injEq, Option.map_eq_none_iff] at taken
  obtain ⟨ok, registry, -⟩ := parseText_of_ok taken.1 result
  refine ⟨?_, ?_, ⟨e, result, rfl⟩, ?_⟩ <;> rw [parse_of_zero_notMem zero]
  · rw [ok, valued, taken.2, scanned]
  · rw [numericalValue_parseText, scanned]
  · rw [registry, taken.2]

/-! ## Texts in parts -/

theorem isBlank_of_isDigit {c : Char} (h : c.isDigit = true) : Text.isBlank c = false :=
  isBlank_of_isStart (by rw [Literal.isStart, h, Bool.true_or, Bool.true_or])

theorem trim_ofList (h : Text.Stops Text.isBlank s) (h' : Text.Stops Text.isBlank s.reverse) :
    Text.trim (String.ofList s).toList = s := by
  rw [String.toList_ofList]
  exact Text.trimWhere_of_stops h h'

/-- The characters of a numeral are no blanks. -/
theorem isBlank_of_mem_numeral {n : Literal.Numeral} {c : Char} (member : c ∈ n.text) :
    Text.isBlank c = false := by
  have of_sign {sign : Option Literal.Sign} (member : c ∈ Literal.Sign.text sign) :
      Text.isBlank c = false := by
    have signed := List.all_eq_true.1 Literal.Sign.all_text c member
    exact isBlank_of_isStart (by rw [Literal.isStart, signed, Bool.or_true, Bool.true_or])
  rw [Literal.Numeral.text, List.mem_append, List.mem_append] at member
  rcases member with member | member | member
  · exact of_sign member
  · rcases Bool.or_eq_true_iff.1 (n.all_mantissa c member) with digit | point
    · exact isBlank_of_isDigit digit
    · exact of_decide_eq_true point ▸ rfl
  · cases exponent : n.exponent with
    | none => rw [exponent] at member; cases member
    | some e =>
      rw [exponent, Literal.Exponent.text, List.mem_cons, List.mem_append] at member
      rcases member with rfl | member | member
      · have marked := e.isExponentMark_mark
        rw [Literal.isExponentMark, Bool.or_eq_true, decide_eq_true_eq, decide_eq_true_eq] at marked
        rcases marked with mark | mark <;> rw [mark] <;> rfl
      · exact of_sign member
      · exact isBlank_of_isDigit (List.all_eq_true.1 e.all_isDigit c member)

theorem stops_reverse_numeral (n : Literal.Numeral) : Text.Stops Text.isBlank n.text.reverse :=
  Text.stops_of_all fun _ member => isBlank_of_mem_numeral (List.mem_reverse.1 member)

theorem spells_of_unitText (h : UnitText o divided s e) :
    Spells o true (.term divided) s e [] := by
  have term := h.spells []
  rwa [List.append_nil] at term

theorem coefficient_of_unitText (h : UnitText o divided s e) :
    Coefficient (Text.trim (String.ofList s).toList) none s := by
  rw [String.toList_ofList, h.trim_eq]
  exact h.coefficient

/-- A unit text is read as a unit part. -/
theorem readsAs_unitText (h : UnitText p.options divided s e) (known : p.Knows e) :
    p.ReadsAs (String.ofList s) 1 (e.value p.registry.quantity) :=
  readsAs_of_spells (coefficient_of_unitText h) (spells_of_unitText h) known

/-- A numeral and a blank in front of a text are its coefficient. -/
theorem coefficient_numeral (n : Literal.Numeral) (noBlank : Text.Stops Text.isBlank s) :
    Coefficient (n.text ++ ' ' :: s) (some n.value) s := by
  have ends : n.EndsBefore ([' '] ++ s) := n.endsBefore_cons rfl rfl
  exact .present (b := []) n rfl rfl noBlank ends

theorem trim_numeral_append (n : Literal.Numeral) (ne : s ≠ [])
    (last : Text.Stops Text.isBlank s.reverse) :
    Text.trim (String.ofList (n.text ++ ' ' :: s)).toList = n.text ++ ' ' :: s := by
  refine trim_ofList (.of_any n.head?_text fun _ => isBlank_of_isStart) ?_
  rw [List.append_cons]
  exact Text.stops_reverse_append last ne _

/-- A numeral, a blank and a unit text are read as a coefficient and a unit part. -/
theorem readsAs_numeral_unitText (n : Literal.Numeral) (h : UnitText p.options divided s e)
    (known : p.Knows e) :
    p.ReadsAs (String.ofList (n.text ++ ' ' :: s)) n.value (e.value p.registry.quantity) := by
  have coefficient :
      Coefficient (Text.trim (String.ofList (n.text ++ ' ' :: s)).toList) (some n.value) s := by
    rw [trim_numeral_append n h.ne_nil h.ends]
    exact coefficient_numeral n h.noBlank
  exact readsAs_of_spells coefficient (spells_of_unitText h) known

/-- Where plain numbers are accepted, a numeral alone is read as a coefficient of the unit one. -/
theorem readsAs_numeral (n : Literal.Numeral) (h : p.options.dimensionless = true) :
    p.ReadsAs (String.ofList n.text) n.value Quantity.one := by
  have first : Text.Stops Text.isBlank n.text := by
    have starts := n.head?_text (r := [])
    rw [List.append_nil] at starts
    exact .of_any starts fun _ => isBlank_of_isStart
  have ends : n.EndsBefore [] :=
    ⟨Text.stops_nil, by rintro _ ⟨_, _, _, ⟨⟩, -⟩⟩
  have coefficient : Coefficient (Text.trim (String.ofList n.text).toList) (some n.value) [] := by
    rw [trim_ofList first (stops_reverse_numeral n)]
    have present : Coefficient ([] ++ (n.text ++ ([] ++ []))) (some n.value) [] :=
      .present n rfl rfl Text.stops_nil ends
    simpa using present
  have term : Spells p.options true (.term false) [] .one [] :=
    .first (.missing h (by rintro ⟨⟩) (by rintro ⟨⟩) rfl)
  exact readsAs_of_spells coefficient term (by rintro _ ⟨⟩)

/-- Where plain numbers are accepted, the empty text is read as one. -/
theorem readsAs_empty (h : p.options.dimensionless = true) : p.ReadsAs "" 1 Quantity.one := by
  have coefficient : Coefficient (Text.trim "".toList) none [] :=
    .absent (b := []) rfl Text.stops_nil Text.stops_nil
  have term : Spells p.options true (.term false) [] .one [] :=
    .first (.missing h (by rintro ⟨⟩) (by rintro ⟨⟩) rfl)
  exact readsAs_of_spells coefficient term (by rintro _ ⟨⟩)

end Parser

end Metrology
