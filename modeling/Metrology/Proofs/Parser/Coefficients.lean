import Metrology.Proofs.Parser.Growth
import Metrology.Proofs.Parser.Outcome
import Metrology.Proofs.Parser.UnitParts

/-!
# Texts behind a coefficient

What becomes of the term behind a coefficient does not depend on the coefficient: the steps of the
coefficient are notes, and all places are counted from the end of the text (`Parser.verdict`,
`Parser.result_parse`).  So a coefficient factors out of the parse of any text
(`Parser.parse_numeral_append`).
-/

namespace Metrology

open Expression

/-- Notes make no difference to what becomes of the steps after them. -/
theorem replay_append_of_notes {o : Options} {r : Registry} {notes : List Step}
    (h : notes.filterMap Step.name? = []) (steps : List Step) :
    (replay o r (notes ++ steps)).failure = (replay o r steps).failure ∧
      (replay o r (notes ++ steps)).registry = (replay o r steps).registry := by
  induction notes with
  | nil => exact ⟨rfl, rfl⟩
  | cons step notes ih =>
    cases step with
    | note note => exact ih h
    | request name left => cases h

namespace Parser

variable {p : Parser} {source : String} {s t : List Char} {x : Option Float}

/-! ## Verdicts -/

/-- The steps of a term at the end of a text, taken on the registry. -/
def takenTerm (p : Parser) (t : List Char) : Replay :=
  replay p.options p.registry (readTerm p.options t).steps

/-- What becomes of a term at the end of a text: its quantity, or a fault and how many characters
are left at its place. -/
def verdict (p : Parser) (t : List Char) : Except (ParseFault × Nat) Quantity :=
  match (p.takenTerm t).failure, whole (readTerm p.options t).result with
  | some (fault, left), _ => .error (.unit fault, left)
  | none, .error error => .error (.expression error.fault, error.place)
  | none, .ok e => .ok (e.value (p.takenTerm t).registry.quantity)

/-- The answer to a text, from its coefficient and the verdict on its term. -/
def answered (source : String) (text : List Char) (x : Float) :
    Except (ParseFault × Nat) Quantity → Except ParseError Quantity
  | .error (fault, place) => .error ⟨fault, source, String.ofList text, column text place⟩
  | .ok q => .ok (q.scale x)

theorem verdict_place_le {fault : ParseFault} {place : Nat}
    (h : p.verdict t = .error (fault, place)) : place ≤ t.length := by
  unfold verdict at h
  split at h
  · next refused =>
    cases h
    obtain ⟨name, member⟩ := request_mem_of_failure refused
    exact ((within_readTerm t).request name _ member).left_le
  · next error _ result =>
    cases h
    exact (length_le_of_whole_error (Nat.le_refl _) (within_readTerm t).error result).1
  · cases h

/-- Reading a coefficient leaves the term behind it as the only part that requests units. -/
theorem taken_of_coefficient (p : Parser) (source : String) (h : Coefficient s x t) :
    (p.taken source s).failure = (p.takenTerm t).failure ∧
      (p.taken source s).registry = (p.takenTerm t).registry ∧
      (read p.options s).coefficient = x ∧
      (read p.options s).result = whole (readTerm p.options t).result := by
  obtain ⟨notes, suffix, coefficient⟩ := yields_readCoefficient.2 ⟨rfl, h⟩
  have reads := read_of_ok (o := p.options) coefficient
  obtain ⟨failure, registry⟩ :=
    replay_append_of_notes (o := p.options) (r := p.registry) notes (readTerm p.options t).steps
  unfold taken takenTerm
  rw [reads]
  exact ⟨failure, registry, rfl, rfl⟩

theorem result_parseText (h : Coefficient s x t) :
    (p.parseText source s).result = answered source s (x.getD 1) (p.verdict t) := by
  obtain ⟨failure, registry, coefficient, result⟩ := taken_of_coefficient p source h
  unfold verdict
  rw [← failure, ← registry, ← result]
  cases failed : (p.taken source s).failure with
  | none =>
    cases outcome : (read p.options s).result with
    | error error =>
      rw [parseText_of_error failed outcome]
      rfl
    | ok e =>
      rw [(parseText_of_ok failed outcome).1, valued, coefficient]
      rfl
  | some refused =>
    obtain ⟨fault, left⟩ := refused
    rw [parseText_of_refused failed]
    rfl

section Texts

variable (zero : '\x00' ∉ Text.trim source.toList) (h : Coefficient (Text.trim source.toList) x t)

include zero h

theorem result_parse :
    (p.parse source).result =
      answered source (Text.trim source.toList) (x.getD 1) (p.verdict t) := by
  rw [parse_of_zero_notMem zero, result_parseText h]

theorem registry_parse : (p.parse source).parser.registry = (p.takenTerm t).registry := by
  rw [parse_of_zero_notMem zero, registry_parseText, (taken_of_coefficient p source h).2.1]

theorem numericalValue_parse : (p.parse source).parser.state.numericalValue = x.getD 1 := by
  rw [parse_of_zero_notMem zero, numericalValue_parseText, (taken_of_coefficient p source h).2.2.1]

end Texts

/-! ## Numerals in front of a text -/

/-- How the answer to a text compares with the answer to the same text behind a coefficient `x`, of
`k` characters with the blank: the magnitude is multiplied by `x`, and an error keeps its fault and
is moved by `k`. -/
inductive Scaled (x : Float) (k : Nat) :
    Except ParseError Quantity → Except ParseError Quantity → Prop where
  | ok {q q' : Quantity} (dimension_eq : q'.dimension = q.dimension)
    (value_eq : q'.value = x * q.value) : Scaled x k (.ok q) (.ok q')
  | error {e e' : ParseError} (fault_eq : e'.fault = e.fault)
    (position_eq : e'.position = e.position + k) : Scaled x k (.error e) (.error e')

theorem scaled_answered {source' : String} {y : Float} {k : Nat}
    (length : s.length = t.length + k) :
    Scaled y k (answered source t 1 (p.verdict t)) (answered source' s y (p.verdict t)) := by
  cases verdict : p.verdict t with
  | error refused =>
    have inside := verdict_place_le verdict
    refine .error rfl ?_
    simp only [column]
    omega
  | ok u =>
    rw [answered, Quantity.scale_one]
    exact .ok rfl rfl

theorem zero_notMem_of_coefficient (h : Coefficient s x t) (zero : '\x00' ∉ t) : '\x00' ∉ s := by
  have passes : Passes ['\x00'] s t :=
    passes_coefficient (by decide) (by decide) (by decide) h
  obtain ⟨w, rfl, free⟩ := passes
  rw [List.mem_append, not_or]
  exact ⟨free _ List.mem_cons_self, zero⟩

/-- Coefficients factor out.  In front of a text without blanks around it that does not start like
a number itself, a numeral and a blank change neither whether the text is accepted nor the registry
that is left: they multiply the magnitude, and move the place of an error. -/
theorem parse_numeral_append (p : Parser) (n : Literal.Numeral) (source : String)
    (nonempty : source ≠ "") (trimmed : Text.trim source.toList = source.toList)
    (zero : '\x00' ∉ source.toList) (noNumber : Text.Stops Literal.isStart source.toList) :
    let bare := p.parse source
    let scaled := p.parse (String.ofList (n.text ++ ' ' :: source.toList))
    Scaled n.value (n.text.length + 1) bare.result scaled.result ∧
      scaled.parser.registry = bare.parser.registry ∧
      scaled.parser.state.numericalValue = n.value := by
  dsimp only
  have ne : source.toList ≠ [] := fun nil => nonempty (String.toList_eq_nil_iff.1 nil)
  have noBlank : Text.Stops Text.isBlank source.toList := trimmed ▸ Text.stops_trimWhere _
  have last : Text.Stops Text.isBlank source.toList.reverse :=
    trimmed ▸ Text.stops_reverse_trimWhere _
  have text := trim_numeral_append n ne last
  have first : Coefficient (Text.trim source.toList) none source.toList := by
    rw [trimmed]
    exact .absent (b := []) rfl noBlank noNumber
  have second : Coefficient (Text.trim (String.ofList (n.text ++ ' ' :: source.toList)).toList)
      (some n.value) source.toList := by
    rw [text]
    exact coefficient_numeral n noBlank
  have zero₁ := zero_notMem_of_coefficient first zero
  have zero₂ := zero_notMem_of_coefficient second zero
  refine ⟨?_, ?_, numericalValue_parse zero₂ second⟩
  · have length : (n.text ++ ' ' :: source.toList).length =
        source.toList.length + (n.text.length + 1) := by
      rw [List.length_append, List.length_cons]
      omega
    rw [result_parse zero₁ first, result_parse zero₂ second, trimmed, text]
    exact scaled_answered length
  · exact (registry_parse zero₂ second).trans (registry_parse zero₁ first).symm

/-- The numeral `-2.5E3`. -/
def signedDecimal : Literal.Numeral where
  sign := some .minus
  whole := ['2']
  fraction := some ['5']
  exponent := some ⟨'E', none, ['3'], rfl, List.cons_ne_nil _ _, rfl⟩
  whole_isDigit := rfl
  fraction_isDigit := rfl
  digits_ne_nil := fun empty => List.cons_ne_nil _ _ empty.1

/-- The exponent of a coefficient ends before a unit that starts like one, and an error behind the
unit moves with it. -/
theorem parse_signedDecimal_exameters :
    "Em/s)" ≠ "" ∧ Text.trim "Em/s)".toList = "Em/s)".toList ∧ '\x00' ∉ "Em/s)".toList ∧
      Text.Stops Literal.isStart "Em/s)".toList ∧
      Scaled (-2500) 7 (({} : Parser).parse "Em/s)").result
        (({} : Parser).parse "-2.5E3 Em/s)").result ∧
      (({} : Parser).parse "-2.5E3 Em/s)").parser.registry =
        (({} : Parser).parse "Em/s)").parser.registry ∧
      (({} : Parser).parse "-2.5E3 Em/s)").parser.state.numericalValue = -2500 := by
  have nonempty : "Em/s)" ≠ "" := by decide
  have trimmed : Text.trim "Em/s)".toList = "Em/s)".toList := rfl
  have zero : '\x00' ∉ "Em/s)".toList := by decide
  have noNumber : Text.Stops Literal.isStart "Em/s)".toList := Text.stops_cons.2 rfl
  have value : signedDecimal.value = -2500 := by decide +kernel
  have text : String.ofList (signedDecimal.text ++ ' ' :: "Em/s)".toList) = "-2.5E3 Em/s)" := rfl
  have parsed := parse_numeral_append {} signedDecimal "Em/s)" nonempty trimmed zero noNumber
  rw [text, value] at parsed
  exact ⟨nonempty, trimmed, zero, noNumber, parsed⟩

end Parser

end Metrology
