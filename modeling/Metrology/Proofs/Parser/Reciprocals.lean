import Metrology.Proofs.Expression.FactorTexts
import Metrology.Proofs.Parser.Coefficients

/-!
# Reciprocals

A one at the start of an expression is read as a coefficient, even before a solidus, and then
nothing is left that the solidus could divide.  With the option `dimensionless` a factor may be
missing there, and the reciprocal of a factor is read with a coefficient and without one.  Without
the option it is read behind a coefficient alone (`Parser.parse_reciprocal`).
-/

namespace Metrology

namespace Expression

open Reading

variable {o : Options} {tens divided : Bool} {s t : List Char} {x : Option Float} {e : Expression}
  {error : SyntaxError}

/-! ## A solidus where a factor is wanted -/

theorem startsName_solidus : startsName o.escape ('/' :: s) = false := by
  have other : '/' ≠ o.escape := o.escape_ne (Options.isEscape_of_reserved rfl)
  simp [startsName, other, show Text.isLetter '/' = false from rfl]

/-- The error for a solidus that comes first in the text `s`. -/
def solidusError (s : List Char) : SyntaxError := ⟨.noUnit (some '/'), s.length, s.length⟩

theorem fails_readUnit_solidus :
    (readUnit o.escape ('/' :: s)).Fails (solidusError ('/' :: s)) := by
  rw [readUnit, if_neg (by rintro ⟨⟩), if_neg (Bool.eq_false_iff.1 startsName_solidus)]
  exact fails_fail.noting

/-- A solidus is no prefix. -/
theorem scale_solidus : Scale o.escape ('/' :: s) none ('/' :: s) := by
  refine .absent fun c d t text => .inr (.inr (.inr ?_))
  obtain ⟨rfl, -⟩ := List.cons.inj text
  rfl

theorem fails_readTerm_of_factor (h : (readFactor o s).Fails error) :
    (readTerm o s).Fails error := by
  rw [readTerm]
  exact h.andThen

/-- Without the option `dimensionless`, no term starts with a solidus. -/
theorem fails_readTerm_solidus (strict : o.dimensionless = false) :
    (readTerm o ('/' :: s)).Fails (solidusError ('/' :: s)) := by
  refine fails_readTerm_of_factor ?_
  rw [readFactor.eq_def]
  refine .noting ?_
  change (readSimpleFactor o ('/' :: s)).Fails _
  rw [readSimpleFactor, strict, Bool.false_and, if_neg (by decide)]
  have unscaled := yields_readScale.2 ⟨rfl, scale_solidus (o := o) (s := s)⟩
  exact unscaled.andThen_fails fun _ => fails_readUnit_solidus.andThen

/-- A term in parentheses fails where the term inside fails. -/
theorem fails_readTerm_group (coefficient : Coefficient s x t) (h : (readTerm o t).Fails error) :
    (readTerm o ('(' :: s)).Fails error := by
  refine fails_readTerm_of_factor ?_
  rw [readFactor]
  refine .noting (.widen (.andThen ?_) _)
  rw [readNested]
  exact .noting ((yields_readCoefficient.2 ⟨rfl, coefficient⟩).andThen_fails fun _ => h.andThen)

/-! ## Reciprocals -/

/-- The text of the reciprocal of a factor. -/
def reciprocal (f : List Char) : List Char := '1' :: '/' :: f

theorem value_one : (Literal.Numeral.ofDigits ['1']).value = 1 := by decide +kernel

/-- The one of a reciprocal is a coefficient. -/
theorem coefficient_reciprocal (f : List Char) :
    Coefficient (reciprocal f) (some 1) ('/' :: f) := by
  have ends : (Literal.Numeral.ofDigits ['1']).EndsBefore ([] ++ '/' :: f) :=
    Literal.Numeral.endsBefore_cons _ rfl rfl
  rw [← value_one]
  exact .present (b := []) _ rfl rfl (Text.stops_cons.2 (by decide)) ends

/-- A reciprocal is a term behind another coefficient. -/
theorem spells_reciprocal (h : Spells o tens .factor s e []) :
    Spells o tens (.term true) (reciprocal s) (.quotient .one e) [] :=
  .quotient (.first .one) (stops_of_factor h).2.1 h

/-- With the option `dimensionless` the dividend of a term may be missing. -/
theorem spells_solidus (h : Spells o tens .factor s e []) (lax : o.dimensionless = true) :
    Spells o tens (.term true) ('/' :: s) (.quotient .one e) [] :=
  .quotient (.first (.missing lax (by rintro ⟨⟩) (by rintro ⟨⟩) startsName_solidus))
    (stops_of_factor h).2.1 h

theorem value_one_div (u : Quantity) : (Quantity.one / u).value = 1 / u.value := rfl

theorem names_scaled_reciprocal (y : Float) :
    (Expression.scaled y (.quotient .one e)).names = e.names := rfl

theorem value_scaled_reciprocal (unitOf : String → Quantity) (y : Float) :
    (Expression.scaled y (.quotient .one e)).value unitOf =
      (Quantity.one / e.value unitOf).scale y := rfl

end Expression

open Expression

namespace Parser

variable {p : Parser} {source : String} {s t : List Char} {x : Option Float} {e : Expression}
  {q : Quantity} {tens divided : Bool}

/-- A term that fails before it requests a unit decides the verdict. -/
theorem verdict_of_fails {error : SyntaxError} (h : (readTerm p.options t).Fails error) :
    p.verdict t = .error (.expression error.fault, error.place) := by
  have run := replay_eq p.options p.registry (readTerm p.options t).steps
  rw [h.names_eq, Registry.requests, Prod.mk.injEq, Option.map_eq_none_iff] at run
  rw [verdict, takenTerm, run.1, h.result_eq]
  rfl

/-- A text whose term fails before it requests a unit is refused at the place of the error. -/
theorem result_of_fails {error : SyntaxError} {k : Nat}
    (trimmed : Text.trim source.toList = source.toList) (zero : '\x00' ∉ source.toList)
    (coefficient : Coefficient source.toList x t) (h : (readTerm p.options t).Fails error)
    (position : column source.toList error.place = k) :
    (p.parse source).result = .error ⟨.expression error.fault, source, source, k⟩ := by
  rw [← trimmed] at zero coefficient
  rw [result_parse zero coefficient, verdict_of_fails h, trimmed, answered, String.ofList_toList,
    position]

/-! ## Reciprocals without a coefficient -/

theorem zero_notMem_enclosed (zero : '\x00' ∉ s) : '\x00' ∉ enclosed s := by
  simp [enclosed, zero]

theorem toList_reciprocal (f : String) : ("1/" ++ f).toList = reciprocal f.toList :=
  String.toList_append

theorem toList_enclosed_reciprocal (f : String) :
    ("(1/" ++ f ++ ")").toList = enclosed (reciprocal f.toList) := by
  rw [String.toList_append, String.toList_append]
  rfl

section Texts

variable {f w : String} (factor : Spells p.options tens .factor f.toList e [])

include factor

theorem trim_append_factor (first : Text.Stops Text.isBlank w.toList)
    (last : Text.Stops Text.isBlank w.toList.reverse) :
    Text.trim (w ++ f).toList = (w ++ f).toList := by
  obtain ⟨noBlank, -, -⟩ := stops_of_factor factor
  rw [String.toList_append]
  refine Text.trimWhere_of_stops (first.append_stops noBlank) ?_
  rw [List.reverse_append]
  exact (stops_reverse_of_factor factor).append_stops last

theorem trim_reciprocal : Text.trim ("1/" ++ f).toList = ("1/" ++ f).toList :=
  trim_append_factor factor (Text.stops_cons.2 (by decide)) (Text.stops_cons.2 (by decide))

theorem spells_three_reciprocal :
    Spells p.options tens .expression (Text.trim ("3 1/" ++ f).toList)
      (.scaled (Literal.Numeral.ofDigits ['3']).value (.quotient .one e)) [] := by
  rw [trim_append_factor factor (Text.stops_cons.2 (by decide)) (Text.stops_cons.2 (by decide)),
    String.toList_append]
  exact .expression (coefficient_numeral (.ofDigits ['3']) (Text.stops_cons.2 (by decide)))
    (spells_reciprocal factor)

/-- With the option `dimensionless` a reciprocal needs no coefficient. -/
theorem spells_reciprocals (lax : p.options.dimensionless = true)
    (member : source ∈ ["1/" ++ f, "(1/" ++ f ++ ")"]) :
    Spells p.options tens .expression (Text.trim source.toList)
      (.scaled 1 (.quotient .one e)) [] := by
  have spelled : Spells p.options tens .expression (reciprocal f.toList)
      (.scaled 1 (.quotient .one e)) [] :=
    .expression (coefficient_reciprocal f.toList) (spells_solidus factor lax)
  obtain rfl | rfl := List.mem_pair.1 member
  · rw [trim_reciprocal factor, toList_reciprocal]
    exact spelled
  · rw [toList_enclosed_reciprocal, trim_enclosed]
    exact spells_enclosed spelled

theorem zero_notMem_reciprocal : '\x00' ∉ reciprocal f.toList := by
  refine zero_notMem_of_coefficient (coefficient_reciprocal f.toList) ?_
  rw [List.mem_cons, not_or]
  exact ⟨by decide, zero_notMem_of_spells factor⟩

/-- Without the option `dimensionless` the solidus of a reciprocal is an error. -/
theorem result_reciprocal (strict : p.options.dimensionless = false) :
    (p.parse ("1/" ++ f)).result =
      .error ⟨.expression (.noUnit (some '/')), "1/" ++ f, "1/" ++ f, 2⟩ := by
  have zero := zero_notMem_reciprocal factor
  have coefficient := coefficient_reciprocal f.toList
  rw [← toList_reciprocal] at zero coefficient
  refine result_of_fails (trim_reciprocal factor) zero coefficient
    (fails_readTerm_solidus strict) ?_
  simp only [column, solidusError, toList_reciprocal, reciprocal, List.length_cons]
  omega

/-- The solidus of a reciprocal in parentheses is an error too. -/
theorem result_enclosed_reciprocal (strict : p.options.dimensionless = false) :
    (p.parse ("(1/" ++ f ++ ")")).result =
      .error ⟨.expression (.noUnit (some '/')), "(1/" ++ f ++ ")", "(1/" ++ f ++ ")", 3⟩ := by
  have fails : (readTerm p.options (enclosed (reciprocal f.toList))).Fails
      (solidusError ('/' :: (f.toList ++ [')']))) :=
    fails_readTerm_group (coefficient_reciprocal f.toList).append_closing
      (fails_readTerm_solidus strict)
  have zero := zero_notMem_enclosed (zero_notMem_reciprocal factor)
  have coefficient := coefficient_enclosed (reciprocal f.toList)
  have trimmed := trim_enclosed (reciprocal f.toList)
  rw [← toList_enclosed_reciprocal] at fails zero coefficient trimmed
  refine result_of_fails trimmed zero coefficient fails ?_
  simp only [column, solidusError, toList_enclosed_reciprocal, enclosed, reciprocal,
    List.length_cons, List.length_append, List.length_nil]
  omega

end Texts

/-- The reciprocal of a factor that is accepted behind the coefficient three.  With the option
`dimensionless` it is accepted without a coefficient too, also in parentheses, in the same
dimension, and its magnitude is one over that of the factor.  Without the option the solidus is an
error. -/
theorem parse_reciprocal (p : Parser) (f : String) (e : Expression) (q : Quantity)
    (factor : Spells p.options true .factor f.toList e [])
    (accepted : (p.parse ("3 1/" ++ f)).result = .ok q) :
    ∃ u, (p.parse f).result = .ok u ∧
      (p.options.dimensionless = true → ∀ source ∈ ["1/" ++ f, "(1/" ++ f ++ ")"],
        ∃ q', (p.parse source).result = .ok q' ∧ q'.dimension = q.dimension ∧
          q'.value = 1 / u.value) ∧
      (p.options.dimensionless = false →
        (p.parse ("1/" ++ f)).result =
          .error ⟨.expression (.noUnit (some '/')), "1/" ++ f, "1/" ++ f, 2⟩ ∧
        (p.parse ("(1/" ++ f ++ ")")).result =
          .error ⟨.expression (.noUnit (some '/')), "(1/" ++ f ++ ")", "(1/" ++ f ++ ")", 3⟩) := by
  obtain ⟨r, granted, value⟩ :=
    (result_eq_ok_iff_of_spells (spells_three_reciprocal factor)).1 accepted
  -- The coefficient requests no unit, so what was granted behind the three is granted without it.
  rw [names_scaled_reciprocal] at granted
  have alone : (p.parse f).result = .ok (e.value r.quantity) :=
    (result_eq_ok_iff_of_spells (spells_factor factor)).2 ⟨r, granted, rfl⟩
  refine ⟨_, alone, fun lax source member => ?_, fun strict => ?_⟩
  · have dimension : (Quantity.one / e.value r.quantity).dimension = q.dimension := by
      rw [← value]
      rfl
    refine ⟨Quantity.one / e.value r.quantity, ?_, dimension, value_one_div _⟩
    rw [result_eq_ok_iff_of_spells (spells_reciprocals factor lax member), names_scaled_reciprocal]
    exact ⟨r, granted, by rw [value_scaled_reciprocal, Quantity.scale_one]⟩
  · exact ⟨result_reciprocal factor strict, result_enclosed_reciprocal factor strict⟩

theorem spells_second (o : Options) :
    Spells o true .factor ['s'] (.unit (String.ofList ['s'])) [] :=
  have word : Word o.escape ['s'] (.unit (String.ofList ['s'])) := .plain (by decide) (by decide)
  .unit word none

theorem spells_twoSeconds (o : Options) :
    Spells o true .factor "(2 s)".toList (.scaled (Literal.Numeral.ofDigits ['2']).value
      (.unit (String.ofList ['s']))) [] := by
  have coefficient : Coefficient ['2', ' ', 's']
      (some (Literal.Numeral.ofDigits ['2']).value) ['s'] :=
    coefficient_numeral (.ofDigits ['2']) (Text.stops_cons.2 (by decide))
  have text : "(2 s)".toList = enclosed ['2', ' ', 's'] := rfl
  rw [text]
  exact spells_factor_enclosed (.expression coefficient (.first (spells_second o)))

/-- Options with which a factor may be missing. -/
def optionalFactors : Options := { (default : Options) with dimensionless := true }

/-- The factor may be an expression in parentheses. -/
theorem parse_reciprocal_twoSeconds :
    (({ options := optionalFactors } : Parser).parse "3 1/(2 s)").result =
        .ok ⟨.frequency, 1.5⟩ ∧
      ∃ u, (({ options := optionalFactors } : Parser).parse "(2 s)").result = .ok u ∧
        ∀ source ∈ ["1/(2 s)", "(1/(2 s))"], ∃ q',
          (({ options := optionalFactors } : Parser).parse source).result = .ok q' ∧
            q'.dimension = .frequency ∧ q'.value = 1 / u.value := by
  have accepted : (({ options := optionalFactors } : Parser).parse
      ("3 1/" ++ "(2 s)")).result = .ok ⟨.frequency, 1.5⟩ :=
    (result_eq_ok_iff_of_spells (spells_three_reciprocal (spells_twoSeconds _))).2
      ⟨{}, rfl, by decide +kernel⟩
  obtain ⟨u, alone, read, -⟩ := parse_reciprocal _ _ _ _ (spells_twoSeconds _) accepted
  exact ⟨accepted, u, alone, read rfl⟩

/-- By default `3 1/s` is accepted, but `1/s` is refused. -/
theorem parse_reciprocal_second :
    (({} : Parser).parse "3 1/s").result = .ok ⟨.frequency, 3⟩ ∧
      (({} : Parser).parse "1/s").result =
        .error ⟨.expression (.noUnit (some '/')), "1/s", "1/s", 2⟩ := by
  have factor : Spells (default : Options) true .factor "s".toList
      (.unit (String.ofList ['s'])) [] := spells_second _
  have accepted : (({} : Parser).parse ("3 1/" ++ "s")).result = .ok ⟨.frequency, 3⟩ :=
    (result_eq_ok_iff_of_spells (spells_three_reciprocal factor)).2 ⟨{}, rfl, by decide +kernel⟩
  have refused := result_reciprocal (p := {}) factor rfl
  exact ⟨accepted, refused⟩

end Parser

end Metrology
