import Metrology.Proofs.Expression.FactorTexts
import Metrology.Proofs.Expression.TermOperators
import Metrology.Proofs.Number.Written
import Metrology.Proofs.Parser.Coefficients
import Metrology.Proofs.Parser.ExtensionSymbols

/-!
# Spellings of a quotient

A term is divided by a power of a factor with a solidus, with a negative power behind a point or a
blank, or with the factor repeated in parentheses (`Parser.quotientSpellings`).  Each way goes on
with a text that divides (`Divides`), so all are accepted or refused together, in one dimension
(`Parser.parse_quotient_spellings`).
-/

namespace Metrology

open Expression

/-- Further requests for names that were granted change nothing. -/
theorem Registry.requests_append_of_subset {r : Registry} {extend : Bool}
    {names later : List String} (h : later ⊆ names) :
    r.requests extend (names ++ later) = r.requests extend names := by
  rw [requests_append]
  rcases granted : r.requests extend names with ⟨_ | fault, r'⟩
  · refine requests_of_known fun name member => ?_
    obtain ⟨q, known⟩ := find?_requests_of_mem (by rw [granted]) (h member)
    rw [granted] at known
    exact ⟨q, known⟩
  · rfl

namespace Expression

variable {o : Options} {s u f : List Char} {c : Char} {x : Option Float} {d e g : Expression}
  {n : Nat}

/-! ## Texts that divide -/

/-- The term that an operator and a factor make of a term. -/
def joined (c : Char) (d g : Expression) : Expression :=
  if c = '/' then .quotient d g else .product d g

/-- The operator `c` and the factor `u` behind a term divide it by the `n`-th power of `e`: they
request the units of `e`, perhaps more than once. -/
structure Divides (o : Options) (e : Expression) (n : Nat) (c : Char) (u : List Char)
    (g : Expression) : Prop where
  operator : isOperator c = true
  factor : Spells o true .factor u g []
  names : ∃ later, g.names = e.names ++ later ∧ later ⊆ e.names
  dimension : ∀ (unitOf : String → Quantity) (d : Expression),
    ((joined c d g).value unitOf).dimension =
      (d.value unitOf).dimension / (e.value unitOf).dimension ^ (n : Int)

theorem names_joined : (joined c d g).names = d.names ++ g.names := by
  unfold joined
  split_ifs <;> rfl

section Ways

variable (factor : BareFactor o f e)

include factor

theorem divides_solidus (writable : Whole.isWritable n = true) :
    Divides o e n '/' (f ++ (Whole.Numeral.ofNat none n writable).text)
      (e.raised (some (Whole.Numeral.ofNat none n writable))) where
  operator := rfl
  factor := by
    have spelled := factor.spells (some (Whole.Numeral.ofNat none n writable)) []
    rwa [List.append_nil] at spelled
  names := ⟨[], by rw [names_raised, List.append_nil], List.nil_subset _⟩
  dimension unitOf d := by
    rw [raised, Whole.Numeral.value_ofNat, if_neg (by decide)]
    rfl

theorem divides_product (writable : Whole.isWritable n = true) (operator : c = ' ' ∨ c = '.') :
    Divides o e n c (f ++ (Whole.Numeral.ofNat (some .minus) n writable).text)
      (e.raised (some (Whole.Numeral.ofNat (some .minus) n writable))) where
  operator := isOperator_iff.2 (operator.imp_right .inl)
  factor := by
    have spelled := factor.spells (some (Whole.Numeral.ofNat (some .minus) n writable)) []
    rwa [List.append_nil] at spelled
  names := ⟨[], by rw [names_raised, List.append_nil], List.nil_subset _⟩
  dimension unitOf d := by
    have solidus : c ≠ '/' := by rcases operator with rfl | rfl <;> decide
    rw [raised, Whole.Numeral.value_ofNat, if_pos rfl, joined, if_neg solidus]
    have product : ((Expression.product d (.power e (-(n : Int)))).value unitOf).dimension =
        (d.value unitOf).dimension * (e.value unitOf).dimension ^ (-(n : Int)) := rfl
    rw [product]
    ext i
    simp only [Dimension.exponent_mul, Dimension.exponent_div, Dimension.exponent_pow]
    ring

theorem divides_repeated (strict : o.dimensionless = false) (k : Nat) :
    Divides o e (k + 1) '/' (enclosed ([' '].intercalate (List.replicate (k + 1) f)))
      (repeated e k) where
  operator := rfl
  factor := by
    have term := factor.spells_repeated strict k []
    rw [List.append_nil] at term
    have first : Text.Stops Text.isBlank ([' '].intercalate (List.replicate (k + 1) f)) ∧
        Text.Stops Literal.isStart ([' '].intercalate (List.replicate (k + 1) f)) := by
      obtain ⟨noBlank, -, noNumeral⟩ := stops_of_factor factor.spells_whole
      have ne := ne_nil_of_spells strict factor.spells_whole
      rw [List.replicate_succ, intercalate_blank]
      exact ⟨noBlank.append ne _, noNumeral.append ne _⟩
    exact spells_factor_enclosed
      (.expression (x := none) (.absent (b := []) rfl first.1 first.2) term)
  names := names_repeated e k
  dimension unitOf d := by
    have quotient : ((joined '/' d (repeated e k)).value unitOf).dimension =
        (d.value unitOf).dimension / ((repeated e k).value unitOf).dimension := rfl
    rw [quotient, dimension_repeated]

end Ways

/-- A term of which the last operator is no solidus goes on with an operator and a factor. -/
theorem Divides.spells (h : Divides o e n c u g) (strict : o.dimensionless = false)
    (term : Spells o true (.term false) s d []) :
    ∃ divided, Spells o true (.term divided) (s ++ c :: u) (joined c d g) [] := by
  have before : Spells o true (.term false) (s ++ c :: u) d (c :: u) :=
    term.append (.inr ⟨h.operator, strict⟩)
  have single := (stops_of_factor h.factor).2.1
  unfold joined
  split_ifs with solidus
  · subst solidus
    exact ⟨true, .quotient before single h.factor⟩
  · have operator : c = ' ' ∨ c = '.' := by simpa [isOperator_iff, solidus] using h.operator
    exact ⟨false, .product before operator single h.factor⟩

end Expression

namespace Parser

variable {p : Parser} {source t f : String} {u : List Char} {c : Char} {d e g : Expression}
  {q : Quantity} {n : Nat}

/-- The ways to divide by the `n`-th power of a factor. -/
def quotientSpellings (t f : String) (n : Nat) : List String := [
  t ++ "/" ++ f ++ toString n,
  t ++ "." ++ f ++ "-" ++ toString n,
  t ++ " " ++ f ++ "-" ++ toString n,
  t ++ "/(" ++ " ".intercalate (List.replicate n f) ++ ")"]

/-- Each spelling goes on with a text that divides. -/
theorem exists_divides (strict : p.options.dimensionless = false)
    (factor : BareFactor p.options f.toList e) (positive : 1 ≤ n)
    (writable : Whole.isWritable n = true) (member : source ∈ quotientSpellings t f n) :
    ∃ c u g, source.toList = t.toList ++ c :: u ∧ Divides p.options e n c u g := by
  simp only [quotientSpellings, List.mem_cons, List.not_mem_nil, or_false] at member
  rcases member with rfl | rfl | rfl | rfl
  · refine ⟨_, _, _, ?_, divides_solidus factor writable⟩
    simp [Whole.Numeral.text, Whole.Numeral.ofNat, Literal.Sign.text]
  · refine ⟨_, _, _, ?_, divides_product factor writable (.inr rfl)⟩
    simp [Whole.Numeral.text, Whole.Numeral.ofNat, Literal.Sign.text]
  · refine ⟨_, _, _, ?_, divides_product factor writable (.inl rfl)⟩
    simp [Whole.Numeral.text, Whole.Numeral.ofNat, Literal.Sign.text]
  · obtain ⟨k, rfl⟩ := Nat.exists_eq_add_of_le' positive
    refine ⟨_, _, _, ?_, divides_repeated factor strict k⟩
    simp [enclosed, String.toList_intercalate]

/-- A text of a coefficient and a term, without blanks around it. -/
structure TermText (p : Parser) (t : String) (x : Option Float) (d : Expression) : Prop where
  trimmed : Text.trim t.toList = t.toList
  term : ∃ s, Coefficient t.toList x s ∧ Spells p.options true (.term false) s d []

/-- An accepted text of which the last operator is no solidus is a coefficient and a term that may
be divided, and all units of the term are granted. -/
theorem exists_termText (accepted : (p.parse t).result = .ok q)
    (trimmed : Text.trim t.toList = t.toList) (undivided : lastOperator? t.toList ≠ some '/') :
    ∃ x d, p.TermText t x d ∧
      p.registry.requests p.options.extend d.names = (none, (p.parse t).parser.registry) ∧
      (d.value (p.parse t).parser.registry.quantity).dimension = q.dimension ∧
      (p.parse t).parser.state.numericalValue = x.getD 1 := by
  obtain ⟨e, spelled, evaluated⟩ := (parse_eq_ok_iff p t q _).1 ⟨accepted, rfl⟩
  have zero := zero_notMem_of_spells spelled
  rw [trimmed] at spelled
  cases spelled with
  | @expression _ s _ x d divided coefficient term =>
    obtain rfl : divided = false := Bool.eq_false_iff.2 fun again => by
      subst again
      exact undivided (lastOperator?_of_spells coefficient term)
    have number := numericalValue_parse (p := p) zero (trimmed.symm ▸ coefficient)
    rw [evaluate_eq, names_scaledBy] at evaluated
    rcases granted : p.registry.requests p.options.extend d.names with ⟨_ | fault, r⟩
    · rw [granted, settled] at evaluated
      obtain ⟨value, rfl⟩ := Prod.mk.inj evaluated
      refine ⟨x, d, ⟨trimmed, s, coefficient, term⟩, granted, ?_, number⟩
      rw [← Except.ok.inj value, value_scaledBy]
      rfl
    · rw [granted] at evaluated
      cases evaluated

section Behind

variable {x : Option Float} {r : Registry} (strict : p.options.dimensionless = false)
  (text : p.TermText t x d) (divides : Divides p.options e n c u g)
  (written : source.toList = t.toList ++ c :: u)

include strict text divides written

/-- The text with the divisor behind it, without blanks around it. -/
theorem trim_divided : Text.trim source.toList = source.toList := by
  obtain ⟨s, coefficient, term⟩ := text.term
  have ne : t.toList ≠ [] := ne_nil_of_spells strict (.expression coefficient term)
  have first : Text.Stops Text.isBlank t.toList := text.trimmed ▸ Text.stops_trimWhere _
  have last := stops_reverse_of_factor divides.factor
  have ne' : u ≠ [] := ne_nil_of_spells strict divides.factor
  rw [written]
  refine Text.trimWhere_of_stops (first.append ne _) ?_
  rw [List.append_cons]
  exact Text.stops_reverse_append last ne' _

/-- The text with the divisor behind it has the same coefficient, and is read as the quotient. -/
theorem exists_spells_divided :
    ∃ s divided, Coefficient (Text.trim source.toList) x s ∧
      Spells p.options true (.term divided) s (joined c d g) [] := by
  obtain ⟨s, coefficient, term⟩ := text.term
  obtain ⟨divided, spelled⟩ := divides.spells strict term
  have closes : Closes p.options c := .inr ⟨divides.operator, strict⟩
  refine ⟨_, divided, ?_, spelled⟩
  rw [trim_divided strict text divides written, written]
  exact coefficient.append_char closes (closes.eq_or_ne_nil term)

/-- With the divisor behind it, the text is accepted exactly if the units of the divisor are
granted as well. -/
theorem result_divided_eq_ok_iff
    (granted : p.registry.requests p.options.extend d.names = (none, r)) :
    (p.parse source).result = .ok q ↔
      ∃ r', r.requests p.options.extend e.names = (none, r') ∧
        ((joined c d g).scaledBy x).value r'.quantity = q := by
  obtain ⟨s, divided, coefficient, term⟩ := exists_spells_divided strict text divides written
  obtain ⟨later, names, known⟩ := divides.names
  rw [result_eq_ok_iff_of_spells (.expression coefficient term), names_scaledBy, names_joined,
    Registry.requests_append, granted, names]
  dsimp only
  rw [Registry.requests_append_of_subset known]

theorem numericalValue_divided : (p.parse source).parser.state.numericalValue = x.getD 1 := by
  obtain ⟨s, divided, coefficient, term⟩ := exists_spells_divided strict text divides written
  exact numericalValue_parse (zero_notMem_of_spells (.expression coefficient term)) coefficient

end Behind

/-- The spellings of a quotient agree.  Behind an accepted text `t` of which the last operator is no
solidus, they are all accepted or all refused, as the factor is in the registry that `t` leaves.
When they are accepted, they have the dimension of `t` divided by the `n`-th power of that of the
factor, and the coefficient of `t`. -/
theorem parse_quotient_spellings (p : Parser) (t f : String) (e : Expression) (q : Quantity)
    (n : Nat) (strict : p.options.dimensionless = false)
    (trimmed : Text.trim t.toList = t.toList) (accepted : (p.parse t).result = .ok q)
    (undivided : lastOperator? t.toList ≠ some '/') (factor : BareFactor p.options f.toList e)
    (positive : 1 ≤ n) (writable : Whole.isWritable n = true) :
    let after : Parser := { p with registry := (p.parse t).parser.registry }
    (∀ u, (after.parse f).result = .ok u → ∀ source ∈ quotientSpellings t f n,
      ∃ q', (p.parse source).result = .ok q' ∧
        q'.dimension = q.dimension / u.dimension ^ (n : Int) ∧
        (p.parse source).parser.state.numericalValue =
          (p.parse t).parser.state.numericalValue) ∧
    (∀ error, (after.parse f).result = .error error → ∀ source ∈ quotientSpellings t f n,
      ∃ error', (p.parse source).result = .error error') := by
  intro after
  obtain ⟨x, d, text, granted, dimension, number⟩ := exists_termText accepted trimmed undivided
  have alone {u : Quantity} : (after.parse f).result = .ok u ↔
      ∃ r', after.registry.requests p.options.extend e.names = (none, r') ∧
        e.value r'.quantity = u :=
    result_eq_ok_iff_of_spells (spells_factor factor.spells_whole)
  refine ⟨fun u ok source member => ?_, fun error refused source member => ?_⟩
  · obtain ⟨c, w, g, written, divides⟩ := exists_divides strict factor positive writable member
    obtain ⟨r', granted', rfl⟩ := alone.1 ok
    refine ⟨_, (result_divided_eq_ok_iff strict text divides written granted).2
      ⟨r', granted', rfl⟩, ?_, ?_⟩
    · -- The units of `t` are what they were when the units of the factor are granted.
      have kept := value_requests granted e.names
      rw [granted'] at kept
      rw [value_scaledBy, ← dimension, ← kept]
      exact divides.dimension r'.quantity d
    · rw [number]
      exact numericalValue_divided strict text divides written
  · obtain ⟨c, w, g, written, divides⟩ := exists_divides strict factor positive writable member
    cases result : (p.parse source).result with
    | error error' => exact ⟨error', rfl⟩
    | ok q' =>
      obtain ⟨r', granted', -⟩ :=
        (result_divided_eq_ok_iff strict text divides written granted).1 result
      cases refused.symm.trans (alone.2 ⟨r', granted', rfl⟩)

theorem bareFactor_kFoo :
    BareFactor extending "kFoo".toList (.scaled 1e3 (.unit (String.ofList ['F', 'o', 'o']))) :=
  .word (.letter rfl (by decide) rfl (by decide))

/-- The factor may be a prefix and a unit that the first spelling defines. -/
theorem parse_quotient_spellings_kFoo :
    Text.trim "3 m".toList = "3 m".toList ∧
      (({ options := extending } : Parser).parse "3 m").result = .ok ⟨.length, 3⟩ ∧
      lastOperator? "3 m".toList ≠ some '/' ∧ 1 ≤ 2 ∧ Whole.isWritable (2 : Nat) = true ∧
      ∀ source ∈ ["3 m/kFoo2", "3 m.kFoo-2", "3 m kFoo-2", "3 m/(kFoo kFoo)"], ∃ q',
        (({ options := extending } : Parser).parse source).result = .ok q' ∧
          q'.dimension = .length / .extension 0 ^ (2 : Int) := by
  have trimmed : Text.trim "3 m".toList = "3 m".toList := rfl
  have word : Word extending.escape ['m'] (.unit (String.ofList ['m'])) :=
    .plain (by decide) (by decide)
  have spelled : Spells extending true .expression (Text.trim "3 m".toList)
      (.scaled (Literal.Numeral.ofDigits ['3']).value (.unit (String.ofList ['m']))) [] :=
    .expression (coefficient_numeral (.ofDigits ['3']) (Text.stops_cons.2 (by decide)))
      (.first (.unit word none))
  obtain ⟨accepted, registry⟩ := (parse_eq_ok_iff { options := extending } "3 m" ⟨.length, 3⟩ {}).2
    ⟨_, spelled, by decide +kernel⟩
  have undivided : lastOperator? "3 m".toList ≠ some '/' := by decide +kernel
  have texts : quotientSpellings "3 m" "kFoo" 2 =
      ["3 m/kFoo2", "3 m.kFoo-2", "3 m kFoo-2", "3 m/(kFoo kFoo)"] := by decide +kernel
  have writable : Whole.isWritable (2 : Nat) = true := by decide +kernel
  obtain ⟨agree, -⟩ := parse_quotient_spellings { options := extending } "3 m" "kFoo" _ _ 2 rfl
    trimmed accepted undivided bareFactor_kFoo (by decide) writable
  have defined : (({ options := extending, registry := (({ options := extending } : Parser).parse
      "3 m").parser.registry } : Parser).parse "kFoo").result = .ok ⟨.extension 0, 1000⟩ :=
    (result_eq_ok_iff_of_spells (spells_factor bareFactor_kFoo.spells_whole)).2
      ⟨Registry.define {} "Foo", by rw [registry]; rfl, by decide +kernel⟩
  refine ⟨trimmed, accepted, undivided, by decide, writable, fun source member => ?_⟩
  obtain ⟨q', result, dimension, -⟩ := agree _ defined source (texts ▸ member)
  exact ⟨q', result, dimension⟩

end Parser

end Metrology
