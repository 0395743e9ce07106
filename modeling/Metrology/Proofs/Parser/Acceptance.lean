import Metrology.Proofs.Expression.Tree
import Metrology.Proofs.Parser.Steps
import Metrology.Proofs.Results

/-!
# What the parser accepts

A text is accepted exactly if the grammar spells it, without the blanks around it, and all units of
the expression are granted; it then has the value that the expression evaluates to
(`parse_eq_ok_iff`).  So parsing undoes writing: the text of a tree of unit expressions is parsed to
what the tree evaluates to, from the left to the right (`parse_text`), and trees with the same text
stand for the same expression (`expression_eq_of_text_eq`).
-/

namespace Metrology

open Expression

namespace Parser

variable {p : Parser} {source : String} {text : List Char} {e : Expression} {q : Quantity}
  {tens : Bool}

theorem parse_of_zero_notMem (h : '\x00' ∉ Text.trim source.toList) :
    p.parse source = p.parseText source (Text.trim source.toList) := by
  have : (Text.trim source.toList).findIdx? (· = '\x00') = none := by
    rw [List.findIdx?_eq_none_iff]
    intro c member
    rw [decide_eq_false_iff_not]
    rintro rfl
    exact h member
  simp only [parse, this]

theorem zero_notMem_of_parse_ok {q : Quantity} (h : (p.parse source).result = .ok q) :
    '\x00' ∉ Text.trim source.toList := by
  intro zero
  cases at? : (Text.trim source.toList).findIdx? (· = '\x00') with
  | none =>
    have := List.findIdx?_eq_none_iff.1 at? _ zero
    simp at this
  | some i =>
    simp only [parse, at?] at h
    cases h

/-- A text that the grammar spells is parsed to what its expression evaluates to, or fails like
the evaluation. -/
theorem parse_of_spells (h : Spells p.options tens .expression (Text.trim source.toList) e []) :
    (p.parse source).answer = p.evaluated e := by
  rw [parse_of_zero_notMem (zero_notMem_of_spells h)]
  cases h with
  | expression coefficient term =>
    obtain ⟨rfl, names, result⟩ := read_of_spells coefficient term
    exact parseText_of_read names result

/-- The parser accepts exactly the texts of the grammar whose units are granted, and returns what
their expressions evaluate to. -/
theorem parse_eq_ok_iff (p : Parser) (source : String) (q : Quantity) (r : Registry) :
    (p.parse source).result = .ok q ∧ (p.parse source).parser.registry = r ↔
      ∃ e, Spells p.options true .expression (Text.trim source.toList) e [] ∧
        e.evaluate p.options.extend p.registry = (.ok q, r) := by
  constructor
  · rintro ⟨ok, rfl⟩
    have zero := zero_notMem_of_parse_ok ok
    rw [parse_of_zero_notMem zero] at ok ⊢
    obtain ⟨e, result⟩ := exists_read_of_parseText_ok ok
    obtain ⟨t, divided, coefficient, names, term⟩ := spells_of_read result
    refine ⟨_, .expression coefficient term, ?_⟩
    have parsed : (p.parseText source _).answer = _ := parseText_of_read names result
    rw [Parsed.answer, ok] at parsed
    obtain ⟨value, registry⟩ := Prod.mk.inj parsed
    exact Prod.ext (mapError_eq_ok_iff.1 value.symm) registry.symm
  · rintro ⟨e, spelled, evaluated⟩
    have parsed := parse_of_spells spelled
    rw [Parser.evaluated, evaluated] at parsed
    obtain ⟨value, registry⟩ := Prod.mk.inj parsed
    exact ⟨mapError_eq_ok_iff.1 value, registry⟩

/-- A text of the grammar is accepted exactly if its units are granted. -/
theorem result_eq_ok_iff_of_spells
    (h : Spells p.options tens .expression (Text.trim source.toList) e []) :
    (p.parse source).result = .ok q ↔
      ∃ r, p.registry.requests p.options.extend e.names = (none, r) ∧ e.value r.quantity = q := by
  have answer : (p.parse source).result.mapError ParseError.fault =
      (settled e.value (p.registry.requests p.options.extend e.names)).1.mapError .unit :=
    (congrArg Prod.fst (parse_of_spells h)).trans (by rw [evaluated, evaluate_eq]; rfl)
  rw [← mapError_eq_ok_iff (f := ParseError.fault), answer, mapError_eq_ok_iff]
  rcases p.registry.requests p.options.extend e.names with ⟨_ | fault, r⟩
  · constructor
    · rintro ⟨⟩
      exact ⟨r, rfl, rfl⟩
    · rintro ⟨_, ⟨⟩, rfl⟩
      rfl
  · exact iff_of_false (by rintro ⟨⟩) (by rintro ⟨_, ⟨⟩, -⟩)

/-! ## Texts of trees -/

/-- The text of a tree is parsed to what its expression evaluates to, or fails like the evaluation,
with the same registry in the end. -/
theorem parse_text (p : Parser) (tree : Tree) :
    (p.parse (String.ofList (tree.text p.options.escape))).answer =
      p.evaluated tree.expression := by
  have spelled : Spells p.options true .expression (tree.text p.options.escape) _ [] :=
    tree.spells_text
  have text : Text.trim (String.ofList (tree.text p.options.escape)).toList = _ :=
    (congrArg Text.trim String.toList_ofList).trans (tree.trim_text p.options)
  rw [← text] at spelled
  exact parse_of_spells spelled

/-! ## Ten before a one -/

/-- Without parentheses and without ten before a one, no factor is a quotient or a multiple of
one. -/
theorem factor_shape {o : Options} {s r : List Char} {f : Expression}
    (h : Spells o false .factor s f r) (noGroup : '(' ∉ s) :
    (∀ g g', f ≠ .quotient g g') ∧ ∀ x, f ≠ .scaled x .one := by
  cases h with
  | one => exact ⟨by rintro g g' ⟨⟩, by rintro x ⟨⟩⟩
  | ten h => cases h
  | unit word n =>
    cases n with
    | none =>
      refine ⟨?_, ?_⟩
      · rintro g g' rfl
        cases word
      · rintro x rfl
        cases word
    | some n => exact ⟨by rintro g g' ⟨⟩, by rintro x ⟨⟩⟩
  | group => exact absurd List.mem_cons_self noGroup
  | missing => exact ⟨by rintro g g' ⟨⟩, by rintro x ⟨⟩⟩

/-- The expression of `da1/s`. -/
def tenPerSecond : Expression := .quotient (.scaled Prefix.deka .one) (.unit (String.ofList ['s']))

theorem spells_tenPerSecond :
    Spells default true (.term true) ['d', 'a', '1', '/', 's'] tenPerSecond [] :=
  .quotient (.first (.ten rfl)) (Text.stops_cons.2 (by decide))
    (.unit (w := ['s']) (.plain ⟨rfl, rfl⟩ fun _ next => nomatch next) none)

theorem not_spells_tenPerSecond {o : Options} {s r : List Char} {divided : Bool}
    (noGroup : '(' ∉ s) : ¬Spells o false (.term divided) s tenPerSecond r := by
  intro h
  unfold tenPerSecond at h
  cases h with
  | first factor => exact (factor_shape factor noGroup).1 _ _ rfl
  | quotient term =>
    cases term with
    | first factor => exact (factor_shape factor noGroup).2 _ rfl

/-- The parser reads `da1/s` as ten per second: the one exception to the rule that a one has no
prefix. -/
theorem parse_da1_per_s :
    (∃ q, (({} : Parser).parse "da1/s").result = .ok q) ∧
      ¬∃ e, Spells default false .expression (Text.trim "da1/s".toList) e [] := by
  have text : Text.trim "da1/s".toList = ['d', 'a', '1', '/', 's'] := rfl
  have coefficient : Coefficient ['d', 'a', '1', '/', 's'] none ['d', 'a', '1', '/', 's'] :=
    .absent (b := []) rfl (Text.stops_cons.2 (by decide)) (Text.stops_cons.2 (by decide))
  have spelled : Spells default true .expression (Text.trim "da1/s".toList) tenPerSecond [] :=
    text ▸ .expression coefficient spells_tenPerSecond
  refine ⟨?_, ?_⟩
  · obtain ⟨q, evaluated⟩ : ∃ q, (({} : Parser).evaluated tenPerSecond).1 = .ok q := ⟨_, rfl⟩
    have parsed := congrArg Prod.fst (parse_of_spells (p := {}) spelled)
    exact ⟨q, mapError_eq_ok_iff.1 (parsed.trans evaluated)⟩
  · rw [text]
    rintro ⟨e, h⟩
    have same := spells_unique h (text ▸ spelled)
    cases h with
    | @expression _ _ _ x e _ coefficient' term =>
      cases x with
      | none =>
        cases same
        refine not_spells_tenPerSecond (fun group => ?_) term
        have suffix := (yields_readCoefficient.2 ⟨rfl, coefficient'⟩).suffix
        exact absurd (suffix.subset group) (by decide)
      | some x => cases same

end Parser

/-- Trees with the same text stand for the same expression. -/
theorem expression_eq_of_text_eq {o : Options} {tree tree' : Tree}
    (h : tree.text o.escape = tree'.text o.escape) : tree.expression = tree'.expression := by
  have spelled : Spells o true .expression (tree.text o.escape) _ [] := tree.spells_text
  have spelled' : Spells o true .expression (tree'.text o.escape) _ [] := tree'.spells_text
  rw [h] at spelled
  exact spells_unique spelled spelled'

end Metrology
