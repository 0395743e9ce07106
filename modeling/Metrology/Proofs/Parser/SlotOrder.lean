import Metrology.Proofs.Parser.ExtensionSymbols
import Metrology.Proofs.Parser.NewUnits
import Metrology.Proofs.Registry.SlotOrder

/-!
# Parses and the order of extension units

Which slot a unit has does not matter.  The steps of a reading are taken alike on registries that
have the same units in other slots (`replay_matches`), so a text is parsed alike on both: to the
same magnitude and, up to the permutation of the slots, the same dimension, or to the same error
(`Parser.parse_permuted`).
-/

namespace Metrology

open Expression

variable {π : SlotPerm} {r r' : Registry}

theorem Registry.Matches.quantity_eq (h : Registry.Matches π r r') :
    r'.quantity = fun name => (r.quantity name).permute π := by
  funext name
  rw [Registry.quantity, Registry.quantity, h.find?_eq]
  cases r.find? name with
  | none => exact Quantity.permute_one.symm
  | some q => rfl

/-- Steps are taken alike on registries with the same units, and leave such registries. -/
theorem replay_matches (o : Options) (steps : List Step) (h : Registry.Matches π r r') :
    (replay o r' steps).notes = (replay o r steps).notes ∧
      (replay o r' steps).log = (replay o r steps).log ∧
      (replay o r' steps).failure = (replay o r steps).failure ∧
      Registry.Matches π (replay o r steps).registry (replay o r' steps).registry := by
  induction steps generalizing r r' with
  | nil => exact ⟨rfl, rfl, rfl, h⟩
  | cons step steps ih =>
    cases step with
    | note note =>
      obtain ⟨notes, log, failure, later⟩ := ih h
      exact ⟨congrArg (note :: ·) notes, congrArg (noteRecords o note ++ ·) log, failure, later⟩
    | request name left =>
      obtain ⟨result, log, later⟩ := h.unit name o.extend
      cases answer : (r.unit name o.extend).result with
      | error fault =>
        rw [answer] at result
        simp only [replay, answer, result, Except.map]
        exact ⟨trivial, log, trivial, later⟩
      | ok q =>
        rw [answer] at result
        obtain ⟨notes, log', failure, last⟩ := ih later
        simp only [replay, answer, result, Except.map]
        exact ⟨notes, by rw [log, log'], failure, last⟩

namespace Parser

/-- The same parser with another registry. -/
def withRegistry (p : Parser) (r : Registry) : Parser := { p with registry := r }

/-- The two parses had the same outcome, up to the permutation of the slots. -/
structure Permuted (π : SlotPerm) (parsed parsed' : Parsed) : Prop where
  result : parsed'.result = parsed.result.map (Quantity.permute π)
  state : parsed'.parser.state = parsed.parser.state
  log : parsed'.log = parsed.log
  registry : Registry.Matches π parsed.parser.registry parsed'.parser.registry

variable {p : Parser} {source : String} {text : List Char}

theorem unitMagnitude_permute (q : Quantity) (x : Float) :
    unitMagnitude (q.permute π) x = unitMagnitude q x := by
  simp only [unitMagnitude, Quantity.overNumber, Quantity.permute]

theorem parseText_matches (h : Registry.Matches π p.registry r') :
    Permuted π (p.parseText source text) ((p.withRegistry r').parseText source text) := by
  obtain ⟨notes, log, failure, registry⟩ :=
    replay_matches p.options (.note (.start source) :: (read p.options text).steps) h
  have failure : ((p.withRegistry r').taken source text).failure =
    (p.taken source text).failure := failure
  have stopped (left : Nat) :
      (p.withRegistry r').stopped source text left = p.stopped source text left :=
    congrArg (fun trace => { p.stopped source text left with trace }) notes
  cases refused : (p.taken source text).failure with
  | some stop =>
    obtain ⟨fault, left⟩ := stop
    rw [parseText_of_refused refused, parseText_of_refused (failure.trans refused)]
    exact ⟨rfl, stopped left, log, registry⟩
  | none =>
    have granted := failure.trans refused
    cases result : (read p.options text).result with
    | error e =>
      rw [parseText_of_error refused result, parseText_of_error granted result]
      exact ⟨rfl, stopped e.left, log, registry⟩
    | ok e =>
      have value : (p.withRegistry r').valued source text e =
          (p.valued source text e).permute π := by
        have quantities : ((p.withRegistry r').taken source text).registry.quantity =
          fun name => ((p.taken source text).registry.quantity name).permute π :=
          registry.quantity_eq
        rw [valued, quantities, value_permute, valued, Quantity.permute_scale]
        rfl
      rw [parseText_eq_completed refused result, parseText_eq_completed granted result]
      refine ⟨congrArg Except.ok value, ?_, log, registry⟩
      rw [completed, completed, value, unitMagnitude_permute, stopped]
      rfl

theorem parse_matches (source : String) (h : Registry.Matches π p.registry r') :
    Permuted π (p.parse source) ((p.withRegistry r').parse source) := by
  unfold parse
  dsimp only
  cases (Text.trim source.toList).findIdx? (· = '\x00') with
  | some i => exact ⟨rfl, rfl, rfl, h⟩
  | none => exact parseText_matches h

/-- The slot that a unit happens to get does not matter.  Where two histories defined the same units
in different orders, a permutation of the slots relates the tables, and every text is parsed alike
after both: to the same magnitude in the permuted dimension, or to the same error, with the same
state of the parser, and so that the permutation relates the tables that are left. -/
theorem parse_permuted (history history' : List Registry.Operation)
    (same : (Registry.run history).extensions.Perm (Registry.run history').extensions) :
    (∃ π, Registry.Permutes π (Registry.run history).extensions
      (Registry.run history').extensions) ∧
    ∀ π, Registry.Permutes π (Registry.run history).extensions
        (Registry.run history').extensions →
      ∀ (o : Options) (state : ParserState) (source : String),
        let parsed := ({ options := o, registry := Registry.run history, state } : Parser).parse
          source
        let parsed' := ({ options := o, registry := Registry.run history', state } : Parser).parse
          source
        parsed'.result = parsed.result.map (Quantity.permute π) ∧
          parsed'.parser.state = parsed.parser.state ∧
          Registry.Permutes π parsed.parser.registry.extensions
            parsed'.parser.registry.extensions ∧
          ∀ name, parsed'.parser.registry.find? name =
            (parsed.parser.registry.find? name).map (Quantity.permute π) := by
  have lists (history : List Registry.Operation) :
      (Registry.run history).Lists (Registry.run history).extensions :=
    (Registry.lists_run history).extensions_eq ▸ Registry.lists_run history
  refine ⟨Registry.exists_permutes same (lists history).nodup (lists history).length_le,
    fun π permutes o state source => ?_⟩
  have before : Registry.Matches π (Registry.run history) (Registry.run history') :=
    ⟨lists history, lists history', permutes⟩
  have parsed := parse_matches (p := { options := o, registry := Registry.run history, state })
    source before
  exact ⟨parsed.result, parsed.state, parsed.registry.permutes, parsed.registry.find?_eq⟩

/-- A quotient by a unit that the parse defines, after two units were defined in either order. -/
theorem parse_permuted_Foo_Bar :
    let r := Registry.run [.unit "Foo" true, .unit "Bar" true]
    let r' := Registry.run [.unit "Bar" true, .unit "Foo" true]
    r.extensions.Perm r'.extensions ∧
      (({ options := extending, registry := r } : Parser).parse "Foo/Baz").result =
        .ok ⟨.extension 0 / .extension 2, 1⟩ ∧
      (({ options := extending, registry := r' } : Parser).parse "Foo/Baz").result =
        .ok ⟨.extension 1 / .extension 2, 1⟩ := by
  intro r r'
  have same : r.extensions.Perm r'.extensions := by decide +kernel
  have foo : Word extending.escape ['F', 'o', 'o'] (.unit (String.ofList ['F', 'o', 'o'])) :=
    .plain (by decide) (by decide)
  have baz : Word extending.escape ['B', 'a', 'z'] (.unit (String.ofList ['B', 'a', 'z'])) :=
    .plain (by decide) (by decide)
  have quotient : Spells extending true (.term true) (Text.trim "Foo/Baz".toList) _ [] :=
    .quotient (.first (.unit foo none)) (Text.stops_cons.2 (by decide)) (.unit baz none)
  have spelled := Spells.expression
    (.absent (b := []) rfl (Text.stops_cons.2 (by decide)) (Text.stops_cons.2 (by decide))) quotient
  have result : (({ options := extending, registry := r } : Parser).parse "Foo/Baz").result =
      .ok ⟨.extension 0 / .extension 2, 1⟩ :=
    (result_eq_ok_iff_of_spells spelled).2 ⟨r.define "Baz", by decide +kernel, by decide +kernel⟩
  obtain ⟨⟨π, permutes⟩, parsed⟩ := parse_permuted _ _ same
  obtain ⟨result', -⟩ := parsed π permutes extending {} "Foo/Baz"
  have moved : π 0 = 1 := by
    have found := permutes.entry 0 "Foo" (by decide +kernel)
    revert found
    generalize π 0 = slot
    revert slot
    decide +kernel
  have kept : π 2 = 2 := permutes.free 2 (by decide +kernel)
  refine ⟨same, result, result'.trans ?_⟩
  rw [result]
  refine congrArg (fun d => Except.ok (Quantity.mk d 1)) ?_
  have first := Dimension.permute_extension (π := π) 0
  have second := Dimension.permute_extension (π := π) 2
  rw [moved] at first
  rw [kept] at second
  exact Dimension.permute_div.trans (congrArg₂ _ first second)

end Parser

end Metrology
