import Metrology.Proofs.Parser.ExtendOption

/-!
# The option for dimensionless numbers

With the option `dimensionless`, a factor may be missing where no unit starts.  It is missing only
where the reading without the option fails, so that a parse that succeeds without the option ends in
the same way with it (`Parser.parse_dimensionless`).
-/

namespace Metrology

open Expression

variable {o o' : Options}

/-- Of the options, the steps of a reading look at `debug` and `extend` alone. -/
theorem replay_congr (debug : o.debug = o'.debug) (extend : o.extend = o'.extend) (r : Registry)
    (steps : List Step) : replay o' r steps = replay o r steps := by
  induction steps generalizing r with
  | nil => rfl
  | cons step steps ih =>
    cases step with
    | note note => simp only [replay, noteRecords, ih, debug]
    | request name left => simp only [replay, ih, extend]

namespace Parser

/-- The parser with the option `dimensionless` on or off. -/
def withDimensionless (p : Parser) (dimensionless : Bool) : Parser :=
  { p with options := { p.options with dimensionless } }

variable {p : Parser} {source : String} {text : List Char} {q : Quantity}

/-- A parse that succeeds without the option has the same outcome with it. -/
theorem parseText_of_strict_ok
    (h : ((p.withDimensionless false).parseText source text).result = .ok q) :
    (p.withDimensionless true).parseText source text =
      ((p.withDimensionless false).parseText source text).withOptions
        (p.withDimensionless true).options := by
  obtain ⟨e, result⟩ := exists_read_of_parseText_ok h
  have reads : read (p.withDimensionless true).options text =
      read (p.withDimensionless false).options text := read_eq_of_ok rfl rfl result
  have debug : (p.withDimensionless false).options.debug =
      (p.withDimensionless true).options.debug := rfl
  have extend : (p.withDimensionless false).options.extend =
      (p.withDimensionless true).options.extend := rfl
  have registry : (p.withDimensionless true).registry = (p.withDimensionless false).registry := rfl
  refine parseText_congr reads ?_
  rw [taken, taken, reads, registry]
  exact replay_congr debug extend _ _

theorem parse_of_strict_ok (h : ((p.withDimensionless false).parse source).result = .ok q) :
    (p.withDimensionless true).parse source =
      ((p.withDimensionless false).parse source).withOptions
        (p.withDimensionless true).options := by
  have zero := zero_notMem_of_parse_ok h
  rw [parse_of_zero_notMem zero] at h ⊢
  rw [parse_of_zero_notMem zero]
  exact parseText_of_strict_ok h

/-- The option `dimensionless` is conservative.  Where a parse without it succeeds, the parse with
it returns the same quantity, and leaves the same state, registry and log.  So a text that is
rejected with the option is rejected without it. -/
theorem parse_dimensionless (p : Parser) (source : String) :
    let off := (p.withDimensionless false).parse source
    let on := (p.withDimensionless true).parse source
    (∀ q, off.result = .ok q →
      on.result = .ok q ∧ on.parser.state = off.parser.state ∧
        on.parser.registry = off.parser.registry ∧ on.log = off.log) ∧
    ∀ e, on.result = .error e → ∃ e', off.result = .error e' := by
  intro off on
  have conservative (q : Quantity) (ok : off.result = .ok q) :
      on = off.withOptions (p.withDimensionless true).options := parse_of_strict_ok ok
  refine ⟨fun q ok => ?_, fun e rejected => ?_⟩
  · rw [conservative q ok, Parsed.result_withOptions, Parsed.state_withOptions,
      Parsed.registry_withOptions, Parsed.log_withOptions]
    exact ⟨ok, rfl, rfl, rfl⟩
  · cases result : off.result with
    | error e' => exact ⟨e', rfl⟩
    | ok q =>
      have accepted : on.result = .ok q := by
        rw [conservative q result, Parsed.result_withOptions]
        exact result
      cases rejected.symm.trans accepted

end Parser

end Metrology
