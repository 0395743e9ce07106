import Metrology.Proofs.Expression.ReadingOptions
import Metrology.Proofs.Parser.Growth

/-!
# The option to extend

The option `extend` counts only where a request meets a name without a unit.  As long as none does,
the steps of a reading are the same with and without it (`replay_of_granted`), and what is read
does not depend on it.  So a parse that succeeds without the option, or fails for its syntax, ends
in the same way with the option (`Parser.parse_extended`).
-/

namespace Metrology

open Expression

variable {o o' : Options}

/-! ## Steps -/

/-- Steps that are all taken without the permission to extend the registry do not change it, and
are taken in the same way with that permission. -/
theorem replay_of_granted (off : o.extend = false) (debug : o.debug = o'.debug) (r : Registry)
    (steps : List Step) (granted : (replay o r steps).failure = none) :
    replay o' r steps = replay o r steps ∧ (replay o r steps).registry = r := by
  induction steps with
  | nil => exact ⟨rfl, rfl⟩
  | cons step steps ih =>
    cases step with
    | note note =>
      obtain ⟨same, kept⟩ := ih granted
      refine ⟨?_, kept⟩
      simp only [replay, noteRecords, same, debug]
    | request name left =>
      -- A known unit is answered before the option is looked at, and defines nothing.
      cases known : r.find? name with
      | none =>
        rw [replay, off, Registry.unit_of_refused known (.inl rfl)] at granted
        cases granted
      | some q =>
        simp only [replay, Registry.unit_of_find? known] at granted ⊢
        obtain ⟨same, kept⟩ := ih granted
        simp only [same, kept, and_self]

/-! ## Parses -/

namespace Parser

/-- The parser with the option `extend` on or off. -/
def withExtend (p : Parser) (extend : Bool) : Parser :=
  { p with options := { p.options with extend } }

/-- The same outcome, of a parser with other options. -/
def Parsed.withOptions (parsed : Parsed) (o : Options) : Parsed :=
  { parsed with parser := { parsed.parser with options := o } }

@[simp] theorem Parsed.result_withOptions (parsed : Parsed) :
    (parsed.withOptions o).result = parsed.result := rfl

@[simp] theorem Parsed.state_withOptions (parsed : Parsed) :
    (parsed.withOptions o).parser.state = parsed.parser.state := rfl

@[simp] theorem Parsed.registry_withOptions (parsed : Parsed) :
    (parsed.withOptions o).parser.registry = parsed.parser.registry := rfl

@[simp] theorem Parsed.log_withOptions (parsed : Parsed) :
    (parsed.withOptions o).log = parsed.log := rfl

/-- A parse that ends without a fault of a unit. -/
def Parsed.IsGranted (parsed : Parsed) : Prop :=
  ∀ e fault, parsed.result = .error e → e.fault ≠ .unit fault

variable {p p' : Parser} {source : String} {text : List Char}

/-- What becomes of a parse depends on what is read and on the steps that are taken. -/
theorem parseText_congr (reads : read p'.options text = read p.options text)
    (takes : p'.taken source text = p.taken source text) :
    p'.parseText source text = (p.parseText source text).withOptions p'.options := by
  unfold taken at takes
  rw [reads] at takes
  unfold parseText
  simp only [reads, takes]
  split <;> rfl

/-- Without a fault of a unit, no request failed. -/
theorem failure_of_isGranted (h : (p.parseText source text).IsGranted) :
    (p.taken source text).failure = none := by
  cases failure : (p.taken source text).failure with
  | none => rfl
  | some refused =>
    obtain ⟨fault, left⟩ := refused
    rw [parseText_of_refused failure] at h
    exact absurd rfl (h _ fault rfl)

/-- A parse without the option and without a fault of a unit leaves the registry as it was, and
has the same outcome with the option. -/
theorem parseText_of_isGranted (h : ((p.withExtend false).parseText source text).IsGranted) :
    (p.withExtend true).parseText source text =
      ((p.withExtend false).parseText source text).withOptions (p.withExtend true).options ∧
    ((p.withExtend false).parseText source text).parser.registry = p.registry := by
  have alike : Alike (p.withExtend true).options (p.withExtend false).options := ⟨rfl, rfl⟩
  have debug : (p.withExtend false).options.debug = (p.withExtend true).options.debug := rfl
  obtain ⟨takes, kept⟩ := replay_of_granted rfl debug _ _ (failure_of_isGranted h)
  have reads := read_eq_of_alike alike text
  refine ⟨parseText_congr reads ?_, (registry_parseText _ source text).trans kept⟩
  rw [taken, reads]
  exact takes

theorem parse_of_isGranted (h : ((p.withExtend false).parse source).IsGranted) :
    (p.withExtend true).parse source =
      ((p.withExtend false).parse source).withOptions (p.withExtend true).options ∧
    ((p.withExtend false).parse source).parser.registry = p.registry := by
  unfold parse at h ⊢
  dsimp only at h ⊢
  split
  · exact ⟨rfl, rfl⟩
  · next endless =>
    rw [endless] at h
    exact parseText_of_isGranted h

/-- The option `extend` is conservative.  Where a parse without it succeeds, the parse with it
returns the same quantity, and both end in the same state and leave the registry as it was.  Where
a parse without it fails for its syntax, so does the parse with it, in the same way. -/
theorem parse_extended (p : Parser) (source : String) :
    let off := (p.withExtend false).parse source
    let on := (p.withExtend true).parse source
    (∀ q, off.result = .ok q →
      on.result = .ok q ∧ on.parser.state = off.parser.state ∧
        on.parser.registry = p.registry ∧ off.parser.registry = p.registry) ∧
    (∀ e fault, off.result = .error e → e.fault = .expression fault →
      on.result = .error e ∧ on.parser.state = off.parser.state ∧
        on.parser.registry = p.registry ∧ off.parser.registry = p.registry) := by
  intro off on
  have ends (granted : off.IsGranted) :
      on.result = off.result ∧ on.parser.state = off.parser.state ∧
        on.parser.registry = p.registry ∧ off.parser.registry = p.registry := by
    obtain ⟨same, kept⟩ := parse_of_isGranted granted
    refine ⟨(congrArg Parsed.result same).trans rfl, ?_, ?_, kept⟩
    · exact (congrArg (·.parser.state) same).trans rfl
    · exact (congrArg (·.parser.registry) same).trans kept
  refine ⟨fun q ok => ?_, fun e fault failed cause => ?_⟩
  · have granted : off.IsGranted := fun e fault failed => by
      rw [ok] at failed
      cases failed
    exact ok ▸ ends granted
  · have granted : off.IsGranted := fun e' fault' failed' => by
      obtain rfl := Except.error.inj (failed.symm.trans failed')
      rw [cause]
      exact ParseFault.noConfusion
    exact failed ▸ ends granted

end Parser

end Metrology
