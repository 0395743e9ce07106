import Metrology.Proofs.CommandLine.Arguments
import Metrology.Proofs.CommandLine.Reports
import Metrology.Proofs.Expression.UnitTexts
import Metrology.Proofs.Number.Written
import Metrology.Proofs.Parser.Acceptance

/-!
# Runs of the command line

A run with fit arguments evaluates them from the left to the right, with the lines of its input
where they ask for a conversation, all with one parser that starts from a fresh registry.  It writes
the reports in their order, and its exit status says whether a parse failed (`run_reports`).
-/

namespace Metrology.CommandLine

variable {argv : List String} {read : FileReader} {plan : Plan}

/-- The reports of a run. -/
def Plan.reports (plan : Plan) (input : String) (terminal : Bool) : List Report :=
  CommandLine.reports plan.session.parser (script terminal (inputLines input) plan.expressions)

/-- The outcome of a run whose reports have the texts. -/
def Plan.outcome (plan : Plan) (reports : List Report) (texts : List String) : Outcome where
  exit := if reports.all Report.succeeded then 0 else 1
  output := String.join texts
  errors := Log.lines plan.level (plan.log ++ reports.flatMap Report.log)

theorem fixed_of_format {a : Arguments} {f : Engineering.Format} (h : a.format = .ok f) :
    f.fixed = false := by
  unfold Arguments.format at h
  split at h
  · cases h
  · unfold Engineering.Format.withDigits at h
    split_ifs at h
    · cases h
      rfl
    · cases h

/-- A plan starts with a fresh registry, and its format has no zeros at the end of fractions. -/
theorem session_of_make (h : Plan.make argv read = .ok plan) :
    ∃ o f, plan.session = { parser := { options := o }, format := f } ∧ f.fixed = false := by
  unfold Plan.make at h
  split at h
  · cases h
  · cases h
  · cases h
  · split_ifs at h
    obtain ⟨f, format, h⟩ := bind_eq_ok_iff.1 h
    obtain ⟨base, -, h⟩ := bind_eq_ok_iff.1 h
    obtain ⟨o, -, h⟩ := bind_eq_ok_iff.1 h
    cases h
    exact ⟨o, f, rfl, fixed_of_format format⟩

/-- A plan is run by taking the entries of its script. -/
theorem Plan.run_eq (plan : Plan) (fresh : plan.session.succeeded = true) (input : String)
    (terminal : Bool) :
    plan.run input terminal =
      ((plan.reports input terminal).mapM (Report.text plan.session.format)).map
        (plan.outcome (plan.reports input terminal)) := by
  rw [run, Session.evaluate_eq_perform, Session.perform_eq, ← reports]
  cases (plan.reports input terminal).mapM (Report.text plan.session.format) with
  | error fault => rfl
  | ok texts =>
    simp only [Except.map, Session.written, Session.exit, fresh, Bool.true_and]
    rfl

theorem run_of_make (h : Plan.make argv read = .ok plan) (input : String) (terminal : Bool) :
    CommandLine.run argv read input terminal = (plan.run input terminal).mapError Error.text := by
  rw [CommandLine.run, h]

/-- A run evaluates the entries of its script one after another with one parser, which starts with a
fresh registry.  It writes their reports in their order, and its exit status is zero if no parse
failed and one otherwise.  A run has an outcome if each of its reports can be written, and none if
one of them cannot. -/
theorem run_reports (h : Plan.make argv read = .ok plan) (input : String) (terminal : Bool) :
    plan.session.parser = { options := plan.session.parser.options } ∧
    run argv read input terminal =
      (((plan.reports input terminal).mapM (Report.text plan.session.format)).map
        (plan.outcome (plan.reports input terminal))).mapError Error.text ∧
    ((∃ outcome, run argv read input terminal = .ok outcome) ↔
      ∀ report ∈ plan.reports input terminal, report.IsWritable plan.session.format) := by
  obtain ⟨o, f, session, general⟩ := session_of_make h
  have ran := (run_of_make h input terminal).trans
    (congrArg _ (plan.run_eq (by rw [session]) input terminal))
  refine ⟨by rw [session], ran, ?_⟩
  have general' : plan.session.format.fixed = false := by rw [session]; exact general
  have fresh : ∃ ops, plan.session.parser.registry = Registry.run ops := ⟨[], by rw [session]; rfl⟩
  have writable := exists_texts_iff general' fresh
    (script terminal (inputLines input) plan.expressions)
  rw [← Plan.reports] at writable
  rw [ran, ← writable]
  cases (plan.reports input terminal).mapM (Report.text plan.session.format) with
  | error fault => exact iff_of_false (by rintro ⟨_, ⟨⟩⟩) (by rintro ⟨_, ⟨⟩⟩)
  | ok texts => exact iff_of_true ⟨_, rfl⟩ ⟨texts, rfl⟩

/-- A run of two expressions with a conversation between them. -/
theorem run_reports_conversation :
    ∃ plan, Plan.make ["3 m", "-", "m/s/s"] (fun _ => .ok "") = .ok plan ∧
      plan.session.parser = { options := plan.session.parser.options } ∧
      run ["3 m", "-", "m/s/s"] (fun _ => .ok "") "5 kg\nquit\n" true =
        (((plan.reports "5 kg\nquit\n" true).mapM (Report.text plan.session.format)).map
          (plan.outcome (plan.reports "5 kg\nquit\n" true))).mapError Error.text ∧
      ((∃ outcome, run ["3 m", "-", "m/s/s"] (fun _ => .ok "") "5 kg\nquit\n" true =
          .ok outcome) ↔
        ∀ report ∈ plan.reports "5 kg\nquit\n" true, report.IsWritable plan.session.format) := by
  have plain : ∀ argument ∈ ["3 m", "-", "m/s/s"], IsPlain argument := by
    rw [List.forall_mem_cons, List.forall_mem_cons, List.forall_mem_singleton]
    exact ⟨.inl (by decide), .inr rfl, .inl (by decide)⟩
  have made := make_of_isPlain plain (List.cons_ne_nil _ _) fun _ => .ok ""
  exact ⟨_, made, run_reports made _ _⟩

/-! ## Exponents with too many digits -/

open Expression

/-- The numeral of `10 ^ 4299`, which has as many digits as a numeral can have. -/
def longNumeral : Whole.Numeral := .signed (10 ^ 4299) (by decide +kernel)

def tenNumeral : Whole.Numeral := .signed 10 (by decide +kernel)

/-- The tree `(!m+1…)+10` of a metre to the power of `10 ^ 4299`, to the power of ten. -/
def longPower : Tree where
  coefficient := none
  term := .single <|
    .group none (.single (.unit none ⟨['m'], by decide⟩ (some longNumeral))) (some tenNumeral)
  valid := rfl

/-- The quantity of `longPower`. -/
def longPowerQuantity : Quantity := longPower.expression.value ({} : Registry).quantity

theorem dimension_longPowerQuantity :
    longPowerQuantity.dimension = (Dimension.length ^ (10 ^ 4299 : Int)) ^ (10 : Int) := by
  have dimension : longPowerQuantity.dimension =
      (Dimension.length ^ longNumeral.value) ^ tenNumeral.value := rfl
  rw [dimension, longNumeral, tenNumeral, Whole.Numeral.value_signed, Whole.Numeral.value_signed]

/-- The dimension of the quantity has no name, and its exponent has 4301 digits. -/
theorem symbol_longPowerQuantity :
    longPowerQuantity.symbol {} = .error .tooManyDigits := by
  have unnamed : ({} : Registry).name? longPowerQuantity.dimension = none := by
    rw [dimension_longPowerQuantity]
    decide +kernel
  have long : longPowerQuantity.dimension.isWritable = false := by
    rw [dimension_longPowerQuantity]
    decide +kernel
  rw [Quantity.symbol, Registry.symbol_of_unnamed (.inr unnamed)]
  exact (Registry.baseSymbol_run [] _).trans (if_neg (Bool.eq_false_iff.1 long))

theorem parse_longPower :
    (({} : Parser).parse (String.ofList (longPower.text '!'))).result = .ok longPowerQuantity ∧
      (({} : Parser).parse (String.ofList (longPower.text '!'))).parser.registry = {} := by
  have parsed := ({} : Parser).parse_text longPower
  rw [Parser.evaluated, evaluate_eq] at parsed
  have answer : (({} : Parser).parse (String.ofList (longPower.text '!'))).answer =
      (.ok longPowerQuantity, {}) := parsed
  rwa [Parser.Parsed.answer, Prod.mk.injEq, mapError_eq_ok_iff] at answer

theorem reportText_longPower (f : Engineering.Format) (expression : String) :
    reportText f expression (({} : Parser).parse (String.ofList (longPower.text '!'))) =
      .error .tooManyDigits := by
  obtain ⟨result, registry⟩ := parse_longPower
  rw [reportText, result]
  dsimp only
  rw [registry, Engineering.Format.text, Engineering.Format.parts, symbol_longPowerQuantity]
  rfl

/-- An expression that is parsed without a fault can end a run without an outcome, so that the
expressions after it are not evaluated: its quantity cannot be written. -/
theorem run_longPower :
    (({} : Parser).parse (String.ofList (longPower.text '!'))).result = .ok longPowerQuantity ∧
      run [String.ofList (longPower.text '!'), "3 m"] (fun _ => .ok "") "" false =
        .error (.text .tooManyDigits) := by
  refine ⟨parse_longPower.1, ?_⟩
  have first : (String.ofList (longPower.text '!')).toList.head? ≠ some '-' := by
    rw [String.toList_ofList]
    rintro ⟨⟩
  have plain : ∀ argument ∈ [String.ofList (longPower.text '!'), "3 m"], IsPlain argument := by
    rw [List.forall_mem_cons, List.forall_mem_singleton]
    exact ⟨.inl first, .inl (by decide)⟩
  have conversation : String.ofList (longPower.text '!') ≠ conversationArgument := by
    intro same
    rw [same] at first
    exact first rfl
  have made := make_of_isPlain plain (List.cons_ne_nil _ _) fun _ => .ok ""
  rw [run_of_make made, Plan.run_eq _ rfl, Plan.reports, script, if_neg conversation, reports,
    List.mapM_cons, Entry.report, Report.text, reportText_longPower]
  rfl

end Metrology.CommandLine
