import Metrology.CommandLine.Run
import Metrology.Proofs.CommandLine.Script

/-!
# Arguments without options

Arguments that do not look like options are the expressions of a run, which then has the default
options and six significant digits (`make_of_isPlain`).
-/

namespace Metrology.CommandLine

variable {argument : String} {argv : List String}

/-- An argument that is no option and no divider. -/
def IsPlain (argument : String) : Prop :=
  argument.toList.head? ≠ some '-' ∨ argument = conversationArgument

theorem read_of_isPlain (h : IsPlain argument) :
    Argument.read argument = .ok (.value argument) := by
  unfold Argument.read
  rcases h with h | rfl
  · dsimp only
    rw [decide_eq_true h, Bool.true_or, if_pos rfl]
  · rfl

theorem ne_divider (h : IsPlain argument) : argument ≠ "--" := by
  rintro rfl
  rcases h with h | h
  · exact h rfl
  · exact absurd h (by decide)

theorem readAll_of_isPlain (h : ∀ argument ∈ argv, IsPlain argument) :
    Argument.readAll argv = .ok (argv.map .value) := by
  induction argv with
  | nil => rfl
  | cons argument argv ih =>
    rw [List.forall_mem_cons] at h
    rw [Argument.readAll, read_of_isPlain h.1, ih h.2]
    · rfl
    · exact ne_divider h.1

theorem read_values (p : Progress) (front : List Argument) (values : List String) :
    p.read front (values.map .value) =
      .ok (p.takeValues (front.reverse ++ values.map .value)) := by
  induction values generalizing front with
  | nil =>
    rw [List.map_nil, List.append_nil]
    rfl
  | cons s values ih =>
    have next := ih (.value s :: front)
    rw [List.reverse_cons, List.append_assoc] at next
    exact next

/-- Arguments that are no options are the expressions. -/
theorem arguments_of_isPlain (h : ∀ argument ∈ argv, IsPlain argument) :
    Arguments.read argv = .ok { expressions := argv } := by
  have noDivider : "--" ∉ argv := fun member => ne_divider (h _ member) rfl
  have texts : (argv.map Argument.value).map Argument.text = argv := by
    rw [List.map_map]
    exact List.map_id argv
  rw [Arguments.read, readAll_of_isPlain h]
  change (Progress.read {} [] _ >>= _) = _
  rw [read_values, List.reverse_nil, List.nil_append, Progress.takeValues, texts,
    List.erase_of_not_mem noDivider]
  cases argv with
  | nil => rfl
  | cons a argv => rfl

/-- Arguments that are no options are evaluated with the default options and six digits. -/
theorem make_of_isPlain (h : ∀ argument ∈ argv, IsPlain argument) (ne : argv ≠ [])
    (read : FileReader) :
    Plan.make argv read = .ok
      { session := { format := { micro := "u" } }, expressions := argv, level := .warning } := by
  have options : Arguments.options { expressions := argv } default = .ok default := by
    have kept : (default : Options).update [] = .ok default := by decide +kernel
    rw [Arguments.options]
    change ((default : Options).update []).mapError _ = _
    rw [kept]
    rfl
  have format : Arguments.format { expressions := argv } = .ok { micro := "u" } := by rfl
  have base : Arguments.fileOptions { expressions := argv } read = .ok default := rfl
  rw [Plan.make, arguments_of_isPlain h]
  dsimp only
  rw [List.isEmpty_eq_false_iff.2 ne, if_neg Bool.false_ne_true, format, ok_bind, base]
  simp only [Except.mapError, ok_bind, options]
  rfl
end Metrology.CommandLine
