import Metrology.Json.Reader
import Metrology.Options

/-!
# The schema of option files

A file of parser options is a JSON object.  The schema allows it the four options, each with a
value of its type, and a single character as the escape character; which characters fit is left
to `Options.ofJson?`.
-/

namespace Metrology.Options

/-- How a value breaks the schema. -/
inductive Violation where
  | notOfType (value : Json) (type : String)
  | unexpected (names : List String)
  | emptyText
  | textTooLong (text : String)

def Violation.message : Violation → String
  | .notOfType value type => s!"{value.describe} is not of type '{type}'"
  | .unexpected names =>
    let listed := ", ".intercalate (names.map Text.quoted)
    let verb := if names.length = 1 then "was" else "were"
    s!"Additional properties are not allowed ({listed} {verb} unexpected)"
  | .emptyText => "'' should be non-empty"
  | .textTooLong text => s!"{Text.quoted text} is too long"

/-- Texts in the order of their characters. -/
def sortTexts (texts : List String) : List String :=
  texts.mergeSort fun s t => decide (s ≤ t)

/-- The violations of an option that is a flag. -/
def flagViolations : Option Json → List Violation
  | none | some (.bool _) => []
  | some value => [.notOfType value "boolean"]

def escapeViolations : Option Json → List Violation
  | none => []
  | some (.text s) =>
    if s.isEmpty then [.emptyText] else if 1 < s.length then [.textTooLong s] else []
  | some value => [.notOfType value "string"]

/-- The violations of the names in an object. -/
def nameViolations (ms : List (String × Json)) : List Violation :=
  if (unknownNames ms).isEmpty then [] else [.unexpected (sortTexts (unknownNames ms))]

/-- All violations of a value, in the order of the rules of the schema. -/
def violations : Json → List Violation
  | .object ms =>
    nameViolations ms ++
      flagViolations (Json.member? ms "debug") ++
      flagViolations (Json.member? ms "extend") ++
      flagViolations (Json.member? ms "dimensionless") ++
      escapeViolations (Json.member? ms "escape")
  | value => [.notOfType value "object"]

/-- The wordings of all violations, in the order of their texts. -/
def violationMessages (value : Json) : List String :=
  sortTexts ((violations value).map Violation.message)

/-! ## Option files -/

/-- Why a text has no options. -/
inductive LoadFailure where
  | malformed (failure : Json.Failure)
  | violation (value : Json) (first : Violation)
  /-- The value keeps to the schema and has problems all the same. -/
  | invalid (value : Json) (problems : List Problem)

/-- Options from the text of a file. -/
def load? (text : List Char) : Except LoadFailure Options :=
  match Json.read? text with
  | .error failure => .error (.malformed failure)
  | .ok value =>
    match violations value with
    | first :: _ => .error (.violation value first)
    | [] =>
      match ofJson? value with
      | .error problems => .error (.invalid value problems)
      | .ok options => .ok options

end Metrology.Options
