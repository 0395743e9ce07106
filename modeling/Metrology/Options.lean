import Metrology.Json
import Metrology.Text.Alphanumeric
import Metrology.Text.Blank

/-!
# Options of the unit parser

The options that decide how a unit expression is read, and their validation: a JSON value gives
options, or the list of all problems it has.
-/

namespace Metrology

/-! ## The escape character -/

/-- The characters that unit expressions give a meaning to. -/
def reservedCharacters : List Char := ['.', '/', '(', ')', '+', '-', '\'']

/-- Whether `c` is no letter, digit or other numeral, no blank, and has no meaning in unit
expressions. -/
def isFreeCharacter (c : Char) : Bool :=
  !(Text.isAlphanumeric c || Text.isBlank c || reservedCharacters.contains c)

/-- Whether `c` can mark names in unit expressions. -/
def isEscape (c : Char) : Bool := isFreeCharacter c && c != '\x00'

/-! ## Options -/

/-- How unit expressions are read. -/
structure Options where
  /-- Whether the steps of the reading are logged. -/
  debug : Bool := false
  /-- Whether names without a unit become new units. -/
  extend : Bool := false
  /-- Whether a number alone is an expression. -/
  dimensionless : Bool := false
  /-- The character that marks a name, so that no prefix is read from it. -/
  escape : Char := '!'
  escape_fits : isEscape escape = true := by decide +kernel
deriving DecidableEq

namespace Options

instance : Inhabited Options := ⟨{}⟩

/-- The options as the members of an object. -/
def members (o : Options) : List (String × Json) := [
  ("debug", .bool o.debug),
  ("extend", .bool o.extend),
  ("dimensionless", .bool o.dimensionless),
  ("escape", .text o.escape.toString)]

def names : List String := (members {}).map Prod.fst

/-! ## Problems -/

/-- What is wrong with a value for an option. -/
inductive Fault where
  | notObject
  | notFlag
  | notText
  | textTooShort
  | textTooLong
  /-- The escape character has a meaning of its own. -/
  | escapeNotFree
  /-- The escape character is the one that ends every text. -/
  | escapeEndsText
  | unknownOption
deriving DecidableEq, Repr

def Fault.message : Fault → String
  | .notObject => "Input should be a valid dictionary or instance of ParserOptions"
  | .notFlag => "Input should be a valid boolean"
  | .notText => "Input should be a valid string"
  | .textTooShort => "String should have at least 1 character"
  | .textTooLong => "String should have at most 1 character"
  | .escapeNotFree =>
    "Value error, escape must not be a letter, digit, blank or operator character"
  | .escapeEndsText => "Value error, escape must not be the end-of-input character"
  | .unknownOption => "Extra inputs are not permitted"

def Fault.code : Fault → String
  | .notObject => "model_type"
  | .notFlag => "bool_type"
  | .notText => "string_type"
  | .textTooShort => "string_too_short"
  | .textTooLong => "string_too_long"
  | .escapeNotFree | .escapeEndsText => "value_error"
  | .unknownOption => "extra_forbidden"

/-- A fault and the option it is found at.  The name is empty for a value that holds no
options. -/
structure Problem where
  option : String
  fault : Fault
deriving DecidableEq, Repr

/-! ## Validation -/

/-- The flag that an option is set to, or else its default. -/
def readFlag (default : Bool) : Option Json → Except Fault Bool
  | none => .ok default
  | some (.bool b) => .ok b
  | some _ => .error .notFlag

/-- A character that can be the escape character. -/
abbrev Escape := {c : Char // isEscape c = true}

/-- The escape character that an option is set to, or else its default. -/
def readEscape (default : Escape) : Option Json → Except Fault Escape
  | none => .ok default
  | some (.text s) =>
    match s.toList with
    | [] => .error .textTooShort
    | [c] =>
      if h : isEscape c = true then .ok ⟨c, h⟩
      else .error (if isFreeCharacter c then .escapeEndsText else .escapeNotFree)
    | _ => .error .textTooLong
  | some _ => .error .notText

/-- The problem that a value of an option has. -/
def problem {α : Type} (option : String) : Except Fault α → List Problem
  | .ok _ => []
  | .error fault => [⟨option, fault⟩]

def unknownNames (ms : List (String × Json)) : List String :=
  (ms.map Prod.fst).filter fun name => !names.contains name

/-- Options from the members of an object; those that are left out have their defaults. -/
def ofMembers? (ms : List (String × Json)) : Except (List Problem) Options :=
  let debug := readFlag false (Json.member? ms "debug")
  let extend := readFlag false (Json.member? ms "extend")
  let dimensionless := readFlag false (Json.member? ms "dimensionless")
  let escape := readEscape ⟨'!', by decide +kernel⟩ (Json.member? ms "escape")
  match debug, extend, dimensionless, escape, unknownNames ms with
  | .ok debug, .ok extend, .ok dimensionless, .ok escape, [] =>
    .ok { debug, extend, dimensionless, escape := escape.1, escape_fits := escape.2 }
  | _, _, _, _, unknown =>
    .error (problem "debug" debug ++ problem "extend" extend ++
      problem "dimensionless" dimensionless ++ problem "escape" escape ++
      unknown.map fun name => ⟨name, .unknownOption⟩)

def ofJson? : Json → Except (List Problem) Options
  | .object ms => ofMembers? ms
  | _ => .error [⟨"", .notObject⟩]

/-- The options with some of them set anew. -/
def update (o : Options) (changes : List (String × Json)) : Except (List Problem) Options :=
  ofMembers? (changes.foldl (fun ms m => Json.insert ms m.1 m.2) o.members)

end Options

end Metrology
