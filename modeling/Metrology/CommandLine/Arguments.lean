import Metrology.Number.Whole
import Metrology.Text.Quoted

/-!
# Command line arguments

The options of the command line and the reading of its arguments.  An option may be shortened as
long as one option alone starts so, takes its value from after an equals sign or from the next
argument, and short ones can be written together.  The first run of arguments that are no options
holds the expressions; what follows a later option is not taken.
-/

namespace Metrology.CommandLine

/-! ## Options -/

/-- The options of the command line. -/
inductive Switch where
  | help | dimensionless | escape | extend | debug | version | config | digits
deriving DecidableEq, Repr

def Switch.spellings : Switch → List String
  | .help => ["-h", "--help"]
  | .dimensionless => ["-d", "--dimless", "--dimensionless"]
  | .escape => ["-e", "--escape"]
  | .extend => ["-x", "--extend"]
  | .debug => ["--debug"]
  | .version => ["--version"]
  | .config => ["--config"]
  | .digits => ["--digits"]

def Switch.takesValue : Switch → Bool
  | .escape | .config | .digits => true
  | .help | .dimensionless | .extend | .debug | .version => false

/-- An option in a message: all of its spellings. -/
def Switch.text (o : Switch) : String := "/".intercalate o.spellings

def allSpellings : List (String × Switch) :=
  [Switch.help, .dimensionless, .escape, .extend, .debug, .version, .config, .digits].flatMap
    fun o => o.spellings.map fun s => (s, o)

def Switch.ofSpelling? (s : String) : Option Switch :=
  (allSpellings.find? fun entry => entry.1 = s).map Prod.snd

/-! ## Faults -/

/-- What is wrong with the arguments. -/
inductive UsageFault where
  /-- More than one spelling starts with the argument. -/
  | ambiguous (argument : String) (spellings : List String)
  | noValue (o : Switch)
  | unwantedValue (o : Switch) (value : String)
  | notWhole (o : Switch) (value : String)
  | unrecognized (arguments : List String)
deriving DecidableEq, Repr

def UsageFault.message : UsageFault → String
  | .ambiguous argument spellings =>
    let listed := ", ".intercalate spellings
    s!"ambiguous option: {argument} could match {listed}"
  | .noValue o => s!"argument {o.text}: expected one argument"
  | .unwantedValue o value =>
    s!"argument {o.text}: ignored explicit argument {Text.quoted value}"
  | .notWhole o value => s!"argument {o.text}: invalid int value: {Text.quoted value}"
  | .unrecognized arguments =>
    let listed := " ".intercalate arguments
    s!"unrecognized arguments: {listed}"

/-! ## Kinds of arguments -/

/-- What an argument is.  The text that an option has in its own argument is attached to it. -/
inductive Argument where
  | value (text : String)
  /-- After the two hyphens all arguments are values. -/
  | divider
  | option (o : Switch) (long : Bool) (attached : Option (List Char))
  | unknown (text : String)

/-- The argument as it was written, for one that is no option. -/
def Argument.text : Argument → String
  | .value s => s
  | .divider => "--"
  | .unknown s => s
  | .option .. => ""

/-- Whether all characters are decimal digits, and there is one. -/
def isDigits (s : List Char) : Bool := !s.isEmpty && s.all Text.isDecimalDigit

/-- Whether a text is a hyphen and a decimal numeral, and is no option for that.  A line feed may
end it. -/
def isNegativeNumber (s : List Char) : Bool :=
  match s with
  | '-' :: s =>
    let s := if s.getLast? = some '\n' then s.dropLast else s
    isDigits s || (s.dropWhile Text.isDecimalDigit).head? = some '.' &&
      isDigits (s.dropWhile Text.isDecimalDigit).tail
  | _ => false

/-- The text before the first equals sign, and the text after it. -/
def splitEquals (s : List Char) : List Char × Option (List Char) :=
  match s.dropWhile (· != '=') with
  | [] => (s, none)
  | _ :: value => (s.takeWhile (· != '='), some value)

/-- The options that an argument may be a shortened spelling of, or a single letter with more
behind it. -/
def candidates (s : List Char) : List (String × Switch × Option (List Char)) :=
  match s with
  | '-' :: '-' :: _ =>
    let (front, attached) := splitEquals s
    (allSpellings.filter fun entry => front.isPrefixOf entry.1.toList).map
      fun entry => (entry.1, entry.2, attached)
  | '-' :: c :: rest =>
    (allSpellings.filter fun entry => entry.1 = String.ofList ['-', c]).map
      fun entry => (entry.1, entry.2, some rest)
  | _ => []

/-- Whether a spelling is a long one. -/
def isLong (spelling : List Char) : Bool := spelling.tail.head? = some '-'

/-- What an argument before the two hyphens is. -/
def Argument.read (argument : String) : Except UsageFault Argument :=
  let s := argument.toList
  if s.head? ≠ some '-' || s.length = 1 then .ok (.value argument)
  else
    let (front, attached) := splitEquals s
    match Switch.ofSpelling? argument, Switch.ofSpelling? (String.ofList front) with
    | some o, _ => .ok (.option o (isLong s) none)
    | none, some o => .ok (.option o (isLong front) attached)
    | none, none =>
      match candidates s with
      | [(spelling, o, attached)] => .ok (.option o (isLong spelling.toList) attached)
      | [] =>
        if isNegativeNumber s || s.contains ' ' then .ok (.value argument)
        else .ok (.unknown argument)
      | several => .error (.ambiguous argument (several.map Prod.fst))

def Argument.readAll : List String → Except UsageFault (List Argument)
  | [] => .ok []
  | "--" :: rest => .ok (.divider :: rest.map .value)
  | s :: rest => do return (← Argument.read s) :: (← Argument.readAll rest)

/-! ## Reading -/

/-- The value of an option. -/
inductive OptionValue where
  | text (s : String)
  /-- Two hyphens stand for no value. -/
  | missing
deriving DecidableEq, Repr

/-- The value that a text stands for. -/
def OptionValue.ofString (s : String) : OptionValue := if s = "--" then .missing else .text s

/-- The text of a value, unless it is missing. -/
def OptionValue.text? : OptionValue → Option String
  | .text s => some s
  | .missing => none

/-- Whether a value is a single character. -/
def OptionValue.isCharacter : OptionValue → Bool
  | .text s => s.length = 1
  | .missing => false

def OptionValue.shown : OptionValue → String
  | .text s => s
  | .missing => "[]"

/-- What the command line asks for. -/
structure Arguments where
  dimensionless : Bool := false
  extend : Bool := false
  debug : Bool := false
  escape : Option OptionValue := none
  config : Option OptionValue := none
  /-- The number of significant digits, unless its value is missing. -/
  digits : Option Int := some 6
  expressions : List String := []
deriving DecidableEq, Repr

/-- Why there is nothing to evaluate. -/
inductive Stop where
  | help
  | version
  | fault (fault : UsageFault)
deriving DecidableEq, Repr

/-- Sets an option that has no value. -/
def Arguments.setFlag (a : Arguments) : Switch → Except Stop Arguments
  | .help => .error .help
  | .version => .error .version
  | .dimensionless => .ok { a with dimensionless := true }
  | .extend => .ok { a with extend := true }
  | .debug => .ok { a with debug := true }
  | .escape | .config | .digits => .ok a

/-- The number of digits that a value asks for. -/
def readDigits : OptionValue → Except Stop (Option Int)
  | .missing => .ok none
  | .text s =>
    match Whole.readTyped? s.toList with
    | some n => .ok (some n)
    | none => .error (.fault (.notWhole .digits s))

def Arguments.setValue (a : Arguments) (o : Switch) (value : OptionValue) :
    Except Stop Arguments :=
  match o with
  | .escape => .ok { a with escape := some value }
  | .config => .ok { a with config := some value }
  | .digits => (readDigits value).map fun digits => { a with digits }
  | .help | .version | .dimensionless | .extend | .debug => .ok a

/-- The options that one argument holds. -/
structure Cluster where
  /-- Options without a value. -/
  flags : List Switch
  /-- An option with a value, and the value if it is in the same argument. -/
  last : Option (Switch × Option OptionValue)

/-- Takes the options of one argument apart.  Behind a short option without a value stands the
letter of a further one. -/
def Cluster.read (o : Switch) (long : Bool) : Option (List Char) → Except UsageFault Cluster
  | none => .ok (if o.takesValue then ⟨[], some (o, none)⟩ else ⟨[o], none⟩)
  | some text =>
    if o.takesValue then .ok ⟨[], some (o, some (.ofString (String.ofList text)))⟩
    else
      match text with
      | [] => .error (.unwantedValue o "")
      | c :: rest =>
        match if long then none else Switch.ofSpelling? (String.ofList ['-', c]) with
        | none => .error (.unwantedValue o (String.ofList (c :: rest)))
        | some o' =>
          (Cluster.read o' false (if rest.isEmpty then none else some rest)).map fun cluster =>
            { cluster with flags := o :: cluster.flags }
termination_by text => (text.map fun s => s.length + 1).getD 0
decreasing_by split <;> simp

/-- What has been read of the command line. -/
structure Progress where
  arguments : Arguments := {}
  /-- Whether the expressions have been taken. -/
  hasExpressions : Bool := false
  /-- Arguments that belong to nothing. -/
  extras : List String := []

/-- Takes values in a row: the first ones are the expressions, without the two hyphens. -/
def Progress.takeValues (p : Progress) (values : List Argument) : Progress :=
  if values.isEmpty then p
  else if p.hasExpressions then { p with extras := p.extras ++ values.map Argument.text }
  else
    let expressions := (values.map Argument.text).erase "--"
    { p with arguments := { p.arguments with expressions }, hasExpressions := true }

/-- Sets options without a value, from the left to the right. -/
def Progress.setFlags (p : Progress) (flags : List Switch) : Except Stop Progress := do
  let arguments ← flags.foldlM Arguments.setFlag p.arguments
  return { p with arguments }

def Progress.setValue (p : Progress) (o : Switch) (value : OptionValue) :
    Except Stop Progress := do
  return { p with arguments := ← p.arguments.setValue o value }

/-- Reads arguments after the values in front of them, which are given in reverse. -/
def Progress.read (p : Progress) (front : List Argument) :
    List Argument → Except Stop Progress
  | [] => .ok (p.takeValues front.reverse)
  | .unknown s :: rest =>
    let p := p.takeValues front.reverse
    Progress.read { p with extras := p.extras ++ [s] } [] rest
  | .option o long attached :: rest => do
    let p := p.takeValues front.reverse
    let cluster ← (Cluster.read o long attached).mapError Stop.fault
    match cluster.last, rest with
    | none, rest => Progress.read (← p.setFlags cluster.flags) [] rest
    | some (o, some value), rest =>
      Progress.read (← (← p.setFlags cluster.flags).setValue o value) [] rest
    | some (o, none), .value s :: rest =>
      Progress.read (← (← p.setFlags cluster.flags).setValue o (.ofString s)) [] rest
    | some (o, none), _ => .error (.fault (.noValue o))
  | argument :: rest => Progress.read p (argument :: front) rest

/-- Reads the arguments of the command line. -/
def Arguments.read (argv : List String) : Except Stop Arguments := do
  let arguments ← (Argument.readAll argv).mapError Stop.fault
  let p ← Progress.read {} [] arguments
  if p.extras.isEmpty then return p.arguments
  else .error (.fault (.unrecognized p.extras))

end Metrology.CommandLine
