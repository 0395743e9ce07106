import Metrology.Expression.Reader
import Metrology.Registry

/-!
# The unit parser

A parser holds options, a registry and the state of its last parse.  `Parser.parse` reads a text
and takes the steps of the reading on the registry, in order and up to the first name that has no
unit.  Requests for units never change what is read, so the syntax is read first and as a whole.
-/

namespace Metrology

/-! ## Errors -/

/-- Why a text has no quantity. -/
inductive ParseFault where
  | expression (fault : Expression.SyntaxFault)
  | unit (fault : UnitFault)
deriving DecidableEq, Repr

/-- The wording of a fault at a position. -/
def ParseFault.message (position : Nat) : ParseFault → String
  | .expression fault => fault.message position
  | .unit fault => fault.message

def ParseFault.family : ParseFault → Family
  | .expression _ => .expression
  | .unit _ => .unit

def ParseFault.code : ParseFault → Option String
  | .expression _ => Family.expression.code
  | .unit fault => some fault.code

/-- A parse that failed. -/
structure ParseError where
  fault : ParseFault
  /-- The text as it was given. -/
  source : String
  /-- The text without the blanks around it. -/
  text : String
  /-- The column of the fault, counted from one. -/
  position : Nat
deriving DecidableEq, Repr

namespace ParseError

def message (e : ParseError) : String :=
  s!"quantity: parsing unit '{e.source}': {e.fault.message e.position}"

/-- A caret below the column of a position. -/
def caretAt (position : Int) : String :=
  String.ofList (List.replicate (position - 1).toNat ' ') ++ "^"

/-- A caret below the column of the fault. -/
def caret (e : ParseError) : String := caretAt e.position

end ParseError

/-! ## Steps on a registry -/

/-- What the steps of a reading leave behind. -/
structure Replay where
  /-- The trace. -/
  notes : List Expression.Note
  registry : Registry
  log : List Log.Record
  /-- The request that failed: why, and how many characters were left. -/
  failure : Option (UnitFault × Nat)

/-- The record of a line of the trace. -/
def noteRecord (note : Expression.Note) : Log.Record := ⟨.debug, .parser, note.line⟩

/-- The records of a line of the trace: there are none without the option `debug`. -/
def noteRecords (o : Options) (note : Expression.Note) : List Log.Record :=
  if o.debug then [noteRecord note] else []

/-- Takes the steps of a reading, up to the first request that fails. -/
def replay (o : Options) (r : Registry) : List Expression.Step → Replay
  | [] => ⟨[], r, [], none⟩
  | .note note :: steps =>
    let rest := replay o r steps
    ⟨note :: rest.notes, rest.registry, noteRecords o note ++ rest.log, rest.failure⟩
  | .request name left :: steps =>
    let answer := r.unit name o.extend
    match answer.result with
    | .error fault => ⟨[], answer.registry, answer.log, some (fault, left)⟩
    | .ok _ =>
      let rest := replay o answer.registry steps
      ⟨rest.notes, rest.registry, answer.log ++ rest.log, rest.failure⟩

/-- The quantity of a name that the registry knows. -/
def Registry.quantity (r : Registry) (name : String) : Quantity :=
  (r.find? name).getD Quantity.one

/-! ## Parsers -/

/-- What a parser remembers of its last parse. -/
structure ParserState where
  /-- The coefficient in front, the 45 of `45 km/h`. -/
  numericalValue : Float := 1
  prefixFactor : Float := 1
  inputText : String := ""
  /-- The column where the reading ended, counted from one. -/
  inputPosition : Nat := 0
  trace : List Expression.Note := []
deriving DecidableEq

namespace ParserState

/-- The state at the start of a parse.  The text and the position are still those of the last
one. -/
def start (s : ParserState) (source : String) : ParserState :=
  { s with numericalValue := 1, prefixFactor := 1, trace := [.start source] }

/-- The state before the first character of a text. -/
def load (s : ParserState) (text : List Char) : ParserState :=
  { s with inputText := String.ofList text, inputPosition := 0 }

/-- Nothing is left of the last parse when the first character is read. -/
@[simp] theorem load_start (s : ParserState) (source : String) (text : List Char) :
    (s.start source).load text =
      { inputText := String.ofList text, trace := [.start source] } := rfl

end ParserState

/-- A parser. -/
structure Parser where
  options : Options := default
  registry : Registry := {}
  state : ParserState := {}
deriving DecidableEq

namespace Parser

instance : Inhabited Parser := ⟨{}⟩

/-- The outcome of a parse. -/
structure Parsed where
  result : Except ParseError Quantity
  parser : Parser
  log : List Log.Record

/-- The magnitude of the unit of a quantity with a coefficient. -/
def unitMagnitude (q : Quantity) (coefficient : Float) : Float :=
  if coefficient == 0 then Magnitude.nan else (q.overNumber coefficient).value

/-- The column of a place, `left` characters before the end of a text. -/
def column (text : List Char) (left : Nat) : Nat := text.length + 1 - left

/-- Fails on a text that holds a zero character after `i` others, before anything is read. -/
def refuse (p : Parser) (source : String) (text : List Char) (i : Nat) : Parsed :=
  { result := .error ⟨.expression .endInText, source, String.ofList text, i + 1⟩
    parser := { p with state := (p.state.start source).load text }
    log := noteRecords p.options (.start source) }

/-- Reads a text and takes the steps of the reading on the registry. -/
def parseText (p : Parser) (source : String) (text : List Char) : Parsed :=
  let outcome := Expression.read p.options text
  let run := replay p.options p.registry (.note (.start source) :: outcome.steps)
  let numericalValue := outcome.coefficient.getD 1
  let stopped (left : Nat) : ParserState :=
    { (p.state.start source).load text with
      numericalValue, inputPosition := column text left, trace := run.notes }
  let failed (fault : ParseFault) (place left : Nat) : Parsed :=
    { result := .error ⟨fault, source, String.ofList text, column text place⟩
      parser := { p with registry := run.registry, state := stopped left }
      log := run.log }
  match run.failure, outcome.result with
  | some (fault, left), _ => failed (.unit fault) left left
  | none, .error e => failed (.expression e.fault) e.place e.left
  | none, .ok e =>
    let q := (e.value run.registry.quantity).scale numericalValue
    let state := { stopped 0 with prefixFactor := unitMagnitude q numericalValue }
    { result := .ok q
      parser := { p with registry := run.registry, state }
      log := run.log }

/-- Parses a text; blanks around it do not count. -/
def parse (p : Parser) (source : String) : Parsed :=
  let text := Text.trim source.toList
  match text.findIdx? (· = '\x00') with
  | some i => p.refuse source text i
  | none => p.parseText source text

/-- Sets one option; a value that does not fit leaves the parser as it is. -/
def set (p : Parser) (name : String) (value : Json) : Except (List Options.Problem) Parser :=
  (p.options.update [(name, value)]).map fun o => { p with options := o }

/-- The parser with a registry that forgot all units and names of its own. -/
def resetRegistry (p : Parser) : Parser := { p with registry := p.registry.reset }

/-! ## Trials -/

/-- What a trial of a text reports, whether the text has a quantity or not. -/
structure Trial where
  quantity : Option Quantity
  numericalValue : Float
  prefixFactor : Float
  error : Option ParseError
deriving DecidableEq

def Trial.succeeded (t : Trial) : Bool := t.error.isNone

/-- The report of a parse. -/
def Parsed.trial (parsed : Parsed) : Trial where
  quantity := parsed.result.toOption
  numericalValue := parsed.parser.state.numericalValue
  prefixFactor := parsed.parser.state.prefixFactor
  error :=
    match parsed.result with
    | .ok _ => none
    | .error e => some e

/-! ## Single texts -/

def quantity (p : Parser) (source : String) : Except ParseError Quantity := (p.parse source).result

/-- The unit of a text: `45 km/h` gives one kilometer per hour. -/
def unit (p : Parser) (source : String) : Except ParseError Quantity :=
  let parsed := p.parse source
  parsed.result.map fun q => q.overNumber parsed.parser.state.numericalValue

def numericalValue (p : Parser) (source : String) : Except ParseError Float :=
  let parsed := p.parse source
  parsed.result.map fun _ => parsed.parser.state.numericalValue

end Parser

end Metrology
