import Metrology.CommandLine.Arguments
import Metrology.CommandLine.OptionFile
import Metrology.CommandLine.Session

/-!
# Runs of the command line

From arguments and input to an exit status and the texts of both output streams.  `Plan.make`
decides what is to be done before any expression is read, and `run` does it.
-/

namespace Metrology.CommandLine

/-- How a run ends. -/
structure Outcome where
  exit : Nat
  output : String := ""
  errors : String := ""
deriving DecidableEq, Repr

/-- A run with unfit arguments: the log so far, the usage and the reason. -/
def Outcome.refused (log : String) (message : String) : Outcome :=
  { exit := 2, errors := log ++ usage ++ s!"{programName}: error: {message}\n" }

abbrev FileReader := String → Except FileFault String

/-- The record of a file of options that was read. -/
def loadedRecord (path : String) : Log.Record :=
  ⟨.debug, .commandLine, s!"loaded parser options from {plainPath path}"⟩

namespace Arguments

def logLevel (a : Arguments) : Log.Level := if a.debug then .debug else .warning

/-- The path of the file of options; an empty or a missing one counts as none. -/
def configPath? (a : Arguments) : Option String :=
  (a.config.bind OptionValue.text?).filter (· ≠ "")

/-- The options of the file that the arguments name, if they name one. -/
def fileOptions (a : Arguments) (read : FileReader) : Except String Options :=
  match a.configPath? with
  | none => .ok default
  | some path =>
    let text := (read path).mapError (FileFault.message (plainPath path))
    (text.bind optionsOf).mapError fun reason => s!"invalid config file '{path}': {reason}"

def changes (a : Arguments) : List (String × Json) :=
  (if a.dimensionless then [("dimensionless", .bool true)] else []) ++
  (if a.extend then [("extend", .bool true)] else []) ++
  (if a.debug then [("debug", .bool true)] else []) ++
  match a.escape.bind OptionValue.text? with
  | some escape => [("escape", .text escape), ("extend", .bool true)]
  | none => []

/-- The options of a file with those that the arguments set. -/
def options (a : Arguments) (base : Options) : Except String Options :=
  match a.escape.filter (!·.isCharacter) with
  | some escape =>
    .error s!"expecting single character for option '--escape', got '{escape.shown}'"
  | none =>
    (base.update a.changes).mapError fun problems =>
      let reason := (problems.head?.map fun p => p.fault.message).getD ""
      s!"invalid parser options: {reason}"

end Arguments

/-- What a run is to do. -/
structure Plan where
  session : Session
  expressions : List String
  level : Log.Level
  /-- The records from before the first expression. -/
  log : List Log.Record := []

/-- Why there is nothing to plan. -/
inductive Ending where
  /-- The run is over. -/
  | outcome (outcome : Outcome)
  /-- The run has no outcome. -/
  | failure (error : Error)
deriving DecidableEq

/-- The format of the answers.  The micro sign is spelled `u`, so that they can be read back.  A
missing number of digits cannot be compared with one, so that there is no format for it. -/
def Arguments.format (a : Arguments) : Except Ending Engineering.Format :=
  match a.digits with
  | none => .error (.failure .unsupported)
  | some digits =>
    ({ (default : Engineering.Format) with micro := "u" }.withDigits digits).mapError fun _ =>
      .outcome (.refused "" "--digits must be at least 1")

def Plan.make (argv : List String) (read : FileReader) : Except Ending Plan :=
  match Arguments.read argv with
  | .error .help => .error (.outcome { exit := 0, output := help })
  | .error .version => .error (.outcome { exit := 0, output := s!"{programName} {version}\n" })
  | .error (.fault fault) => .error (.outcome (.refused "" fault.message))
  | .ok a =>
    if a.expressions.isEmpty then .error (.outcome { exit := 0, output := help })
    else do
      let format ← a.format
      let base ← (a.fileOptions read).mapError fun message => .outcome (.refused "" message)
      let log := (a.configPath?.map loadedRecord).toList
      let options ← (a.options base).mapError fun message =>
        .outcome (.refused (Log.lines a.logLevel log) message)
      return {
        session := { parser := { options }, format }
        expressions := a.expressions
        level := a.logLevel
        log }

/-- The exit status after the last expression. -/
def Session.exit (s : Session) : Nat := if s.succeeded then 0 else 1

def Plan.run (plan : Plan) (input : String) (terminal : Bool) : Except TextFault Outcome :=
  (plan.session.evaluate terminal (inputLines input) plan.expressions).map fun x =>
    { exit := x.session.exit
      output := x.output
      errors := Log.lines plan.level (plan.log ++ x.log) }

def run (argv : List String) (read : FileReader) (input : String) (terminal : Bool) :
    Except Error Outcome :=
  match Plan.make argv read with
  | .error (.outcome outcome) => .ok outcome
  | .error (.failure error) => .error error
  | .ok plan => (plan.run input terminal).mapError Error.text

end Metrology.CommandLine
