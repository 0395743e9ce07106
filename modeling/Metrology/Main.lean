import Metrology.CommandLine.Run

/-!
# The program

Reads the file of options and the standard input, and writes what a session answers as it comes.
-/

namespace Metrology.CommandLine.Console

/-- Why a file could not be read, as far as the system tells. -/
def fileFault : IO.Error → FileFault
  | .inappropriateType .. => .directory
  | _ => .missing

def readFile (path : String) : IO (Except FileFault String) := do
  try return .ok (← IO.FS.readFile path)
  catch e => return .error (fileFault e)

/-- The file of options that the arguments name, if they name one. -/
def readOptionFile (argv : List String) : IO (Except FileFault String) :=
  match (Arguments.read argv).toOption.bind Arguments.configPath? with
  | none => return .ok ""
  | some path => readFile path

def write (level : Log.Level) (x : Response) : IO Unit := do
  (← IO.getStderr).putStr (Log.lines level x.log)
  (← IO.getStdout).putStr x.output
  (← IO.getStdout).flush

/-- The answer, or an error that ends the program. -/
def require {α : Type} : Except TextFault α → IO α
  | .ok a => return a
  | .error fault => throw (IO.userError fault.message)

/-- Answers the lines of the standard input, up to one that ends the conversation. -/
partial def converse (level : Log.Level) (terminal : Bool) (s : Session) : IO Session := do
  if terminal then write level { session := s, output := prompt }
  let line ← (← IO.getStdin).getLine
  if line.isEmpty then return s
  match ← require (s.answer line) with
  | none => return s
  | some x => do
    write level x
    converse level terminal x.session

def evaluate (level : Log.Level) (s : Session) (expression : String) : IO Session := do
  if expression = conversationArgument then
    let terminal ← (← IO.getStdin).isTty
    if terminal then write level { session := s, output := greeting }
    converse level terminal s
  else
    let x ← require (s.report expression)
    write level x
    return x.session

end Metrology.CommandLine.Console

open Metrology.CommandLine in
/-- The program. -/
def main (argv : List String) : IO UInt32 := do
  let file ← Console.readOptionFile argv
  match Plan.make argv fun _ => file with
  | .error (.failure error) => throw (IO.userError error.message)
  | .error (.outcome outcome) =>
    (← IO.getStderr).putStr outcome.errors
    (← IO.getStdout).putStr outcome.output
    return outcome.exit.toUInt32
  | .ok plan =>
    Console.write plan.level { session := plan.session, log := plan.log }
    let s ← plan.expressions.foldlM (Console.evaluate plan.level) plan.session
    return s.exit.toUInt32
