import Metrology.CommandLine.Help
import Metrology.Engineering
import Metrology.Parser

/-!
# Sessions

A session evaluates unit expressions one after another with one parser, so that units defined on
the way stay known.  Expressions come as arguments or as the lines of a conversation, which also
knows the commands `help`, `exit` and `quit`.
-/

namespace Metrology.CommandLine

/-- A parser, the format of its answers, and whether all expressions so far had a quantity. -/
structure Session where
  parser : Parser := {}
  format : Engineering.Format := {}
  succeeded : Bool := true

/-- What a session answers, and what it goes on with. -/
structure Response where
  session : Session
  output : String := ""
  log : List Log.Record := []

namespace Response

/-- The response of a session to nothing. -/
def silent (session : Session) : Response := { session }

/-- Goes on with the session, and puts the answers together. -/
def andThen (x : Response) (f : Session → Except TextFault Response) :
    Except TextFault Response :=
  (f x.session).map fun y => { y with output := x.output ++ y.output, log := x.log ++ y.log }

end Response

def inputLines (input : String) : List String :=
  let lines := (input.toList.splitOnP (· = '\n')).map String.ofList
  if lines.getLast? = some "" then lines.dropLast else lines

/-- The argument that stands for a conversation. -/
def conversationArgument : String := "-"

/-- The greeting of a conversation at a terminal. -/
def greeting : String := s!"\n{programName} {version}\n\nCommands: help, exit\n\n"

/-- The sign at a terminal that a line is awaited. -/
def prompt : String := ">"

/-- What a line of a conversation is. -/
inductive Line where
  | blank
  | help
  | leave
  | expression (text : String)
deriving DecidableEq, Repr

/-- Reads a line of a conversation; blanks around it do not count. -/
def Line.read (line : String) : Line :=
  let text := String.ofList (Text.trim line.toList)
  if text.isEmpty then .blank
  else if text = "help" then .help
  else if text = "exit" ∨ text = "quit" then .leave
  else .expression text

/-- What is written about the parse of an expression: the expression with its quantity in
engineering notation and in base units, or the text with a caret below the fault and the reason. -/
def reportText (f : Engineering.Format) (expression : String) (parsed : Parser.Parsed) :
    Except TextFault String :=
  match parsed.result with
  | .error e => .ok s!"{e.text}\n{e.caret}\nError: {e.message}\n"
  | .ok q => do
    let quantity ← f.text q parsed.parser.registry
    let base ← q.baseSymbol parsed.parser.registry
    return s!"'{expression}': {quantity} [{base}]\n"

namespace Session

/-- The answer to an expression: its report. -/
def report (s : Session) (expression : String) : Except TextFault Response :=
  let parsed := s.parser.parse expression
  (reportText s.format expression parsed).map fun output =>
    { session :=
        { s with parser := parsed.parser, succeeded := s.succeeded && parsed.result.isOk }
      output
      log := parsed.log }

/-- The answer to a line of a conversation, or nothing for one that ends it. -/
def answer (s : Session) (line : String) : Except TextFault (Option Response) :=
  match Line.read line with
  | .blank => .ok (some (.silent s))
  | .help => .ok (some { session := s, output := help ++ "\n" })
  | .leave => .ok none
  | .expression text => (s.report text).map some

/-- A response, and the lines of the input that are left. -/
structure Conversation where
  response : Response
  left : List String

/-- Answers lines up to the end of the input or a line that ends the conversation; `prompt` is
written before each of them. -/
def converse (prompt : String) (s : Session) : List String → Except TextFault Conversation
  | [] => .ok { response := { session := s, output := prompt }, left := [] }
  | line :: rest => do
    match ← s.answer line with
    | none => return { response := { session := s, output := prompt }, left := rest }
    | some x =>
      let y ← converse prompt x.session rest
      return { y with
        response :=
          { y.response with
            output := prompt ++ x.output ++ y.response.output
            log := x.log ++ y.response.log } }

/-- Answers a conversation; at a terminal it starts with a greeting and has prompts. -/
def conversation (terminal : Bool) (s : Session) (input : List String) :
    Except TextFault Conversation :=
  if terminal then do
    let c ← s.converse prompt input
    return { c with response := { c.response with output := greeting ++ c.response.output } }
  else s.converse "" input

/-- Evaluates the arguments from the left to the right, with the lines of the input for the
conversations among them. -/
def evaluate (terminal : Bool) (s : Session) (input : List String) :
    List String → Except TextFault Response
  | [] => .ok (.silent s)
  | expression :: rest =>
    if expression = conversationArgument then do
      let c ← s.conversation terminal input
      c.response.andThen fun s => evaluate terminal s c.left rest
    else do
      let x ← s.report expression
      x.andThen fun s => evaluate terminal s input rest

end Session

end Metrology.CommandLine
