import Mathlib
import Metrology.CommandLine.Session
import Metrology.Proofs.Results

/-!
# Scripts of sessions

The arguments of a command line and the lines of its input come to one list of entries, each of
which is a text or an expression (`script`).  A session evaluates its arguments, with the conversations
among them, as it takes these entries one after another (`Session.evaluate_eq_perform`).
-/

namespace Metrology.CommandLine

/-! ## Entries -/

/-- What a session has to write: a text as it stands, or the report of an expression. -/
inductive Entry where
  | shown (text : String)
  | expression (text : String)
deriving DecidableEq, Repr

/-- What a line of a conversation brings. -/
def Line.entries : Line → List Entry
  | .blank => []
  | .help => [.shown (CommandLine.help ++ "\n")]
  | .leave => []
  | .expression text => [.expression text]

/-- Whether a conversation goes on after a line. -/
def goesOn (line : String) : Bool := Line.read line ≠ .leave

/-- The lines that a conversation leaves; the one that ends it is taken. -/
def leftLines (input : List String) : List String := (input.dropWhile goesOn).tail

/-- The entries of a conversation without its greeting: the prompt before each line up to the one
that ends it, and before the end of the input. -/
def linesEntries (prompt : String) (input : List String) : List Entry :=
  ((input.takeWhile goesOn).flatMap fun line => .shown prompt :: (Line.read line).entries) ++
    [.shown prompt]

/-- The entries of a conversation. -/
def conversationEntries (terminal : Bool) (input : List String) : List Entry :=
  if terminal then .shown greeting :: linesEntries prompt input else linesEntries "" input

/-- The entries of arguments, with those of the conversations among them; each conversation has the
lines that the ones before it leave. -/
def script (terminal : Bool) (input : List String) : List String → List Entry
  | [] => []
  | expression :: rest =>
    if expression = conversationArgument then
      conversationEntries terminal input ++ script terminal (leftLines input) rest
    else .expression expression :: script terminal input rest

/-! ## Responses -/

namespace Response

variable (x : Response) (s : Session)

theorem silent_andThen (f : Session → Except TextFault Response) :
    (silent s).andThen f = f s := by
  rw [andThen, silent]
  cases f s with
  | error fault => rfl
  | ok y => simp [Except.map]

theorem andThen_silent : x.andThen (fun s => .ok (silent s)) = .ok x := by
  simp [andThen, silent, Except.map]

/-- Responses are put together in their order, however they are grouped. -/
theorem andThen_bind (f g : Session → Except TextFault Response) :
    (x.andThen f >>= fun y => y.andThen g) = x.andThen fun s => f s >>= fun y => y.andThen g := by
  simp only [andThen]
  cases f x.session with
  | error fault => rfl
  | ok y =>
    change (g y.session).map _ = ((g y.session).map _).map _
    cases g y.session with
    | error fault => rfl
    | ok z => simp [Except.map, String.append_assoc]

end Response

namespace Session

variable {terminal : Bool} {prompt : String} {input : List String} {s : Session}

/-! ## Entries one after another -/

/-- The response of a session to an entry. -/
def respond (s : Session) : Entry → Except TextFault Response
  | .shown text => .ok { session := s, output := text }
  | .expression text => s.report text

/-- The response of a session to entries, one after another. -/
def perform (s : Session) : List Entry → Except TextFault Response
  | [] => .ok (.silent s)
  | entry :: entries => do
    let x ← s.respond entry
    x.andThen fun s => s.perform entries

theorem perform_append (s : Session) (es es' : List Entry) :
    s.perform (es ++ es') = s.perform es >>= fun x => x.andThen fun s => s.perform es' := by
  induction es generalizing s with
  | nil => rw [List.nil_append, perform, ok_bind, Response.silent_andThen]
  | cons entry es ih =>
    rw [List.cons_append, perform, perform]
    cases s.respond entry with
    | error fault => rfl
    | ok x => simp only [ok_bind, Response.andThen_bind, ih]

theorem perform_singleton (s : Session) (entry : Entry) : s.perform [entry] = s.respond entry := by
  rw [perform]
  cases s.respond entry with
  | error fault => rfl
  | ok x => exact x.andThen_silent

/-- A line is answered by its entries, unless it ends the conversation. -/
theorem answer_eq (s : Session) (line : String) :
    s.answer line =
      if goesOn line then (s.perform (Line.read line).entries).map some else .ok none := by
  rw [answer, goesOn]
  cases Line.read line with
  | blank => rfl
  | help => rw [Line.entries, perform_singleton]; rfl
  | leave => rfl
  | expression text => rw [Line.entries, perform_singleton]; rfl

/-- A conversation without its greeting. -/
theorem converse_eq (prompt : String) (s : Session) (input : List String) :
    s.converse prompt input =
      (s.perform (linesEntries prompt input)).map fun x => ⟨x, leftLines input⟩ := by
  induction input generalizing s with
  | nil =>
    rw [converse, linesEntries, List.takeWhile_nil, List.flatMap_nil, List.nil_append,
      perform_singleton]
    rfl
  | cons line input ih =>
    rw [converse, answer_eq]
    by_cases more : goesOn line = true
    · have entries : linesEntries prompt (line :: input) =
          .shown prompt :: ((Line.read line).entries ++ linesEntries prompt input) := by
        rw [linesEntries, List.takeWhile_cons_of_pos more]
        simp [linesEntries]
      have left : leftLines (line :: input) = leftLines input := by
        rw [leftLines, List.dropWhile_cons_of_pos more, leftLines]
      rw [if_pos more, entries, left, perform, respond, ok_bind, Response.andThen, perform_append]
      cases s.perform (Line.read line).entries with
      | error fault => rfl
      | ok x =>
        simp only [Except.map, ok_bind, ih, Response.andThen]
        cases x.session.perform (linesEntries prompt input) with
        | error fault => rfl
        | ok y =>
          simp only [ok_bind, String.append_assoc, List.nil_append]
          rfl
    · have entries : linesEntries prompt (line :: input) = [.shown prompt] := by
        rw [linesEntries, List.takeWhile_cons_of_neg more]
        rfl
      have left : leftLines (line :: input) = input := by
        rw [leftLines, List.dropWhile_cons_of_neg more]
        rfl
      rw [if_neg more, entries, left, perform_singleton]
      rfl

theorem conversation_eq (terminal : Bool) (s : Session) (input : List String) :
    s.conversation terminal input =
      (s.perform (conversationEntries terminal input)).map fun x => ⟨x, leftLines input⟩ := by
  rw [conversation, conversationEntries, converse_eq, converse_eq]
  split_ifs
  · rw [perform, respond, ok_bind, Response.andThen]
    cases s.perform (linesEntries CommandLine.prompt input) with
    | error fault => rfl
    | ok x => rfl
  · rfl

/-- A session evaluates arguments as it takes the entries of their script. -/
theorem evaluate_eq_perform (terminal : Bool) (s : Session) (input args : List String) :
    s.evaluate terminal input args = s.perform (script terminal input args) := by
  induction args generalizing s input with
  | nil => rfl
  | cons expression rest ih =>
    rw [evaluate, script]
    split_ifs
    · rw [conversation_eq, perform_append]
      cases s.perform (conversationEntries terminal input) with
      | error fault => rfl
      | ok x => simp only [Except.map, ok_bind, ih]
    · simp only [perform, respond, ih]

end Session

end Metrology.CommandLine
