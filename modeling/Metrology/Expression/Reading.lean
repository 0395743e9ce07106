import Metrology.Expression
import Metrology.Text.Quoted

/-!
# Readings

What reading a unit expression from the start of a text yields: the steps that were taken, in
order, and either a result with the rest of the text or a syntax error.  A step is a line of the
trace or a request for the unit of a name.  Places in the text are given by the number of
characters from there to its end.
-/

namespace Metrology.Expression

/-! ## Steps -/

/-- The rules of the grammar that leave a line in the trace when they start. -/
inductive Rule where
  | numValueExpression | expression | numericalValue | term | factor | unit | power
deriving DecidableEq, Repr

/-- The name of a rule in the trace. -/
def Rule.name : Rule → String
  | .numValueExpression => "parseNumValueExpression"
  | .expression => "parseExpression"
  | .numericalValue => "parseNumericalValue"
  | .term => "parseTerm"
  | .factor => "parseFactor"
  | .unit => "parseUnit"
  | .power => "parsePower"

/-- A line of the trace. -/
inductive Note where
  | start (text : String)
  | rule (rule : Rule) (current : Option Char)
  | scale (current ahead : Option Char)
  | real (text : List Char)
  | magnitude (x : Float)
  | integer (text : List Char)
  | name (name : String)
deriving DecidableEq

/-- A character in the trace; the end of the text shows as a zero character. -/
def traced (c : Option Char) : String := (c.getD '\x00').toString

def Note.line : Note → String
  | .start text => s!"parse(): '{text}'"
  | .rule r current => s!"{r.name}(): '{traced current}'"
  | .scale current ahead =>
    s!"parsePrefix(): current: '{traced current}', ahead: '{traced ahead}'"
  | .real text => s!"scanReal(): text: '{String.ofList text}'"
  | .magnitude x => s!"parseNumericalValue(): magnitude: {Binary64.shortest x}"
  | .integer text => s!"scanInteger(): '{String.ofList text}'"
  | .name n => s!"scanUnit(): '{n}'"

/-- A step of a reading. -/
inductive Step where
  | note (note : Note)
  /-- The unit of a name is wanted, `left` characters before the end of the text. -/
  | request (name : String) (left : Nat)
deriving DecidableEq

/-! ## Errors -/

/-- What is wrong with the syntax of a text. -/
inductive SyntaxFault where
  /-- The text holds the character that ends every text. -/
  | endInText
  | garbage (c : Char)
  | consecutiveOperators (c d : Char)
  | repeatedSolidus
  /-- A one is followed by something else than a solidus. -/
  | notReciprocal (ahead : Option Char)
  | noUnit (current : Option Char)
  | notClosed
  | invalidNumber (text : List Char)
  | invalidPower (text : List Char)
deriving DecidableEq, Repr

/-- A character in a message; the end of the text shows as a word. -/
def shown : Option Char → String
  | none => "[nothing]"
  | some c => c.toString

/-- The wording of a fault at a position. -/
def SyntaxFault.message (position : Nat) : SyntaxFault → String
  | .endInText => "invalid end-of-input character in text"
  | .garbage c => s!"garbage at position {position}: '{c}'"
  | .consecutiveOperators c d =>
    s!"consecutive operators at position {position}: '{c}' and '{d}'"
  | .repeatedSolidus =>
    s!"repetition of solidus at position {position}: use parenthesis to avoid ambiguity"
  | .notReciprocal ahead =>
    s!"expecting 1/u construct at position {position}, got: '1{shown ahead}'"
  | .noUnit current => s!"expecting unit at position {position}, got: '{shown current}'"
  | .notClosed => "quantity: expecting ')'"
  | .invalidNumber text => s!"invalid number at position {position}: '{String.ofList text}'"
  | .invalidPower text => s!"invalid power at position {position}: '{String.ofList text}'"

/-- A fault, the place that it is reported at, and the place where the reading stopped. -/
structure SyntaxError where
  fault : SyntaxFault
  place : Nat
  left : Nat
deriving DecidableEq, Repr

/-! ## Readings -/

/-- The steps and the outcome of reading from the start of `s`. -/
structure Reading (α : Type) (s : List Char) where
  steps : List Step
  result : Except SyntaxError (α × {r : List Char // r <:+ s})

namespace Reading

variable {α β : Type} {s : List Char}

/-- Ends with a value and the rest `r`. -/
def done (a : α) (r : List Char) (h : r <:+ s := by exact List.suffix_refl _) : Reading α s :=
  ⟨[], .ok (a, ⟨r, h⟩)⟩

/-- Ends with a fault at the start of `s`, where the reading stops. -/
def fail (fault : SyntaxFault) : Reading α s := ⟨[], .error ⟨fault, s.length, s.length⟩⟩

def after (step : Step) (x : Reading α s) : Reading α s := ⟨step :: x.steps, x.result⟩

/-- Leaves a line in the trace first. -/
def noting (note : Note) (x : Reading α s) : Reading α s := x.after (.note note)

/-- What is read from a part of the text at its end. -/
def widen {r : List Char} (h : r <:+ s) (x : Reading α r) : Reading α s :=
  ⟨x.steps, match x.result with
    | .error e => .error e
    | .ok (a, t) => .ok (a, ⟨t.1, t.2.trans h⟩)⟩

/-- Goes on with the rest of the text. -/
def andThen (x : Reading α s) (f : α → (r : List Char) → r.length ≤ s.length → Reading β r) :
    Reading β s :=
  match x.result with
  | .error e => ⟨x.steps, .error e⟩
  | .ok (a, r) =>
    let y := (f a r.1 r.2.length_le).widen r.2
    ⟨x.steps ++ y.steps, y.result⟩

end Reading

end Metrology.Expression
