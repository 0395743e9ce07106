import Metrology.Expression.Reading
import Metrology.Number.Literal
import Metrology.Options
import Metrology.Prefix

/-!
# Reading unit expressions

A recursive descent over the text, one definition for each rule of the grammar:

    expression = [coefficient] term
    term       = factor { (" " | "." | "/") factor }
    factor     = [prefix] unit [power] | "(" expression ")" [power]
    unit       = [escape] name | "1"

A one stands only before a solidus, and no quotient is divided again without parentheses.  With
the option `dimensionless`, a factor may also be missing where no unit starts.
-/

namespace Metrology.Expression

/-! ## Characters -/

/-- The operators between factors. -/
def isOperator (c : Char) : Bool := c = ' ' || c = '.' || c = '/'

/-- The characters of a name after an optional escape character. -/
def isNameCharacter (c : Char) : Bool := c = '\'' || Text.isLetter c

/-- Pairs of letters that start the name of a unit, although the first one is a prefix: candela,
kilogram, mole, minute, pascal and gray. -/
def isUnprefixedPair (c d : Char) : Bool :=
  [('c', 'd'), ('k', 'g'), ('m', 'o'), ('m', 'i'), ('P', 'a'), ('G', 'y')].contains (c, d)

def startsName (escape : Char) : List Char → Bool
  | [] => false
  | c :: s =>
    Text.isLetter c || (c = escape && s.head?.any Text.isLetter) ||
      (c = '\'' && s.head? = some 'C')

/-! ## Rules without recursion -/

/-- The coefficient of an expression, if there is one, and the blanks around it. -/
def readCoefficient (s : List Char) : Reading (Option Float) s :=
  let t := Text.dropBlanks s
  have ht : t <:+ s := List.dropWhile_suffix _
  .noting (.rule .numericalValue s.head?) <|
    if t.head?.any Literal.isStart then
      let digits := (Literal.split t).1
      let rest := (Literal.split t).2
      have hr : rest <:+ s := .trans ⟨digits, Literal.split_append t⟩ ht
      .noting (.real digits) <|
        match Literal.value? digits with
        | none => ⟨[], .error ⟨.invalidNumber digits, t.length, rest.length⟩⟩
        | some x =>
          .noting (.magnitude x) <|
            .done (some x) (Text.dropBlanks rest) ((List.dropWhile_suffix _).trans hr)
    else .noting (.magnitude 1) <| .done none t ht

/-- The factor of the prefix of a unit, if it has one.  A prefix has a name after it, which may
start with an escape character. -/
def readScale (escape : Char) (s : List Char) : Reading (Option Float) s :=
  .noting (.scale s.head? s.tail.head?) <|
    match s with
    | c :: d :: r =>
      if c = escape || !(d = escape || Text.isLetter d) || isUnprefixedPair c d then
        .done none (c :: d :: r)
      else if c = 'd' && d = 'a' then
        .done (some Prefix.deka) r ((List.suffix_cons d r).trans (List.suffix_cons c _))
      else
        match Prefix.letterFactor? c with
        | some x => .done (some x) (d :: r) (List.suffix_cons c _)
        | none => .done none (c :: d :: r)
    | s => .done none s

/-- A unit without its prefix and power. -/
def readUnit (escape : Char) (s : List Char) : Reading Expression s :=
  .noting (.rule .unit s.head?) <|
    if s.head? = some '1' then
      if s.tail.head? = some '/' then .done .one s.tail (List.tail_suffix s)
      else .fail (.notReciprocal s.tail.head?)
    else if startsName escape s then
      let t := if s.head? = some escape then s.tail else s
      have ht : t <:+ s := by
        simp only [t]
        split
        · exact List.tail_suffix s
        · exact List.suffix_refl s
      let name := String.ofList (t.takeWhile isNameCharacter)
      let rest := t.dropWhile isNameCharacter
      .noting (.name name) <|
        .after (.request name rest.length) <|
          .done (.unit name) rest ((List.dropWhile_suffix _).trans ht)
    else .fail (.noUnit s.head?)

/-- The expression `e`, raised to the power that follows, if there is one. -/
def readPower (e : Expression) (s : List Char) : Reading Expression s :=
  .noting (.rule .power s.head?) <|
    if s.head?.any Literal.isSignedDigit then
      let digits := s.takeWhile Literal.isSignedDigit
      let rest := s.dropWhile Literal.isSignedDigit
      .noting (.integer digits) <|
        match Whole.read? digits with
        | none => ⟨[], .error ⟨.invalidPower digits, s.length, rest.length⟩⟩
        | some n => .done (.power e n) rest (List.dropWhile_suffix _)
    else .done e s

def readClosing (s : List Char) : Reading Unit s :=
  match s with
  | ')' :: r => .done () r (List.suffix_cons ')' r)
  | _ => .fail .notClosed

/-- A unit with its prefix and power. -/
def readSimpleFactor (o : Options) (s : List Char) : Reading Expression s :=
  if o.dimensionless && !(s.head? = some '1' || startsName o.escape s) then .done .one s
  else
    (readScale o.escape s).andThen fun x r _ =>
      (readUnit o.escape r).andThen fun e r' _ => readPower (.scaledBy x e) r'

/-! ## Terms and parentheses -/

mutual

/-- An expression inside parentheses. -/
def readNested (o : Options) (s : List Char) : Reading Expression s :=
  .noting (.rule .expression s.head?) <|
    (readCoefficient s).andThen fun x r _ =>
      (readTerm o r).andThen fun e r' _ => .done (e.scaledBy x) r'
termination_by 4 * s.length + 3

/-- Factors and operators, evaluated from the left to the right. -/
def readTerm (o : Options) (s : List Char) : Reading Expression s :=
  (readFactor o s).andThen fun e r _ => readContinued o false e r
termination_by 4 * s.length + 2

/-- A unit or an expression in parentheses. -/
def readFactor (o : Options) (s : List Char) : Reading Expression s :=
  .noting (.rule .factor s.head?) <|
    match s with
    | '(' :: r =>
      .widen (List.suffix_cons '(' r) <|
        (readNested o r).andThen fun e r' _ =>
          (readClosing r').andThen fun _ r'' _ => readPower e r''
    | s => readSimpleFactor o s
termination_by 4 * s.length + 1

/-- The term that starts with `e` and goes on here; `divided` says whether the last operator was a
solidus. -/
def readContinued (o : Options) (divided : Bool) (e : Expression) (s : List Char) :
    Reading Expression s :=
  match s with
  | [] => .done e []
  | c :: r =>
    if isOperator c then
      match r.head?.filter isOperator with
      | some d => .fail (.consecutiveOperators c d)
      | none =>
        .noting (.rule .term (some c)) <|
          if c = '/' && divided then .fail .repeatedSolidus
          else .widen (List.suffix_cons c r) <|
            (readFactor o r).andThen fun f r' _ =>
              readContinued o (c = '/') (if c = '/' then .quotient e f else .product e f) r'
    else .done e (c :: r)
termination_by 4 * s.length

end

/-! ## Whole texts -/

/-- What reading a whole text yields.  The coefficient in front is kept apart from the unit. -/
structure Outcome where
  coefficient : Option Float
  steps : List Step
  result : Except SyntaxError Expression

/-- Reads a text as a unit expression with an optional coefficient in front. -/
def read (o : Options) (s : List Char) : Outcome :=
  let x := (readCoefficient s).noting (.rule .numValueExpression s.head?)
  match x.result with
  | .error e => ⟨none, x.steps, .error e⟩
  | .ok (a, r) =>
    let y := readTerm o r
    ⟨a, x.steps ++ y.steps, match y.result with
      | .error e => .error e
      | .ok (e, r) => match r.1 with
        | [] => .ok e
        | c :: t => .error ⟨.garbage c, t.length + 1, t.length + 1⟩⟩

end Metrology.Expression
