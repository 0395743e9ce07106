import Metrology.Json
import Metrology.Number.Literal

/-!
# Reading JSON

A reader for JSON texts, which also takes the numbers `NaN`, `Infinity` and `-Infinity`.  What it
cannot read it reports with the place of the fault.  Whole numbers have at most
`Whole.digitLimit` digits.
-/

namespace Metrology.Json

/-! ## Failures -/

/-- What is wrong with a text. -/
inductive Fault where
  | byteOrderMark
  | noValue
  | noName
  | noColon
  | noComma
  | openString
  | controlCharacter
  | unknownEscape
  | badCodePoint
  | furtherText
  /-- A whole number of this many digits. -/
  | tooManyDigits (digits : Nat)
deriving DecidableEq, Repr

def Fault.message : Fault → String
  | .byteOrderMark => "Unexpected UTF-8 BOM (decode using utf-8-sig)"
  | .noValue => "Expecting value"
  | .noName => "Expecting property name enclosed in double quotes"
  | .noColon => "Expecting ':' delimiter"
  | .noComma => "Expecting ',' delimiter"
  | .openString => "Unterminated string starting at"
  | .controlCharacter => "Invalid control character at"
  | .unknownEscape => "Invalid \\escape"
  | .badCodePoint => "Invalid \\uXXXX escape"
  | .furtherText => "Extra data"
  | .tooManyDigits n =>
    s!"Exceeds the limit ({Whole.digitLimit} digits) for integer string conversion: " ++
      s!"value has {n} digits; use sys.set_int_max_str_digits() to increase the limit"

/-- Whether a fault is one of number range and not of form. -/
def Fault.isOfRange : Fault → Bool
  | .tooManyDigits _ => true
  | _ => false

/-- A fault and the number of characters from its place to the end of the text. -/
structure Failure where
  fault : Fault
  left : Nat
deriving DecidableEq, Repr

/-- The wording of a failure in a text.  A fault of form is located by line, column and place. -/
def Failure.message (f : Failure) (text : List Char) : String :=
  if f.fault.isOfRange then f.fault.message
  else
    let before := text.take (text.length - f.left)
    let line := before.count '\n' + 1
    let column := (before.reverse.takeWhile (· != '\n')).length + 1
    s!"{f.fault.message}: line {line} column {column} (char {before.length})"

/-- A value that was read from the start of a text, and the shorter text that is left. -/
abbrev Reading (α : Type) (s : List Char) :=
  Except Failure (α × {r : List Char // r.length < s.length})

/-! ## Blanks and numbers -/

/-- The blanks between the parts of a text. -/
def isBlank (c : Char) : Bool := c = ' ' || c = '\t' || c = '\n' || c = '\r'

/-- The text without the blanks at its start. -/
def skip (s : List Char) : List Char := s.dropWhile isBlank

theorem length_skip_le (s : List Char) : (skip s).length ≤ s.length :=
  (List.dropWhile_suffix isBlank).length_le

/-- Splits the whole digits of a number: a single zero, or digits that do not start with one. -/
def splitWhole : List Char → List Char × List Char
  | '0' :: s => (['0'], s)
  | s => (s.takeWhile Char.isDigit, s.dropWhile Char.isDigit)

/-- Splits a point and the digits after it. -/
def splitFraction : List Char → List Char × List Char
  | '.' :: s =>
    if (s.takeWhile Char.isDigit).isEmpty then ([], '.' :: s)
    else ('.' :: s.takeWhile Char.isDigit, s.dropWhile Char.isDigit)
  | s => ([], s)

/-- Splits an exponent with at least one digit. -/
def splitExponent : List Char → List Char × List Char
  | e :: s =>
    let (sign, ds) := Literal.splitSign s
    if Literal.isExponentMark e && !(ds.takeWhile Char.isDigit).isEmpty then
      (e :: (sign ++ ds.takeWhile Char.isDigit), ds.dropWhile Char.isDigit)
    else ([], e :: s)
  | [] => ([], [])

/-- Reads a number.  One without a point and without an exponent is whole. -/
def readNumber (s : List Char) : Except Failure (Json × List Char) :=
  let (sign, t) := match s with
    | '-' :: t => (['-'], t)
    | t => ([], t)
  let (ds, t) := splitWhole t
  let (fraction, t) := splitFraction t
  let (exponent, t) := splitExponent t
  if ds.isEmpty then .error ⟨.noValue, s.length⟩
  else if fraction.isEmpty && exponent.isEmpty then
    if Whole.digitLimit < ds.length then .error ⟨.tooManyDigits ds.length, s.length⟩
    else .ok (.whole (if sign.isEmpty then Whole.ofDigits ds else -(Whole.ofDigits ds : Int)), t)
  else
    match Literal.value? (sign ++ ds ++ fraction ++ exponent) with
    | some x => .ok (.real x, t)
    | none => .error ⟨.noValue, s.length⟩

/-! ## Texts -/

/-- The value of a hexadecimal digit. -/
def hexDigit? (c : Char) : Option Nat :=
  if c.isDigit then some (c.toNat - '0'.toNat)
  else if 'a' ≤ c ∧ c ≤ 'f' then some (c.toNat - 'a'.toNat + 10)
  else if 'A' ≤ c ∧ c ≤ 'F' then some (c.toNat - 'A'.toNat + 10)
  else none

/-- The number that four hexadecimal digits write. -/
def hexUnit? (a b c d : Char) : Option Nat := do
  return ((← hexDigit? a) * 16 + (← hexDigit? b)) * 256 + ((← hexDigit? c) * 16 + (← hexDigit? d))

/-- The character of a code point; a surrogate counts as the replacement character. -/
def character (n : Nat) : Char :=
  if n.isValidChar then Char.ofNat n else '\uFFFD'

/-- The character that a single letter after a backslash stands for. -/
def letterEscape? : Char → Option Char
  | '"' => some '"'
  | '\\' => some '\\'
  | '/' => some '/'
  | 'b' => some '\x08'
  | 'f' => some '\x0c'
  | 'n' => some '\n'
  | 'r' => some '\r'
  | 't' => some '\t'
  | _ => none

/-- Reads the low half of a surrogate pair whose high half is `high`, if it follows. -/
def lowHalf (high : Nat) : List Char → Except Failure (Char × List Char)
  | '\\' :: 'u' :: a :: b :: c :: d :: e :: s =>
    match hexUnit? a b c d with
    | none => .error ⟨.badCodePoint, s.length + 6⟩
    | some low =>
      if 0xDC00 ≤ low ∧ low ≤ 0xDFFF then
        .ok (character (0x10000 + (high - 0xD800) * 0x400 + (low - 0xDC00)), e :: s)
      else .ok (character high, '\\' :: 'u' :: a :: b :: c :: d :: e :: s)
  | s => .ok (character high, s)

/-- Reads what follows a backslash in a text that started `opening` characters before the end. -/
def escape (opening : Nat) : List Char → Except Failure (Char × List Char)
  | [] => .error ⟨.openString, opening⟩
  | 'u' :: s =>
    match s with
    | a :: b :: c :: d :: e :: t =>
      match hexUnit? a b c d with
      | none => .error ⟨.badCodePoint, s.length + 1⟩
      | some n => if 0xD800 ≤ n ∧ n ≤ 0xDBFF then lowHalf n (e :: t) else .ok (character n, e :: t)
    | _ => .error ⟨.badCodePoint, s.length + 1⟩
  | c :: s =>
    match letterEscape? c with
    | some c => .ok (c, s)
    | none => .error ⟨.unknownEscape, s.length + 2⟩

theorem length_lowHalf {high : Nat} {s r : List Char} {c : Char}
    (h : lowHalf high s = .ok (c, r)) : r.length ≤ s.length := by
  fun_cases lowHalf high s <;> simp_all [lowHalf] <;> grind

theorem length_escape {opening : Nat} {s r : List Char} {c : Char}
    (h : escape opening s = .ok (c, r)) : r.length < s.length := by
  fun_cases escape opening s with
  | case1 => simp [escape] at h
  | case2 a b c' d e t hx => simp [escape, hx] at h
  | case3 a b c' d e t n hx hn =>
    have h : lowHalf n (e :: t) = .ok (c, r) := by simpa [escape, hx, hn] using h
    have := length_lowHalf h
    simp only [List.length_cons] at this ⊢
    omega
  | case4 a b c' d e t n hx hn =>
    simp [escape, hx, hn] at h
    simp [← h.2]
  | case5 s hs => simp [escape] at h
  | case6 => simp_all [escape]
  | case7 => simp_all [escape]

/-- Reads a text after its opening quotation mark, which is `opening` characters before the end.
The characters in front are given in reverse. -/
def readText (opening : Nat) (front : List Char) (s : List Char) : Reading String s :=
  match s with
  | [] => .error ⟨.openString, opening⟩
  | '"' :: s => .ok (String.ofList front.reverse, ⟨s, by simp⟩)
  | '\\' :: s =>
    match h : escape opening s with
    | .error e => .error e
    | .ok (c, r) =>
      have hr := length_escape h
      match readText opening (c :: front) r with
      | .error e => .error e
      | .ok (t, r') => .ok (t, ⟨r', by have := r'.2; simp only [List.length_cons]; omega⟩)
  | c :: s =>
    if c.toNat < 0x20 then .error ⟨.controlCharacter, s.length + 1⟩
    else match readText opening (c :: front) s with
      | .error e => .error e
      | .ok (t, r) => .ok (t, ⟨r, by have := r.2; simp only [List.length_cons]; omega⟩)
termination_by s.length

/-! ## Values -/

theorem length_takeWhile_add_dropWhile (p : Char → Bool) (s : List Char) :
    (s.takeWhile p).length + (s.dropWhile p).length = s.length := by
  rw [← List.length_append, List.takeWhile_append_dropWhile]

theorem length_splitWhole (s : List Char) :
    (splitWhole s).1.length + (splitWhole s).2.length = s.length := by
  fun_cases splitWhole s with
  | case1 => simp [Nat.add_comm]
  | case2 => exact length_takeWhile_add_dropWhile ..

theorem length_splitFraction (s : List Char) : (splitFraction s).2.length ≤ s.length := by
  fun_cases splitFraction s with
  | case1 => simp
  | case2 s =>
    have := length_takeWhile_add_dropWhile Char.isDigit s
    simp only [List.length_cons]
    omega
  | case3 => simp

theorem length_splitExponent (s : List Char) : (splitExponent s).2.length ≤ s.length := by
  fun_cases splitExponent s with
  | case1 e s sign ds hs =>
    have hs := congrArg List.length (hs ▸ Literal.splitSign_append s)
    have := length_takeWhile_add_dropWhile Char.isDigit ds
    simp only [List.length_cons, List.length_append] at *
    omega
  | case2 => simp
  | case3 => simp

theorem length_readNumber {s r : List Char} {v : Json} (h : readNumber s = .ok (v, r)) :
    r.length < s.length := by
  have key : ∀ t : List Char, t.length ≤ s.length → (splitWhole t).1 ≠ [] →
      (splitExponent (splitFraction (splitWhole t).2).2).2.length < s.length := by
    intro t ht hd
    have := length_splitWhole t
    have := length_splitFraction (splitWhole t).2
    have := length_splitExponent (splitFraction (splitWhole t).2).2
    have := List.length_pos_iff.2 hd
    omega
  unfold readNumber at h
  grind

mutual

def readValue (s : List Char) : Reading Json s :=
  match s with
  | '"' :: s => match readText (s.length + 1) [] s with
    | .error e => .error e
    | .ok (t, r) => .ok (.text t, ⟨r, by have := r.2; simp only [List.length_cons]; omega⟩)
  | '\x7b' :: s =>
    have := length_skip_le s
    match h : skip s with
    | '\x7d' :: r => .ok (.object [], ⟨r, by simp only [h, List.length_cons] at *; omega⟩)
    | t => match readMembers [] t with
      | .error e => .error e
      | .ok (ms, r) =>
        .ok (.object ms, ⟨r, by have := r.2; simp only [← h, List.length_cons] at *; omega⟩)
  | '[' :: s =>
    have := length_skip_le s
    match h : skip s with
    | ']' :: r => .ok (.list [], ⟨r, by simp only [h, List.length_cons] at *; omega⟩)
    | t => match readItems [] t with
      | .error e => .error e
      | .ok (vs, r) =>
        .ok (.list vs, ⟨r, by have := r.2; simp only [← h, List.length_cons] at *; omega⟩)
  | 'n' :: 'u' :: 'l' :: 'l' :: s => .ok (.null, ⟨s, by simp only [List.length_cons]; omega⟩)
  | 't' :: 'r' :: 'u' :: 'e' :: s => .ok (.bool true, ⟨s, by simp only [List.length_cons]; omega⟩)
  | 'f' :: 'a' :: 'l' :: 's' :: 'e' :: s =>
    .ok (.bool false, ⟨s, by simp only [List.length_cons]; omega⟩)
  | 'N' :: 'a' :: 'N' :: s => .ok (.real (0 / 0), ⟨s, by simp only [List.length_cons]; omega⟩)
  | 'I' :: 'n' :: 'f' :: 'i' :: 'n' :: 'i' :: 't' :: 'y' :: s =>
    .ok (.real (1 / 0), ⟨s, by simp only [List.length_cons]; omega⟩)
  | '-' :: 'I' :: 'n' :: 'f' :: 'i' :: 'n' :: 'i' :: 't' :: 'y' :: s =>
    .ok (.real (-1 / 0), ⟨s, by simp only [List.length_cons]; omega⟩)
  | s => match h : readNumber s with
    | .error e => .error e
    | .ok (v, r) => .ok (v, ⟨r, length_readNumber h⟩)
termination_by 2 * s.length

/-- Reads the values of a list and its closing bracket.  The values in front are given in
reverse. -/
def readItems (front : List Json) (s : List Char) : Reading (List Json) s :=
  match readValue s with
  | .error e => .error e
  | .ok (v, r) =>
    have := length_skip_le r
    have := r.2
    match h : skip r with
    | ']' :: r' => .ok ((v :: front).reverse, ⟨r', by simp only [h, List.length_cons] at *; omega⟩)
    | ',' :: t =>
      have := length_skip_le t
      have ht : (skip t).length < s.length := by simp only [h, List.length_cons] at *; omega
      match readItems (v :: front) (skip t) with
      | .error e => .error e
      | .ok (vs, r') => .ok (vs, ⟨r', by have := r'.2; omega⟩)
    | t => .error ⟨.noComma, t.length⟩
termination_by 2 * s.length + 1

/-- Reads the members of an object and its closing brace, after the members in front. -/
def readMembers (front : List (String × Json)) (s : List Char) :
    Reading (List (String × Json)) s :=
  match s with
  | '"' :: s => match readText (s.length + 1) [] s with
    | .error e => .error e
    | .ok (name, r) =>
      have := length_skip_le r
      have := r.2
      match h : skip r with
      | ':' :: t =>
        have := length_skip_le t
        have ht : (skip t).length < s.length := by simp only [h, List.length_cons] at *; omega
        match readValue (skip t) with
        | .error e => .error e
        | .ok (v, r) =>
          have := length_skip_le r
          have := r.2
          match h' : skip r with
          | '\x7d' :: r' =>
            .ok (insert front name v, ⟨r', by simp only [h', List.length_cons] at *; omega⟩)
          | ',' :: t' =>
            have := length_skip_le t'
            have ht : (skip t').length < s.length := by
              simp only [h', List.length_cons] at *; omega
            match readMembers (insert front name v) (skip t') with
            | .error e => .error e
            | .ok (ms, r') => .ok (ms, ⟨r', by have := r'.2; simp only [List.length_cons]; omega⟩)
          | t' => .error ⟨.noComma, t'.length⟩
      | t => .error ⟨.noColon, t.length⟩
  | s => .error ⟨.noName, s.length⟩
termination_by 2 * s.length + 1

end

/-- Reads a text that holds one value and blanks. -/
def read? (s : List Char) : Except Failure Json :=
  if s.head? = some '\uFEFF' then .error ⟨.byteOrderMark, s.length⟩
  else match readValue (skip s) with
    | .error e => .error e
    | .ok (v, r) =>
      if (skip r).isEmpty then .ok v else .error ⟨.furtherText, (skip r).length⟩

end Metrology.Json
