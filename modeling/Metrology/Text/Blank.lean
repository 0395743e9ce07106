/-!
# Classes of characters, and blanks

A class of characters is given by a table of ranges of code points, both ends included.  The blank
characters of Unicode are one; with them come the trimming of a text at both ends, and the one
spelling of the line break that text files are read with.
-/

namespace Metrology.Text

/-! ## Tables of code points -/

/-- Ranges of code points, each with its first and its last member. -/
abbrev Ranges := List (Nat × Nat)

/-- Whether the code point of `c` lies in one of the ranges. -/
def Ranges.contains (rs : Ranges) (c : Char) : Bool :=
  rs.any fun r => r.1 ≤ c.toNat && c.toNat ≤ r.2

theorem Ranges.contains_iff (rs : Ranges) (c : Char) :
    rs.contains c = true ↔ ∃ r ∈ rs, r.1 ≤ c.toNat ∧ c.toNat ≤ r.2 := by
  simp [Ranges.contains]

/-! ## Blanks -/

/-- The code points of white space. -/
def blankRanges : Ranges :=
  [(0x9, 0xD), (0x1C, 0x20), (0x85, 0x85), (0xA0, 0xA0), (0x1680, 0x1680), (0x2000, 0x200A),
   (0x2028, 0x2029), (0x202F, 0x202F), (0x205F, 0x205F), (0x3000, 0x3000)]

def isBlank (c : Char) : Bool :=
  blankRanges.contains c

/-- The text without the blanks at its start. -/
def dropBlanks (s : List Char) : List Char :=
  s.dropWhile isBlank

/-- The text without the characters at its start and at its end that fit. -/
def trimWhere (fits : Char → Bool) (s : List Char) : List Char :=
  ((s.dropWhile fits).reverse.dropWhile fits).reverse

/-- The text without the blanks at its start and at its end. -/
def trim (s : List Char) : List Char :=
  trimWhere isBlank s

/-- Every line break written as a line feed: a carriage return with the line feed that follows
it, or a carriage return alone, becomes one line feed. -/
def unifyLineBreaks : List Char → List Char
  | [] => []
  | '\r' :: '\n' :: s => '\n' :: unifyLineBreaks s
  | '\r' :: s => '\n' :: unifyLineBreaks s
  | c :: s => c :: unifyLineBreaks s

end Metrology.Text
