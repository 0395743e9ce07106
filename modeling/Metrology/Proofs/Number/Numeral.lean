import Metrology.Number.Literal
import Metrology.Proofs.Text.Span

/-!
# Written numbers

The whole numbers and the decimal numbers of unit expressions, with the text that each is written
as.  Exactly these texts are read (`Whole.read?_eq_some_iff`, `Literal.value?_eq_some_iff`), and the
scan of a real literal takes a numeral and no more where the numeral ends
(`Literal.split_text_append_iff`).
-/

namespace Metrology

variable {s t r ds : List Char} {c : Char}

/-! ## Signs -/

namespace Literal

theorem isSign_iff : isSign c = true ↔ c = '+' ∨ c = '-' := by
  simp [isSign]

theorem isStart_iff : isStart c = true ↔ c.isDigit = true ∨ c = '+' ∨ c = '-' ∨ c = '.' := by
  simp [isStart, isSign, or_assoc]

/-- Signs of numbers. -/
inductive Sign where
  | plus | minus
deriving DecidableEq

namespace Sign

/-- The text of a sign that may be left out. -/
def text : Option Sign → List Char
  | none => []
  | some plus => ['+']
  | some minus => ['-']

variable {sign : Option Sign}

theorem all_text : (text sign).all isSign = true := by
  rcases sign with _ | _ | _ <;> rfl

/-- Every text has a sign in front, or no sign and then none comes first. -/
theorem exists_text_append (s : List Char) :
    ∃ sign t, text sign ++ t = s ∧ (sign = none → Text.Stops isSign t) := by
  by_cases unsigned : Text.Stops isSign s
  · exact ⟨none, s, rfl, fun _ => unsigned⟩
  · cases s with
    | nil => exact absurd Text.stops_nil unsigned
    | cons c s =>
      rw [Text.stops_cons, Bool.not_eq_false, isSign_iff] at unsigned
      rcases unsigned with rfl | rfl
      · exact ⟨some plus, s, rfl, by rintro ⟨⟩⟩
      · exact ⟨some minus, s, rfl, by rintro ⟨⟩⟩

theorem splitSign_text_append (h : sign = none → Text.Stops isSign t) :
    splitSign (text sign ++ t) = (text sign, t) := by
  rcases sign with _ | _ | _
  · cases t with
    | nil => rfl
    | cons c t => exact if_neg (by rw [Text.stops_cons.1 (h rfl)]; decide)
  · rfl
  · rfl

end Sign

theorem isSign_of_isDigit (h : c.isDigit = true) : isSign c = false := by
  by_contra sign
  rw [Bool.not_eq_false, isSign_iff] at sign
  rcases sign with rfl | rfl <;> cases h

theorem stops_isSign_digits (ne : ds ≠ []) (h : ds.all Char.isDigit = true) :
    Text.Stops isSign (ds ++ r) := by
  obtain ⟨c, ds, rfl⟩ := List.exists_cons_of_ne_nil ne
  exact Text.stops_cons.2 (isSign_of_isDigit (List.all_eq_true.1 h c List.mem_cons_self))

end Literal

/-! ## Whole numbers -/

namespace Whole

/-- A whole number as it is written: an optional sign and decimal digits. -/
structure Numeral where
  sign : Option Literal.Sign
  digits : List Char
  digits_ne_nil : digits ≠ []
  all_isDigit : digits.all Char.isDigit = true
  length_le : digits.length ≤ digitLimit

namespace Numeral

/-- The text of a numeral. -/
def text (n : Numeral) : List Char := Literal.Sign.text n.sign ++ n.digits

/-- The number that a numeral denotes. -/
def value (n : Numeral) : Int :=
  if n.sign = some .minus then -(ofDigits n.digits : Int) else ofDigits n.digits

/-- A numeral is made of signs and digits. -/
theorem all_text (n : Numeral) : n.text.all Literal.isSignedDigit = true := by
  rw [text, List.all_append, Bool.and_eq_true]
  refine ⟨by rcases n.sign with _ | _ | _ <;> decide, List.all_eq_true.2 fun c h => ?_⟩
  rw [Literal.isSignedDigit, List.all_eq_true.1 n.all_isDigit c h, Bool.true_or]

theorem text_ne_nil (n : Numeral) : n.text ≠ [] :=
  List.append_ne_nil_of_right_ne_nil _ n.digits_ne_nil

end Numeral

/-- The number that digits after a sign denote. -/
def signed? (sign : Option Literal.Sign) (ds : List Char) : Option Int :=
  (ofDigits? ds).map fun n : Nat => if sign = some .minus then -(n : Int) else n

variable {sign : Option Literal.Sign} {k : Int}

theorem read?_text_append (h : sign = none → Text.Stops Literal.isSign ds) :
    read? (Literal.Sign.text sign ++ ds) = signed? sign ds := by
  rcases sign with _ | _ | _
  · unfold read? signed?
    rw [Literal.Sign.text, List.nil_append]
    split
    · exact absurd (Text.stops_cons.1 (h rfl)) (by decide)
    · exact absurd (Text.stops_cons.1 (h rfl)) (by decide)
    · cases ofDigits? ds <;> rfl
  · rw [Literal.Sign.text, List.singleton_append, read?, signed?]
    cases ofDigits? ds <;> rfl
  · rw [Literal.Sign.text, List.singleton_append, read?, signed?]
    cases ofDigits? ds <;> rfl

theorem ofDigits?_eq_some_iff {n : Nat} :
    ofDigits? ds = some n ↔
      (ds ≠ [] ∧ ds.all Char.isDigit = true ∧ ds.length ≤ digitLimit) ∧ ofDigits ds = n := by
  rw [ofDigits?]
  split_ifs with h
  · rw [and_iff_right h, Option.some.injEq]
  · rw [iff_false_left (by rintro ⟨⟩)]
    exact fun h' => h h'.1

theorem signed?_eq_some_iff :
    signed? sign ds = some k ↔ ∃ n : Numeral, n.sign = sign ∧ n.digits = ds ∧ n.value = k := by
  rw [signed?, Option.map_eq_some_iff]
  constructor
  · rintro ⟨n, read, rfl⟩
    obtain ⟨⟨ne, digits, fits⟩, rfl⟩ := ofDigits?_eq_some_iff.1 read
    exact ⟨⟨sign, ds, ne, digits, fits⟩, rfl, rfl, rfl⟩
  · rintro ⟨⟨_, _, ne, digits, fits⟩, rfl, rfl, rfl⟩
    exact ⟨_, ofDigits?_eq_some_iff.2 ⟨⟨ne, digits, fits⟩, rfl⟩, rfl⟩

/-- Exactly the numerals are read, as the numbers that they denote. -/
theorem read?_eq_some_iff : read? s = some k ↔ ∃ n : Numeral, n.text = s ∧ n.value = k := by
  constructor
  · intro h
    obtain ⟨sign, ds, rfl, unsigned⟩ := Literal.Sign.exists_text_append s
    rw [read?_text_append unsigned] at h
    obtain ⟨n, rfl, rfl, value⟩ := signed?_eq_some_iff.1 h
    exact ⟨n, rfl, value⟩
  · rintro ⟨n, rfl, value⟩
    have unsigned := Literal.stops_isSign_digits (r := []) n.digits_ne_nil n.all_isDigit
    rw [List.append_nil] at unsigned
    rw [Numeral.text, read?_text_append fun _ => unsigned]
    exact signed?_eq_some_iff.2 ⟨n, rfl, rfl, value⟩

end Whole

/-! ## Decimal numbers -/

namespace Literal

/-- The exponent of a decimal number as it is written. -/
structure Exponent where
  mark : Char
  sign : Option Sign
  digits : List Char
  isExponentMark_mark : isExponentMark mark = true
  digits_ne_nil : digits ≠ []
  all_isDigit : digits.all Char.isDigit = true

namespace Exponent

/-- The text of an exponent that may be left out. -/
def text : Option Exponent → List Char
  | none => []
  | some e => e.mark :: (Sign.text e.sign ++ e.digits)

/-- The number that an exponent denotes. -/
def value : Option Exponent → Int
  | none => 0
  | some e => if e.sign = some .minus then -(Whole.ofDigits e.digits : Int)
    else Whole.ofDigits e.digits

end Exponent

/-- A decimal number as it is written: an optional sign, digits around an optional point, and an
optional exponent. -/
structure Numeral where
  sign : Option Sign
  whole : List Char
  /-- The digits after the point, if there is a point. -/
  fraction : Option (List Char)
  exponent : Option Exponent
  whole_isDigit : whole.all Char.isDigit = true
  fraction_isDigit : (fraction.getD []).all Char.isDigit = true
  digits_ne_nil : ¬(whole = [] ∧ fraction.getD [] = [])

namespace Numeral

/-- The text of a point and the digits after it. -/
def fractionText : Option (List Char) → List Char
  | none => []
  | some ds => '.' :: ds

/-- The digits and the point of a numeral. -/
def mantissa (n : Numeral) : List Char := n.whole ++ fractionText n.fraction

/-- The text of a numeral. -/
def text (n : Numeral) : List Char :=
  Sign.text n.sign ++ (n.mantissa ++ Exponent.text n.exponent)

/-- The numeral that digits make alone. -/
def ofDigits (ds : List Char) (ne : ds ≠ [] := by decide)
    (digits : ds.all Char.isDigit = true := by decide) : Numeral where
  sign := none
  whole := ds
  fraction := none
  exponent := none
  whole_isDigit := digits
  fraction_isDigit := rfl
  digits_ne_nil := fun empty => ne empty.1

/-- The double nearest to the number that a numeral denotes. -/
def value (n : Numeral) : Float :=
  Binary64.ofDecimal (n.sign = some .minus) (Whole.ofDigits (n.whole ++ n.fraction.getD []))
    (Exponent.value n.exponent - (n.fraction.getD []).length)

end Numeral

variable {x : Float} {k : Int}

theorem text_eq_minus_iff {sign : Option Sign} :
    Sign.text sign = ['-'] ↔ sign = some .minus := by
  rcases sign with _ | _ | _ <;> decide

theorem isDigitOrPoint_of_isExponentMark (h : isExponentMark c = true) :
    isDigitOrPoint c = false := by
  rw [isExponentMark, Bool.or_eq_true, decide_eq_true_eq, decide_eq_true_eq] at h
  rcases h with rfl | rfl <;> decide

theorem exponentValue?_eq_some_iff :
    exponentValue? s = some k ↔ ∃ e, Exponent.text e = s ∧ Exponent.value e = k := by
  constructor
  · intro h
    cases s with
    | nil => exact ⟨none, rfl, Option.some.inj h⟩
    | cons mark s =>
      obtain ⟨sign, ds, rfl, unsigned⟩ := Sign.exists_text_append s
      simp only [exponentValue?, Sign.splitSign_text_append unsigned, text_eq_minus_iff] at h
      by_cases shape : isExponentMark mark = true ∧ ds ≠ [] ∧ ds.all Char.isDigit = true
      · rw [if_pos shape] at h
        exact ⟨some ⟨mark, sign, ds, shape.1, shape.2.1, shape.2.2⟩, rfl, Option.some.inj h⟩
      · rw [if_neg shape] at h
        cases h
  · rintro ⟨_ | ⟨mark, sign, ds, marked, ne, digits⟩, rfl, rfl⟩
    · rfl
    · have unsigned := stops_isSign_digits (r := []) ne digits
      rw [List.append_nil] at unsigned
      simp only [exponentValue?, Exponent.text, Exponent.value,
        Sign.splitSign_text_append fun _ => unsigned, text_eq_minus_iff]
      rw [if_pos ⟨marked, ne, digits⟩]

theorem stops_exponent {e : Option Exponent} : Text.Stops isDigitOrPoint (Exponent.text e) := by
  cases e with
  | none => exact Text.stops_nil
  | some e => exact Text.stops_cons.2 (isDigitOrPoint_of_isExponentMark e.isExponentMark_mark)

theorem stops_isDigit_of_stops (h : Text.Stops isDigitOrPoint s) : Text.Stops Char.isDigit s :=
  fun c first => (Bool.or_eq_false_iff.1 (h c first)).1

/-- Every text has a point and digits in front, or no point comes first. -/
theorem exists_fractionText_append (s : List Char) :
    ∃ fraction t, Numeral.fractionText fraction ++ t = s ∧ splitFraction s = (fraction.getD [], t) ∧
      (fraction.getD []).all Char.isDigit = true := by
  rw [splitFraction.eq_def]
  split
  · next s =>
    exact ⟨some (s.takeWhile Char.isDigit), s.dropWhile Char.isDigit,
      congrArg _ List.takeWhile_append_dropWhile, rfl, Text.all_takeWhile⟩
  · exact ⟨none, s, rfl, rfl, rfl⟩

theorem splitFraction_append {fraction : Option (List Char)}
    (digits : (fraction.getD []).all Char.isDigit = true) (h : Text.Stops isDigitOrPoint r) :
    splitFraction (Numeral.fractionText fraction ++ r) = (fraction.getD [], r) := by
  cases fraction with
  | none =>
    rw [Numeral.fractionText, List.nil_append, splitFraction.eq_def]
    split
    · exact absurd (Text.stops_cons.1 h) (by decide)
    · rfl
  | some ds =>
    exact congrArg₂ Prod.mk (Text.takeWhile_append_of_stops digits (stops_isDigit_of_stops h))
      (Text.dropWhile_append_of_stops digits (stops_isDigit_of_stops h))

namespace Numeral

variable (n : Numeral)

theorem stops_isSign_mantissa : Text.Stops isSign (n.mantissa ++ r) := by
  by_cases whole : n.whole = []
  · cases fraction : n.fraction with
    | none => exact absurd ⟨whole, by rw [fraction]; rfl⟩ n.digits_ne_nil
    | some ds =>
      rw [mantissa, whole, fraction]
      exact Text.stops_cons.2 (by decide)
  · rw [mantissa, List.append_assoc]
    exact stops_isSign_digits whole n.whole_isDigit

/-- The text of a numeral starts like a real literal. -/
theorem head?_text : (n.text ++ r).head?.any isStart = true := by
  rw [text, List.append_assoc]
  rcases n.sign with _ | _ | _
  · rw [Sign.text, List.nil_append, mantissa]
    cases whole : n.whole with
    | nil =>
      cases fraction : n.fraction with
      | none => exact absurd ⟨whole, by rw [fraction]; rfl⟩ n.digits_ne_nil
      | some ds => rfl
    | cons c ds =>
      have digits := n.whole_isDigit
      rw [whole] at digits
      simp [isStart, (Bool.and_eq_true_iff.1 digits).1]
  · rfl
  · rfl

theorem stops_isDigit_fraction (h : Text.Stops isDigitOrPoint r) :
    Text.Stops Char.isDigit (fractionText n.fraction ++ r) := by
  cases n.fraction with
  | none => exact stops_isDigit_of_stops h
  | some ds => exact Text.stops_cons.2 (by decide)

end Numeral

/-- Exactly the numerals are read, as the doubles nearest to the numbers that they denote. -/
theorem value?_eq_some_iff : value? s = some x ↔ ∃ n : Numeral, n.text = s ∧ n.value = x := by
  constructor
  · intro h
    obtain ⟨sign, t, rfl, unsigned⟩ := Sign.exists_text_append s
    obtain ⟨fraction, r, parts, split, digits⟩ :=
      exists_fractionText_append (t.dropWhile Char.isDigit)
    simp only [value?, Sign.splitSign_text_append unsigned, split, text_eq_minus_iff] at h
    split_ifs at h with empty
    obtain ⟨k, exponent, rfl⟩ := Option.map_eq_some_iff.1 h
    obtain ⟨e, rfl, rfl⟩ := exponentValue?_eq_some_iff.1 exponent
    refine ⟨⟨sign, t.takeWhile Char.isDigit, fraction, e, Text.all_takeWhile, digits, empty⟩, ?_,
      rfl⟩
    rw [Numeral.text, Numeral.mantissa, List.append_assoc, parts, List.takeWhile_append_dropWhile]
  · rintro ⟨n, rfl, rfl⟩
    have exponent := exponentValue?_eq_some_iff.2 ⟨n.exponent, rfl, rfl⟩
    have stops := n.stops_isDigit_fraction (stops_exponent (e := n.exponent))
    simp only [value?, Numeral.text, Sign.splitSign_text_append fun _ => n.stops_isSign_mantissa,
      text_eq_minus_iff]
    rw [Numeral.mantissa, List.append_assoc, Text.takeWhile_append_of_stops n.whole_isDigit stops,
      Text.dropWhile_append_of_stops n.whole_isDigit stops,
      splitFraction_append n.fraction_isDigit stops_exponent, if_neg n.digits_ne_nil, exponent]
    rfl

/-! ## The scan of numerals -/

/-- An exponent starts here, at least by its shape. -/
def StartsExponent (s : List Char) : Prop :=
  ∃ mark c t, s = mark :: c :: t ∧ isExponentMark mark = true ∧ isSignedDigit c = true

theorem startsExponent_cons_iff {mark : Char} :
    StartsExponent (mark :: s) ↔
      isExponentMark mark = true ∧ s.head?.any isSignedDigit = true := by
  constructor
  · rintro ⟨_, c, t, ⟨⟩, marked, signed⟩
    exact ⟨marked, signed⟩
  · rintro ⟨marked, signed⟩
    cases s with
    | nil => cases signed
    | cons c t => exact ⟨mark, c, t, rfl, marked, signed⟩

/-- The numeral ends where no digit and no point follows, and no exponent if it has none. -/
def Numeral.EndsBefore (n : Numeral) (r : List Char) : Prop :=
  Text.Stops isDigitOrPoint r ∧ (n.exponent = none → ¬StartsExponent r)

/-- A numeral ends before a character that no numeral goes on with. -/
theorem Numeral.endsBefore_cons (n : Numeral) (h : isDigitOrPoint c = false)
    (h' : isExponentMark c = false) : n.EndsBefore (c :: s) := by
  refine ⟨Text.stops_cons.2 h, fun _ exponent => ?_⟩
  obtain ⟨mark, _, _, text, marked, -⟩ := exponent
  obtain ⟨rfl, -⟩ := List.cons.inj text
  cases h'.symm.trans marked

theorem splitExponent_of_not_startsExponent (h : ¬StartsExponent s) :
    splitExponent s = ([], s) := by
  rw [splitExponent.eq_def]
  split
  · next e c t =>
    exact if_neg fun shape => h ⟨e, c, t, rfl, (Bool.and_eq_true_iff.1 shape)⟩
  · rfl

theorem not_startsExponent_of_splitExponent (h : (splitExponent s).1 = []) : ¬StartsExponent s := by
  rintro ⟨mark, c, t, rfl, marked, signed⟩
  rw [splitExponent, marked, signed] at h
  cases h

theorem splitExponent_cons {mark : Char} (marked : isExponentMark mark = true)
    (signed : s.head?.any isSignedDigit = true) :
    splitExponent (mark :: s) =
      (mark :: ((splitSign s).1 ++ (splitSign s).2.takeWhile isDigitOrPoint),
        (splitSign s).2.dropWhile isDigitOrPoint) := by
  cases s with
  | nil => cases signed
  | cons c s => exact if_pos (Bool.and_eq_true_iff.2 ⟨marked, signed⟩)

theorem isSign_of_isDigitOrPoint (h : isDigitOrPoint c = true) : isSign c = false := by
  rw [isDigitOrPoint, Bool.or_eq_true, decide_eq_true_eq] at h
  rcases h with digit | rfl
  · exact isSign_of_isDigit digit
  · rfl

/-- The shape of an exponent: a mark that a digit or a sign follows, an optional sign, and digits
and points. -/
inductive HasExponentShape : List Char → Prop where
  | intro {mark : Char} {sign : Option Sign} {ds : List Char} (marked : isExponentMark mark = true)
    (follows : (Sign.text sign ++ ds).head?.any isSignedDigit = true)
    (characters : ds.all isDigitOrPoint = true) :
    HasExponentShape (mark :: (Sign.text sign ++ ds))

/-- A text of the shape of an exponent is taken with all digits and points that follow. -/
theorem HasExponentShape.splitExponent_append {e : List Char} (h : HasExponentShape e)
    (r : List Char) :
    splitExponent (e ++ r) = (e ++ r.takeWhile isDigitOrPoint, r.dropWhile isDigitOrPoint) := by
  obtain @⟨mark, sign, ds, marked, follows, characters⟩ := h
  have unsigned : sign = none → Text.Stops isSign (ds ++ r) := by
    rintro rfl
    cases ds with
    | nil => cases follows
    | cons c ds =>
      have character := List.all_eq_true.1 characters c List.mem_cons_self
      exact Text.stops_cons.2 (isSign_of_isDigitOrPoint character)
  have signed := Text.any_head?_append (r := r) follows
  rw [List.append_assoc] at signed
  rw [List.cons_append, List.append_assoc, splitExponent_cons marked signed,
    Sign.splitSign_text_append unsigned,
    List.takeWhile_append_of_pos (List.all_eq_true.1 characters),
    List.dropWhile_append_of_pos (List.all_eq_true.1 characters), ← List.append_assoc]
  rfl

theorem Exponent.hasExponentShape (e : Exponent) : HasExponentShape (Exponent.text (some e)) := by
  obtain ⟨mark, sign, ds, marked, ne, digits⟩ := e
  refine .intro marked ?_ (List.all_eq_true.2 fun d h => ?_)
  · rcases sign with _ | _ | _
    · obtain ⟨c, ds, rfl⟩ := List.exists_cons_of_ne_nil ne
      exact Bool.or_eq_true_iff.2 (.inl (List.all_eq_true.1 digits c List.mem_cons_self))
    · rfl
    · rfl
  · rw [isDigitOrPoint, List.all_eq_true.1 digits d h, Bool.true_or]

/-- After an exponent the scan takes the digits and points that follow. -/
theorem splitExponent_text_append (e : Exponent) :
    splitExponent (Exponent.text (some e) ++ r) =
      (Exponent.text (some e) ++ r.takeWhile isDigitOrPoint, r.dropWhile isDigitOrPoint) :=
  e.hasExponentShape.splitExponent_append r

theorem Numeral.all_mantissa (n : Numeral) : ∀ c ∈ n.mantissa, isDigitOrPoint c = true := by
  have whole := List.all_eq_true.1 n.whole_isDigit
  have fraction := List.all_eq_true.1 n.fraction_isDigit
  intro c h
  rcases List.mem_append.1 h with h | h
  · rw [isDigitOrPoint, whole c h, Bool.true_or]
  · rcases point : n.fraction with _ | ds <;> rw [point] at h fraction
    · cases h
    · rcases List.mem_cons.1 h with rfl | h
      · rfl
      · rw [isDigitOrPoint, fraction c h, Bool.true_or]

/-- The scan of a real literal takes a numeral and no more exactly where the numeral ends. -/
theorem split_text_append_iff (n : Numeral) :
    split (n.text ++ r) = (n.text, r) ↔ n.EndsBefore r := by
  rw [Numeral.text, Numeral.EndsBefore]
  simp only [split, List.append_assoc, Sign.splitSign_text_append fun _ => n.stops_isSign_mantissa]
  rw [List.takeWhile_append_of_pos n.all_mantissa, List.dropWhile_append_of_pos n.all_mantissa]
  cases n.exponent with
  | none =>
    rw [Exponent.text, List.nil_append, List.append_nil, Prod.mk.injEq]
    constructor
    · rintro ⟨taken, -⟩
      rw [List.append_right_inj, List.append_assoc, List.append_right_eq_self,
        List.append_eq_nil_iff] at taken
      have stops := Text.takeWhile_eq_nil_iff_stops.1 taken.1
      rw [Text.dropWhile_of_stops stops] at taken
      exact ⟨stops, fun _ => not_startsExponent_of_splitExponent taken.2⟩
    · rintro ⟨stops, ends⟩
      rw [Text.takeWhile_eq_nil_iff_stops.2 stops, Text.dropWhile_of_stops stops,
        splitExponent_of_not_startsExponent (ends rfl)]
      simp
  | some e =>
    have stops : Text.Stops isDigitOrPoint (Exponent.text (some e) ++ r) :=
      Text.stops_cons.2 (isDigitOrPoint_of_isExponentMark e.isExponentMark_mark)
    rw [Text.takeWhile_eq_nil_iff_stops.2 stops, Text.dropWhile_of_stops stops,
      splitExponent_text_append]
    simp only [List.append_nil, Prod.mk.injEq, List.append_right_inj, List.append_right_eq_self,
      Text.takeWhile_eq_nil_iff_stops, reduceCtorEq, IsEmpty.forall_iff, and_true]
    exact and_iff_left_of_imp Text.dropWhile_of_stops

end Literal

end Metrology
