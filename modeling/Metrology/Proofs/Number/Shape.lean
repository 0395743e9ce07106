import Metrology.Proofs.Number.Numeral

/-!
# The shape of real literals

The texts that are scanned as real literals before any of them is read as a number: an optional
sign, digits and points, and behind them an exponent that may be left out (`Literal.HasShape`).  The
scan takes the longest text of this shape and no more (`Literal.takes_iff`).  So it never takes a
letter `e` or `E` that neither a digit nor a sign follows, or that stands behind an exponent
(`Literal.Takes.suffix_of_mark`).
-/

namespace Metrology.Literal

variable {s r u v w ds e : List Char} {c mark : Char} {sign : Option Sign}

/-! ## Shapes -/

/-- The shape of a real literal: an optional sign, digits and points, and an exponent that may be
left out. -/
inductive HasShape : List Char → Prop where
  | intro {sign : Option Sign} {ds e : List Char} (characters : ds.all isDigitOrPoint = true)
    (exponent : e = [] ∨ HasExponentShape e) : HasShape (Sign.text sign ++ (ds ++ e))

/-- In front of `s`, the text `w` is the longest one of the shape of a real literal, and `r` is what
it leaves. -/
structure Takes (s w r : List Char) : Prop where
  append_eq : w ++ r = s
  hasShape : HasShape w
  longest : ∀ v, v <+: s → HasShape v → v.length ≤ w.length

/-! ## Characters -/

theorem isSign_of_isExponentMark (h : isExponentMark c = true) : isSign c = false := by
  rw [isExponentMark, Bool.or_eq_true, decide_eq_true_eq, decide_eq_true_eq] at h
  rcases h with rfl | rfl <;> decide

theorem isExponentMark_of_isDigitOrPoint (h : isDigitOrPoint c = true) :
    isExponentMark c = false := by
  by_contra marked
  rw [isDigitOrPoint_of_isExponentMark (Bool.not_eq_false _ ▸ marked)] at h
  cases h

theorem isExponentMark_of_isSign (h : isSign c = true) : isExponentMark c = false := by
  rcases isSign_iff.1 h with rfl | rfl <;> rfl

/-- An optional sign, digits and points hold no mark. -/
theorem isExponentMark_of_mem (characters : ds.all isDigitOrPoint = true)
    (h : c ∈ Sign.text sign ++ ds) : isExponentMark c = false := by
  rcases List.mem_append.1 h with h | h
  · exact isExponentMark_of_isSign (List.all_eq_true.1 Sign.all_text c h)
  · exact isExponentMark_of_isDigitOrPoint (List.all_eq_true.1 characters c h)

/-! ## What the scan takes -/

theorem splitExponent_shape (s : List Char) :
    (splitExponent s).1 = [] ∨ HasExponentShape (splitExponent s).1 := by
  by_cases starts : StartsExponent s
  · obtain ⟨mark, c, t, rfl, marked, signed⟩ := starts
    right
    rw [splitExponent_cons (s := c :: t) marked signed]
    obtain ⟨sign, t', text, unsigned⟩ := Sign.exists_text_append (c :: t)
    rw [← text, Sign.splitSign_text_append unsigned]
    refine .intro marked ?_ Text.all_takeWhile
    rcases sign with _ | _ | _
    · -- The character behind the mark is a digit, for it is no sign.
      obtain rfl : t' = c :: t := text
      have digit : c.isDigit = true := by
        rw [isSignedDigit, Text.stops_cons.1 (unsigned rfl), Bool.or_false] at signed
        exact signed
      rw [Sign.text, List.nil_append, List.takeWhile_cons_of_pos]
      · exact signed
      · rw [isDigitOrPoint, digit, Bool.true_or]
    · rfl
    · rfl
  · left
    rw [splitExponent_of_not_startsExponent starts]

theorem hasShape_split (s : List Char) : HasShape (split s).1 := by
  obtain ⟨sign, t, rfl, unsigned⟩ := Sign.exists_text_append s
  simp only [split, Sign.splitSign_text_append unsigned, List.append_assoc]
  exact .intro Text.all_takeWhile (splitExponent_shape _)

theorem HasExponentShape.stops_isDigitOrPoint (h : HasExponentShape e) :
    Text.Stops isDigitOrPoint (e ++ r) := by
  cases h with
  | intro marked => exact Text.stops_cons.2 (isDigitOrPoint_of_isExponentMark marked)

/-- Digits, points and an exponent do not start with a sign. -/
theorem stops_isSign_unsigned (characters : ds.all isDigitOrPoint = true)
    (exponent : e = [] ∨ HasExponentShape e) (ne : ds ++ e ≠ []) :
    Text.Stops isSign (ds ++ e ++ r) := by
  cases ds with
  | nil =>
    rcases exponent with rfl | @⟨mark, sign, ds, marked⟩
    · exact absurd rfl ne
    · exact Text.stops_cons.2 (isSign_of_isExponentMark marked)
  | cons c ds =>
    have character := List.all_eq_true.1 characters c List.mem_cons_self
    exact Text.stops_cons.2 (isSign_of_isDigitOrPoint character)

/-- The scan takes a text of the shape whatever follows it, and may go on with what follows. -/
theorem HasShape.prefix_split (h : HasShape w) (r : List Char) : w <+: (split (w ++ r)).1 := by
  obtain @⟨sign, ds, e, characters, exponent⟩ := h
  by_cases empty : sign = none ∧ ds ++ e = []
  · rw [empty.1, empty.2]
    exact List.nil_prefix
  have unsigned : sign = none → Text.Stops isSign (ds ++ e ++ r) := fun bare =>
    stops_isSign_unsigned characters exponent fun nil => empty ⟨bare, nil⟩
  rw [List.append_assoc]
  simp only [split, Sign.splitSign_text_append unsigned]
  rw [List.append_assoc, List.prefix_append_right_inj, List.append_assoc]
  rcases exponent with rfl | exponent
  · have all := List.all_eq_true.1 characters
    rw [List.append_nil, List.nil_append, List.takeWhile_append_of_pos all, List.append_assoc]
    exact List.prefix_append _ _
  · have stops := exponent.stops_isDigitOrPoint (r := r)
    rw [Text.takeWhile_append_of_stops characters stops,
      Text.dropWhile_append_of_stops characters stops, exponent.splitExponent_append r,
      List.prefix_append_right_inj]
    exact List.prefix_append _ _

theorem takes_split (s : List Char) : Takes s (split s).1 (split s).2 where
  append_eq := split_append s
  hasShape := hasShape_split s
  longest := by
    rintro v ⟨t, rfl⟩ shape
    exact (shape.prefix_split t).length_le

theorem Takes.unique {w' r' : List Char} (h : Takes s w r) (h' : Takes s w' r') :
    w = w' ∧ r = r' := by
  have starts : w <+: s := ⟨r, h.append_eq⟩
  have starts' : w' <+: s := ⟨r', h'.append_eq⟩
  have same : w.length = w'.length :=
    Nat.le_antisymm (h'.longest w starts h.hasShape) (h.longest w' starts' h'.hasShape)
  exact List.append_inj (h.append_eq.trans h'.append_eq.symm) same

/-- The scan takes the longest text of the shape of a real literal. -/
theorem takes_iff : Takes s w r ↔ split s = (w, r) := by
  constructor
  · intro h
    obtain ⟨rfl, rfl⟩ := (takes_split s).unique h
    rfl
  · intro h
    have takes := takes_split s
    rwa [h] at takes

/-! ## Marks of exponents -/

/-- A shape has one mark at most, and a digit or a sign follows it. -/
theorem HasShape.of_mark (h : HasShape (u ++ mark :: v)) (marked : isExponentMark mark = true) :
    (∀ c ∈ u, isExponentMark c = false) ∧ v.head?.any isSignedDigit = true := by
  obtain ⟨w, text⟩ : ∃ w, w = u ++ mark :: v := ⟨_, rfl⟩
  rw [← text] at h
  obtain @⟨sign, ds, e, characters, exponent⟩ := h
  have absent {sign : Option Sign} {ds : List Char} (characters : ds.all isDigitOrPoint = true) :
      mark ∉ Sign.text sign ++ ds := by
    intro member
    cases marked.symm.trans (isExponentMark_of_mem characters member)
  rw [← List.append_assoc] at text
  rcases exponent with rfl | ⟨-, follows, characters'⟩
  · rw [List.append_nil] at text
    have member : mark ∈ u ++ mark :: v := List.mem_append_right u List.mem_cons_self
    exact absurd (text ▸ member) (absent characters)
  · -- The mark of the exponent is the only one, so it is the given one.
    obtain ⟨rfl, rfl, rfl⟩ :=
      (List.append_cons_inj_of_notMem (absent characters) (absent characters')).1 text
    exact ⟨fun c => isExponentMark_of_mem characters, follows⟩

/-- A mark that neither a digit nor a sign follows, or that another mark stands before, is left
with all that stands behind it. -/
theorem Takes.suffix_of_mark (h : Takes (u ++ mark :: v) w r) (marked : isExponentMark mark = true)
    (stays : ¬v.head?.any isSignedDigit = true ∨ ∃ c ∈ u, isExponentMark c = true) :
    mark :: v <:+ r := by
  have starts : w <+: u ++ mark :: v := ⟨r, h.append_eq⟩
  rcases List.prefix_or_prefix_of_prefix starts (List.prefix_append u _) with ⟨t, rfl⟩ | ⟨t, rfl⟩
  · have text := h.append_eq
    rw [List.append_assoc, List.append_cancel_left_eq] at text
    exact ⟨t, text.symm⟩
  · have text := h.append_eq
    rw [List.append_assoc, List.append_cancel_left_eq] at text
    cases t with
    | nil =>
      rw [← text]
      exact List.suffix_refl _
    | cons c t =>
      -- The mark would be taken with what stands before it.
      obtain ⟨rfl, rfl⟩ := List.cons.inj text
      obtain ⟨unmarked, follows⟩ := h.hasShape.of_mark marked
      rcases stays with nothing | ⟨c, member, marked'⟩
      · exact absurd (Text.any_head?_append follows) nothing
      · cases (unmarked c member).symm.trans marked'

end Metrology.Literal
