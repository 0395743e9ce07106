import Metrology.Proofs.Expression.Grammar

/-!
# Factors without parentheses

How the reader takes a unit word apart, into a prefix (`Scale`) and a name (`Name`).  What it reads
as a factor is one of the grammar (`spells_of_readSimpleFactor`), and it reads the factors of the
grammar before a character that ends them (`yields_one`, `yields_ten`, `yields_word`,
`yields_missing`).
-/

namespace Metrology.Expression

variable {o : Options} {s t r w : List Char} {c d : Char} {x : Option Float} {e : Expression}
  {names : List String}

/-! ## Prefixes -/

/-- The character `c` is no prefix where `d` is the next one. -/
def IsUnscaled (escape c d : Char) : Prop :=
  c = escape ∨ ¬(d = escape ∨ Text.isLetter d = true) ∨ isUnprefixedPair c d = true ∨
    Prefix.letterFactor? c = none

/-- The prefix that the reader takes off a text. -/
inductive Scale (escape : Char) : List Char → Option Float → List Char → Prop where
  | absent {s : List Char} (h : ∀ c d t, s = c :: d :: t → IsUnscaled escape c d) :
    Scale escape s none s
  | deka {r : List Char} : Scale escape ('d' :: 'a' :: r) (some Prefix.deka) r
  | letter {c d : Char} {x : Float} {r : List Char} (factor : Prefix.letterFactor? c = some x)
    (scaled : ¬IsUnscaled escape c d) (deka : ¬(c = 'd' ∧ d = 'a')) :
    Scale escape (c :: d :: r) (some x) (d :: r)

theorem not_isUnscaled_deka : ¬IsUnscaled o.escape 'd' 'a' := by
  rintro (escape | letter | pair | factor)
  · exact o.escape_ne (Options.isEscape_of_isLetter rfl) escape
  · exact letter (.inr (by decide))
  · cases pair
  · cases factor

/-- No prefix stands where no name can start behind it. -/
theorem isUnscaled_of_not_letter (escape : d ≠ o.escape) (letter : Text.isLetter d = false) :
    IsUnscaled o.escape c d := by
  refine .inr (.inl ?_)
  rw [letter]
  simpa using escape

theorem Scale.unique {x' : Option Float} {r' : List Char} (h : Scale o.escape s x r)
    (h' : Scale o.escape s x' r') : x = x' ∧ r = r' := by
  cases h with
  | absent h =>
    cases h' with
    | absent => exact ⟨rfl, rfl⟩
    | deka => exact absurd (h _ _ _ rfl) not_isUnscaled_deka
    | letter _ scaled => exact absurd (h _ _ _ rfl) scaled
  | deka =>
    cases h' with
    | absent h' => exact absurd (h' _ _ _ rfl) not_isUnscaled_deka
    | deka => exact ⟨rfl, rfl⟩
    | letter _ _ deka => exact absurd ⟨rfl, rfl⟩ deka
  | letter factor scaled deka =>
    cases h' with
    | absent h' => exact absurd (h' _ _ _ rfl) scaled
    | deka => exact absurd ⟨rfl, rfl⟩ deka
    | letter factor' => exact ⟨factor.symm.trans factor', rfl⟩

/-- The reader takes off a prefix or none. -/
theorem exists_scale (o : Options) (s : List Char) :
    ∃ x r, (readScale o.escape s).Yields [] x r ∧ Scale o.escape s x r := by
  rcases s with _ | ⟨c, _ | ⟨d, t⟩⟩
  · exact ⟨none, [], Reading.yields_noting.2 (Reading.yields_done.2 ⟨rfl, rfl, rfl⟩),
      .absent (by rintro c d t ⟨⟩)⟩
  · exact ⟨none, [c], Reading.yields_noting.2 (Reading.yields_done.2 ⟨rfl, rfl, rfl⟩),
      .absent (by rintro c d t ⟨⟩)⟩
  · simp only [readScale, Reading.yields_noting]
    split_ifs with refused deka
    · refine ⟨_, _, Reading.yields_done.2 ⟨rfl, rfl, rfl⟩, .absent ?_⟩
      rintro _ _ _ ⟨⟩
      simp only [Bool.or_eq_true, decide_eq_true_eq, Bool.not_eq_true', ← Bool.not_eq_true]
        at refused
      rcases refused with (refused | refused) | refused
      · exact .inl refused
      · exact .inr (.inl refused)
      · exact .inr (.inr (.inl refused))
    · simp only [Bool.and_eq_true, decide_eq_true_eq] at deka
      obtain ⟨rfl, rfl⟩ := deka
      exact ⟨_, _, Reading.yields_done.2 ⟨rfl, rfl, rfl⟩, .deka⟩
    · simp only [Bool.or_eq_true, decide_eq_true_eq, Bool.not_eq_true', ← Bool.not_eq_true, not_or]
        at refused
      cases factor : Prefix.letterFactor? c with
      | none =>
        refine ⟨_, _, Reading.yields_done.2 ⟨rfl, rfl, rfl⟩, .absent ?_⟩
        rintro _ _ _ ⟨⟩
        exact .inr (.inr (.inr factor))
      | some x =>
        have noDeka : ¬(c = 'd' ∧ d = 'a') := by simpa using deka
        refine ⟨_, _, Reading.yields_done.2 ⟨rfl, rfl, rfl⟩, .letter factor ?_ noDeka⟩
        rintro (escape | letter | pair | absent)
        · exact refused.1.1 escape
        · exact refused.1.2 (not_or.1 letter)
        · exact refused.2 pair
        · cases factor.symm.trans absent

theorem yields_readScale :
    (readScale o.escape s).Yields names x r ↔ names = [] ∧ Scale o.escape s x r := by
  obtain ⟨x', r', reads, scale⟩ := exists_scale o s
  constructor
  · intro h
    obtain ⟨rfl, rfl, rfl⟩ := h.unique reads
    exact ⟨rfl, scale⟩
  · rintro ⟨rfl, h⟩
    obtain ⟨rfl, rfl⟩ := h.unique scale
    exact reads

/-! ## Names -/

/-- The one or the name that the reader takes off a text. -/
inductive Name (escape : Char) : List Char → Expression → List Char → Prop where
  | one {r : List Char} : Name escape ('1' :: '/' :: r) .one ('/' :: r)
  | bare {w r : List Char} (name : IsBareName w) (ends : Text.Stops isNameCharacter r) :
    Name escape (w ++ r) (.unit (String.ofList w)) r
  | escaped {w r : List Char} (name : IsName w) (ends : Text.Stops isNameCharacter r) :
    Name escape (escape :: (w ++ r)) (.unit (String.ofList w)) r

theorem startsName_iff :
    startsName o.escape s = true ↔
      s.head?.any Text.isLetter = true ∨
        (∃ t, s = o.escape :: t ∧ t.head?.any Text.isLetter = true) ∨
          ∃ t, s = '\'' :: 'C' :: t := by
  cases s with
  | nil => simp [startsName]
  | cons c s =>
    simp only [startsName, Bool.or_eq_true, Bool.and_eq_true, decide_eq_true_eq, or_assoc]
    refine or_congr (by simp) (or_congr ?_ ?_)
    · simp [and_comm]
    · cases s <;> simp

theorem isName_takeWhile (h : s.head?.any Text.isLetter = true) :
    IsName (s.takeWhile isNameCharacter) := by
  cases s with
  | nil => cases h
  | cons c s =>
    have letter : Text.isLetter c = true := h
    have fits : isNameCharacter c = true := by rw [isNameCharacter, letter, Bool.or_true]
    exact ⟨by rw [List.takeWhile_cons_of_pos fits]; exact h, Text.all_takeWhile⟩

theorem yields_readUnit_of_startsName (one : s.head? ≠ some '1')
    (starts : startsName o.escape s = true)
    (ht : (if s.head? = some o.escape then s.tail else s) = t) :
    (readUnit o.escape s).Yields names e r ↔
      names = e.names ∧ e = .unit (String.ofList (t.takeWhile isNameCharacter)) ∧
        r = t.dropWhile isNameCharacter := by
  subst ht
  rw [readUnit, Reading.yields_noting, if_neg one, if_pos starts]
  simp only [Reading.yields_noting, Reading.yields_after_request, Reading.yields_done]
  constructor
  · rintro ⟨_, rfl, rfl, rfl, rfl⟩
    exact ⟨rfl, rfl, rfl⟩
  · rintro ⟨rfl, rfl, rfl⟩
    exact ⟨_, rfl, rfl, rfl, rfl⟩

theorem isNameCharacter_escape : isNameCharacter o.escape = false := by
  rw [isNameCharacter, o.isLetter_escape, Bool.or_false, decide_eq_false_iff_not]
  exact (o.escape_ne (Options.isEscape_of_reserved rfl)).symm

theorem IsBareName.all (h : IsBareName w) : w.all isNameCharacter = true := by
  rcases h with name | ⟨n, rfl, characters⟩
  · exact name.2
  · exact characters

theorem IsBareName.exists_cons (h : IsBareName w) :
    ∃ c n, w = c :: n ∧ isNameCharacter c = true := by
  have ne : w ≠ [] := by
    rintro rfl
    rcases h with name | ⟨n, nil, -⟩
    · cases name.1
    · cases nil
  obtain ⟨c, n, rfl⟩ := List.exists_cons_of_ne_nil ne
  exact ⟨c, n, rfl, (Bool.and_eq_true_iff.1 h.all).1⟩

theorem IsBareName.startsName (h : IsBareName w) :
    Expression.startsName o.escape (w ++ r) = true := by
  rw [startsName_iff]
  rcases h with name | ⟨n, rfl, -⟩
  · exact .inl (Text.any_head?_append name.1)
  · exact .inr (.inr ⟨n ++ r, rfl⟩)

theorem yields_readUnit :
    (readUnit o.escape s).Yields names e r ↔ names = e.names ∧ Name o.escape s e r := by
  constructor
  · intro h
    by_cases one : s.head? = some '1'
    · rw [readUnit, Reading.yields_noting, if_pos one] at h
      split_ifs at h with solidus
      · obtain ⟨rfl, rfl, rfl⟩ := Reading.yields_done.1 h
        rcases s with _ | ⟨c, _ | ⟨d, s⟩⟩
        · cases one
        · cases solidus
        · cases one
          cases solidus
          exact ⟨rfl, .one⟩
      · exact absurd h Reading.not_yields_fail
    by_cases starts : startsName o.escape s = true
    · by_cases escaped : s.head? = some o.escape
      · rw [yields_readUnit_of_startsName one starts (if_pos escaped)] at h
        obtain ⟨rfl, rfl, rfl⟩ := h
        refine ⟨rfl, ?_⟩
        rcases startsName_iff.1 starts with letter | ⟨t, rfl, letter⟩ | ⟨t, rfl⟩
        · rw [escaped, Option.any_some, o.isLetter_escape] at letter
          cases letter
        · have name : Name o.escape (o.escape :: (t.takeWhile isNameCharacter ++
              t.dropWhile isNameCharacter)) _ _ :=
            .escaped (isName_takeWhile letter) (Text.stops_dropWhile t)
          rw [List.takeWhile_append_dropWhile] at name
          exact name
        · exact absurd (Option.some.inj escaped) (o.escape_ne (Options.isEscape_of_reserved rfl))
      · rw [yields_readUnit_of_startsName one starts (if_neg escaped)] at h
        obtain ⟨rfl, rfl, rfl⟩ := h
        have bare : IsBareName (s.takeWhile isNameCharacter) := by
          rcases startsName_iff.1 starts with letter | ⟨t, rfl, letter⟩ | ⟨t, rfl⟩
          · exact .inl (isName_takeWhile letter)
          · exact absurd rfl escaped
          · exact .inr ⟨t.takeWhile isNameCharacter, rfl, Text.all_takeWhile⟩
        have name : Name o.escape
            (s.takeWhile isNameCharacter ++ s.dropWhile isNameCharacter) _ _ :=
          .bare bare (Text.stops_dropWhile s)
        rw [List.takeWhile_append_dropWhile] at name
        exact ⟨rfl, name⟩
    · rw [readUnit, Reading.yields_noting, if_neg one, if_neg starts] at h
      exact absurd h Reading.not_yields_fail
  · rintro ⟨rfl, name⟩
    cases name with
    | @one r =>
      have one : ('1' :: '/' :: r).head? = some '1' := rfl
      have solidus : ('1' :: '/' :: r).tail.head? = some '/' := rfl
      rw [readUnit, Reading.yields_noting, if_pos one, if_pos solidus]
      exact Reading.yields_done.2 ⟨rfl, rfl, rfl⟩
    | @bare w r name ends =>
      obtain ⟨c, n, rfl, head⟩ := name.exists_cons
      have one : (c :: n ++ r).head? ≠ some '1' := by
        rintro ⟨⟩
        cases head
      have unescaped : (c :: n ++ r).head? ≠ some o.escape := by
        rintro ⟨⟩
        rw [isNameCharacter_escape] at head
        cases head
      rw [yields_readUnit_of_startsName one name.startsName (if_neg unescaped),
        Text.takeWhile_append_of_stops name.all ends, Text.dropWhile_append_of_stops name.all ends]
      exact ⟨rfl, rfl, rfl⟩
    | @escaped w r name ends =>
      have starts : startsName o.escape (o.escape :: (w ++ r)) = true :=
        startsName_iff.2 (.inr (.inl ⟨w ++ r, rfl, Text.any_head?_append name.1⟩))
      have one : (o.escape :: (w ++ r)).head? ≠ some '1' := fun h =>
        o.escape_ne (reserves_isStart _ rfl) (Option.some.inj h).symm
      rw [yields_readUnit_of_startsName one starts (if_pos rfl), List.tail_cons,
        Text.takeWhile_append_of_stops name.2 ends, Text.dropWhile_append_of_stops name.2 ends]
      exact ⟨rfl, rfl, rfl⟩

/-! ## Words -/

variable {n : Option Whole.Numeral}

/-- A solidus is no power. -/
theorem powerText_eq_of_solidus (h : '/' :: t = powerText n ++ r) : n = none ∧ '/' :: t = r := by
  cases n with
  | none => exact ⟨rfl, h⟩
  | some n =>
    have signed := head?_powerText (n := n) (r := r)
    rw [powerText] at h
    rw [← h] at signed
    cases signed

theorem word_of_code {code : List Char} {x : Float}
    (factor : Prefix.factor? (String.ofList code) = some x) (name : IsName w) :
    Word o.escape (code ++ o.escape :: w) (.scaled x (.unit (String.ofList w))) := by
  have word : Word o.escape ((String.ofList code).toList ++ o.escape :: w) _ :=
    .prefixed factor name
  rwa [String.toList_ofList] at word

/-- A prefix and a name make a word. -/
theorem spells_of_scale (scale : Scale o.escape s x t)
    (name : Name o.escape t e (powerText n ++ r)) :
    Spells o true .factor s ((e.scaledBy x).raised n) r := by
  generalize power : powerText n ++ r = u at name
  cases name with
  | one =>
    obtain ⟨rfl, rfl⟩ := powerText_eq_of_solidus power.symm
    cases scale with
    | absent => exact .one
    | deka => exact .ten rfl
    | letter _ scaled =>
      exact absurd (isUnscaled_of_not_letter (o.escape_ne (reserves_isStart _ rfl)) rfl) scaled
  | @bare w _ name =>
    subst power
    obtain ⟨c, w, rfl, -⟩ := name.exists_cons
    cases scale with
    | absent h =>
      rcases name with name | ⟨w, ⟨⟩, characters⟩
      · refine .unit (.plain name fun d next letter => ?_) n
        obtain ⟨w, rfl⟩ : ∃ w', w = d :: w' := by
          rcases w with _ | ⟨_, w⟩
          · cases next
          · exact ⟨w, congrArg (· :: w) (Option.some.inj next)⟩
        rcases h c d _ rfl with escape | noLetter | pair
        · have first : Text.isLetter c = true := name.1
          rw [escape, o.isLetter_escape] at first
          cases first
        · exact absurd (.inr letter) noLetter
        · exact pair
      · exact .unit (.celsius characters) n
    | deka => exact .unit (.deka name) n
    | letter factor scaled deka =>
      rcases name with name | ⟨w, ⟨⟩, -⟩
      · refine .unit (.letter factor name ?_ deka) n
        exact Bool.eq_false_iff.2 fun pair => scaled (.inr (.inr (.inl pair)))
      · have mark : '\'' ≠ o.escape := o.escape_ne (Options.isEscape_of_reserved rfl)
        exact absurd (isUnscaled_of_not_letter mark rfl) scaled
  | @escaped w _ name =>
    subst power
    cases scale with
    | absent => exact .unit (.escaped name) n
    | deka =>
      have code : Prefix.factor? (String.ofList ['d', 'a']) = some Prefix.deka :=
        factor?_eq_some_iff.2 (.inr ⟨String.toList_ofList, rfl⟩)
      exact .unit (word_of_code code name) n
    | @letter c _ x _ factor =>
      have code : Prefix.factor? (String.ofList [c]) = some x :=
        factor?_eq_some_iff.2 (.inl ⟨c, String.toList_ofList, factor⟩)
      exact .unit (word_of_code code name) n

/-- A character that ends a factor: an operator or a closing parenthesis. -/
def EndsFactor (r : List Char) : Prop := ∀ c ∈ r.head?, isOperator c = true ∨ c = ')'

theorem stops_isSignedDigit (ends : EndsFactor r) : Text.Stops Literal.isSignedDigit r := by
  intro c first
  rcases ends c first with operator | rfl
  · exact isSignedDigit_of_isOperator operator
  · decide

/-- Neither the escape character nor the character of a name comes after a word. -/
theorem not_name_of_endsFactor (ends : EndsFactor r) (n : Option Whole.Numeral) :
    ∀ c ∈ (powerText n ++ r).head?, c ≠ o.escape ∧ isNameCharacter c = false := by
  intro c first
  cases n with
  | none =>
    rcases ends c first with operator | rfl
    · exact ⟨o.escape_ne (reserves_isOperator _ operator),
        isNameCharacter_of_isOperator operator⟩
    · exact ⟨o.escape_ne (Options.isEscape_of_reserved rfl), by decide⟩
  | some n =>
    have signed := head?_powerText (n := n) (r := r)
    rw [powerText] at first
    rw [first, Option.any_some, Literal.isSignedDigit, Bool.or_eq_true,
      Literal.isSign_iff] at signed
    rcases signed with digit | rfl | rfl
    · refine ⟨o.escape_ne (Options.isEscape_of_isDigit digit), ?_⟩
      obtain ⟨_, _⟩ := Text.toNat_of_isDigit digit
      rw [isNameCharacter, isLetter_eq_false (by omega), Bool.or_false, decide_eq_false_iff_not]
      rintro rfl
      cases digit
    · exact ⟨o.escape_ne (Options.isEscape_of_reserved rfl), by decide⟩
    · exact ⟨o.escape_ne (Options.isEscape_of_reserved rfl), by decide⟩

theorem not_isUnscaled {x : Float} (factor : Prefix.letterFactor? c = some x)
    (follows : d = o.escape ∨ Text.isLetter d = true) (pair : isUnprefixedPair c d = false) :
    ¬IsUnscaled o.escape c d := by
  rintro (escape | bare | pair' | absent)
  · have letter := isLetter_of_letterFactor? factor
    rw [escape, o.isLetter_escape] at letter
    cases letter
  · exact bare follows
  · cases pair.symm.trans pair'
  · cases factor.symm.trans absent

theorem isUnprefixedPair_escape : isUnprefixedPair c o.escape = false := by
  by_contra pair
  rw [Bool.not_eq_false] at pair
  simp only [isUnprefixedPair, List.contains_iff_mem, List.mem_cons, List.not_mem_nil, or_false,
    Prod.mk.injEq] at pair
  rcases pair with h | h | h | h | h | h <;>
    exact o.escape_ne (Options.isEscape_of_isLetter rfl) h.2.symm

/-- A plain letter is read without a prefix. -/
theorem isUnscaled_of_isPlain {u : List Char} (name : IsName (c :: w)) (plain : IsPlain c w)
    (next : ∀ d ∈ u.head?, d ≠ o.escape ∧ isNameCharacter d = false) (h : w ++ u = d :: t) :
    IsUnscaled o.escape c d := by
  cases w with
  | nil =>
    obtain ⟨escape, character⟩ := next d (by rw [List.nil_append] at h; rw [h]; rfl)
    exact isUnscaled_of_not_letter escape (Bool.or_eq_false_iff.1 character).2
  | cons d' w =>
    obtain ⟨rfl, -⟩ := List.cons.inj h
    by_cases letter : Text.isLetter d' = true
    · exact .inr (.inr (plain d' rfl letter))
    · refine isUnscaled_of_not_letter ?_ (Bool.eq_false_iff.2 letter)
      rintro rfl
      have character := List.all_eq_true.1 name.2 o.escape (by simp)
      rw [isNameCharacter_escape] at character
      cases character

/-- A word is taken apart into a prefix and a name. -/
theorem exists_scale_of_word (word : Word o.escape w e) (ends : EndsFactor r)
    (n : Option Whole.Numeral) :
    ∃ x t f, Scale o.escape (w ++ (powerText n ++ r)) x t ∧
      Name o.escape t f (powerText n ++ r) ∧ e = f.scaledBy x := by
  have next := not_name_of_endsFactor (o := o) ends n
  have stops : Text.Stops isNameCharacter (powerText n ++ r) := fun c first => (next c first).2
  generalize powerText n ++ r = u at next stops
  cases word with
  | escaped name =>
    refine ⟨none, _, _, .absent fun c d t text => ?_, .escaped name stops, rfl⟩
    exact .inl (List.cons.inj text).1.symm
  | @prefixed code x w factor name =>
    rw [List.append_assoc]
    rcases factor?_eq_some_iff.1 factor with ⟨c, code, factor⟩ | ⟨code, rfl⟩ <;> rw [code]
    · refine ⟨some x, _, _, .letter factor ?_ ?_, .escaped name stops, rfl⟩
      · exact not_isUnscaled factor (.inl rfl) isUnprefixedPair_escape
      · exact fun deka => o.escape_ne (Options.isEscape_of_isLetter rfl) deka.2.symm
    · exact ⟨some Prefix.deka, _, _, .deka, .escaped name stops, rfl⟩
  | celsius characters =>
    refine ⟨none, _, _, .absent fun c d t text => ?_, .bare (.inr ⟨_, rfl, characters⟩) stops, rfl⟩
    rw [← (List.cons.inj text).1]
    exact .inr (.inr (.inr rfl))
  | deka name => exact ⟨some Prefix.deka, _, _, .deka, .bare name stops, rfl⟩
  | @plain c w name plain =>
    refine ⟨none, _, _, .absent fun c d t text => ?_, .bare (.inl name) stops, rfl⟩
    obtain ⟨rfl, rest⟩ := List.cons.inj text
    exact isUnscaled_of_isPlain name plain next rest
  | @letter c d x w factor name pair deka =>
    have letter : Text.isLetter d = true := name.1
    exact ⟨some x, _, _, .letter factor (not_isUnscaled factor (.inr letter) pair) deka,
      .bare (.inl name) stops, rfl⟩

/-! ## Factors -/

theorem names_scaledBy : (e.scaledBy x).names = e.names := by
  cases x <;> rfl

theorem names_raised : (e.raised n).names = e.names := by
  cases n <;> rfl

/-- A one or a name starts here, perhaps with a prefix. -/
def Present (o : Options) (s : List Char) : Prop :=
  s.head? = some '1' ∨ startsName o.escape s = true

theorem isMissing_iff :
    (o.dimensionless && !(decide (s.head? = some '1') || startsName o.escape s)) = true ↔
      o.dimensionless = true ∧ ¬Present o s := by
  rw [Present, Bool.and_eq_true, Bool.not_eq_true', ← Bool.not_eq_true, Bool.or_eq_true,
    decide_eq_true_eq]

theorem yields_readSimpleFactor_iff {f : Expression}
    (present : o.dimensionless = true → Present o s) :
    (readSimpleFactor o s).Yields names f r ↔
      ∃ x t e n, Scale o.escape s x t ∧ Name o.escape t e (powerText n ++ r) ∧
        f = (e.scaledBy x).raised n ∧ names = f.names ∧ Text.Stops Literal.isSignedDigit r := by
  rw [readSimpleFactor, if_neg (isMissing_iff.not.2 fun missing => missing.2 (present missing.1))]
  simp only [Reading.yields_andThen, yields_readScale, yields_readUnit, yields_readPower]
  constructor
  · rintro ⟨_, _, x, t, _, rfl, ⟨rfl, scale⟩, _, _, e, u, _, rfl, ⟨rfl, name⟩, rfl, n, rfl, rfl,
      stops⟩
    refine ⟨x, t, e, n, scale, name, rfl, ?_, stops⟩
    rw [names_raised, names_scaledBy, List.nil_append, List.append_nil]
  · rintro ⟨x, t, e, n, scale, name, rfl, rfl, stops⟩
    have ht := (yields_readScale.2 ⟨rfl, scale⟩).suffix.length_le
    have hu := (yields_readUnit.2 ⟨rfl, name⟩).suffix.length_le
    refine ⟨[], e.names, x, t, ht, ?_, ⟨rfl, scale⟩, e.names, [], e, _, hu, ?_, ⟨rfl, name⟩, rfl, n,
      rfl, rfl, stops⟩
    · rw [names_raised, names_scaledBy, List.nil_append]
    · rw [List.append_nil]

/-- What is read as a factor is a factor of the grammar. -/
theorem spells_of_readSimpleFactor (noGroup : s.head? ≠ some '(')
    (h : (readSimpleFactor o s).Yields names e r) :
    names = e.names ∧ Spells o true .factor s e r := by
  by_cases missing : o.dimensionless = true ∧ ¬Present o s
  · rw [readSimpleFactor, if_pos (isMissing_iff.2 missing)] at h
    obtain ⟨rfl, rfl, rfl⟩ := Reading.yields_done.1 h
    obtain ⟨noOne, noName⟩ := not_or.1 missing.2
    exact ⟨rfl, .missing missing.1 noGroup noOne (Bool.eq_false_iff.2 noName)⟩
  · rw [not_and, not_not] at missing
    obtain ⟨x, t, f, n, scale, name, rfl, rfl, -⟩ := (yields_readSimpleFactor_iff missing).1 h
    exact ⟨rfl, spells_of_scale scale name⟩

/-! ### Factors of the grammar -/

theorem present_of_word (word : Word o.escape w e) : Present o (w ++ r) := by
  refine .inr (startsName_iff.2 ?_)
  cases word with
  | escaped name => exact .inr (.inl ⟨_, rfl, Text.any_head?_append name.1⟩)
  | prefixed factor =>
    rcases factor?_eq_some_iff.1 factor with ⟨c, code, factor⟩ | ⟨code, -⟩ <;> rw [code]
    · exact .inl (isLetter_of_letterFactor? factor)
    · exact .inl rfl
  | celsius => exact .inr (.inr ⟨_, rfl⟩)
  | deka => exact .inl rfl
  | plain name => exact .inl name.1
  | letter factor => exact .inl (isLetter_of_letterFactor? factor)

theorem yields_one : (readSimpleFactor o ('1' :: '/' :: r)).Yields [] .one ('/' :: r) := by
  rw [yields_readSimpleFactor_iff fun _ => .inl rfl]
  refine ⟨none, _, .one, none, .absent fun c d t text => ?_, .one, rfl, rfl,
    Text.stops_cons.2 (by decide)⟩
  obtain ⟨-, rest⟩ := List.cons.inj text
  obtain ⟨rfl, -⟩ := List.cons.inj rest
  exact isUnscaled_of_not_letter (o.escape_ne (Options.isEscape_of_reserved rfl)) rfl

theorem yields_ten :
    (readSimpleFactor o ('d' :: 'a' :: '1' :: '/' :: r)).Yields [] (.scaled Prefix.deka .one)
      ('/' :: r) := by
  rw [yields_readSimpleFactor_iff fun _ => .inr (startsName_iff.2 (.inl rfl))]
  exact ⟨some Prefix.deka, _, .one, none, .deka, .one, rfl, rfl, Text.stops_cons.2 (by decide)⟩

theorem yields_word (word : Word o.escape w e) (n : Option Whole.Numeral) (ends : EndsFactor r) :
    (readSimpleFactor o (w ++ (powerText n ++ r))).Yields e.names (e.raised n) r := by
  obtain ⟨x, t, f, scale, name, rfl⟩ := exists_scale_of_word word ends n
  rw [yields_readSimpleFactor_iff fun _ => present_of_word word]
  exact ⟨x, t, f, n, scale, name, rfl, names_raised.symm, stops_isSignedDigit ends⟩

theorem yields_missing (h : o.dimensionless = true) (noOne : s.head? ≠ some '1')
    (noName : startsName o.escape s = false) : (readSimpleFactor o s).Yields [] .one s := by
  have missing : ¬Present o s := not_or.2 ⟨noOne, Bool.eq_false_iff.1 noName⟩
  rw [readSimpleFactor, if_pos (isMissing_iff.2 ⟨h, missing⟩)]
  exact Reading.yields_done.2 ⟨rfl, rfl, rfl⟩

end Metrology.Expression
