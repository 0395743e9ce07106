import Metrology.Proofs.Parser.ExtensionSymbols

/-!
# Units that start with an apostrophe

Only `da` is a prefix of a name that starts with an apostrophe: a letter in front of the apostrophe
is taken for a part of the name, and so a unit of another name is looked up, or defined
(`Parser.parse_prefix_apostrophe`).
-/

namespace Metrology

open Expression

variable {o : Options} {w : List Char} {c : Char} {e : Expression}

/-! ## Words -/

theorem Expression.eq_of_word_apostrophe (word : Word o.escape ('\'' :: w) e) :
    e = .unit (String.ofList ('\'' :: w)) ∧ ∃ n, w = 'C' :: n := by
  have noLetter {d : Char} (letter : Text.isLetter d = true) : '\'' ≠ d := by
    rintro rfl
    cases letter
  generalize text : '\'' :: w = s at word
  cases word with
  | escaped => exact absurd (List.cons.inj text).1 (o.escape_ne (Options.isEscape_of_reserved rfl))
  | prefixed factor =>
    rcases factor?_eq_some_iff.1 factor with ⟨c, code, factor⟩ | ⟨code, -⟩ <;> rw [code] at text
    · exact absurd (List.cons.inj text).1 (noLetter (isLetter_of_letterFactor? factor))
    · cases (List.cons.inj text).1
  | celsius => exact ⟨rfl, _, (List.cons.inj text).2⟩
  | deka => cases (List.cons.inj text).1
  | plain name => exact absurd (List.cons.inj text).1 (noLetter name.1)
  | letter factor =>
    exact absurd (List.cons.inj text).1 (noLetter (isLetter_of_letterFactor? factor))

/-- A letter in front of an apostrophe is the start of a name. -/
theorem Expression.word_letter_apostrophe (letter : Text.isLetter c = true)
    (characters : ('\'' :: w).all isNameCharacter = true) :
    Word o.escape (c :: '\'' :: w) (.unit (String.ofList (c :: '\'' :: w))) := by
  have character : isNameCharacter c = true := Bool.or_eq_true_iff.2 (.inr letter)
  refine .plain ⟨letter, ?_⟩ ?_
  · rw [List.all_cons, character, characters]
    rfl
  · rintro _ ⟨⟩ ⟨⟩

/-- Any prefix but `da` is one letter. -/
theorem exists_letter_of_factor? {code : String} {x : Float}
    (factor : Prefix.factor? code = some x) (other : code ≠ Prefix.dekaCode) (name : String) :
    ∃ c, Text.isLetter c = true ∧ code ++ name = String.ofList (c :: name.toList) := by
  rcases factor?_eq_some_iff.1 factor with ⟨c, single, factor⟩ | ⟨deka, -⟩
  · refine ⟨c, isLetter_of_letterFactor? factor, ?_⟩
    rw [← String.toList_inj, String.toList_ofList, String.toList_append, single]
    rfl
  · exact absurd (String.toList_inj.1 deka) other

/-! ## Units of other names -/

theorem Registry.predefined?_letter_apostrophe :
    predefined? (String.ofList (c :: '\'' :: w)) = none := by
  have second : ∀ entry ∈ predefinedUnits, entry.1.toList[1]? ≠ some '\'' := by decide
  rw [predefined?, Option.map_eq_none_iff, List.find?_eq_none]
  intro entry member same
  refine second entry member ?_
  rw [of_decide_eq_true same, String.toList_ofList]
  rfl

/-- A letter in front of an apostrophe makes a name of another unit. -/
theorem Registry.dimension_ne_letter_apostrophe {history : List Operation} {extend : Bool}
    {q q' : Quantity} (known : (run history).find? (String.ofList ('\'' :: w)) = some q)
    (granted : ((run history).unit (String.ofList (c :: '\'' :: w)) extend).result = .ok q') :
    q'.dimension ≠ q.dimension := by
  have longer : String.ofList (c :: '\'' :: w) ≠ String.ofList ('\'' :: w) := by
    rw [Ne, String.ofList_inj]
    exact fun same => absurd (congrArg List.length same) (by simp)
  exact dimension_ne_of_unit predefined?_letter_apostrophe longer known granted

namespace Parser

variable {p : Parser} {name : String} {q : Quantity}

/-- A name that starts with an apostrophe is accepted as the unit of that name. -/
theorem unit_of_apostrophe (characters : name.toList.all isNameCharacter = true)
    (apostrophe : name.toList.head? = some '\'') (accepted : (p.parse name).result = .ok q) :
    (∃ n, name.toList = '\'' :: 'C' :: n) ∧
      (p.parse name).parser.registry = (p.registry.unit name p.options.extend).registry ∧
        (p.parse name).parser.registry.find? name = some q := by
  obtain ⟨e, spelled, evaluated⟩ := (parse_eq_ok_iff p name q _).1 ⟨accepted, rfl⟩
  obtain ⟨w, text⟩ := List.head?_eq_some_iff.1 apostrophe
  rw [trim_name characters, text] at spelled
  have word := word_of_spells (text ▸ characters) (List.cons_ne_nil _ w) spelled
  obtain ⟨rfl, n, rfl⟩ := eq_of_word_apostrophe word
  rw [← text, String.ofList_toList] at evaluated
  obtain ⟨granted, registry⟩ := Prod.mk.inj evaluated
  refine ⟨⟨n, text⟩, registry.symm, ?_⟩
  rw [← registry]
  exact Registry.find?_unit_self granted

/-- The prefix `da` applies to a known unit that starts with an apostrophe. -/
theorem readsAs_deka_apostrophe {n : List Char} (text : name.toList = '\'' :: 'C' :: n)
    (characters : name.toList.all isNameCharacter = true) (known : p.registry.find? name = some q) :
    p.ReadsAs (Prefix.dekaCode ++ name) 1 (q.scale Prefix.deka) := by
  have bare : IsBareName name.toList := by
    rw [text] at characters ⊢
    exact .inr ⟨n, rfl, (Bool.and_eq_true_iff.1 (Bool.and_eq_true_iff.1 characters).2).2⟩
  have word : Word p.options.escape ('d' :: 'a' :: name.toList) _ := .deka bare
  rw [String.ofList_toList] at word
  have code : String.ofList ('d' :: 'a' :: name.toList) = Prefix.dekaCode ++ name := by
    rw [← String.toList_inj, String.toList_ofList, String.toList_append]
    rfl
  exact code ▸ readsAs_scaled_word word known

/-- A word for a unit is accepted as the unit that is granted. -/
theorem unit_of_parse_word (word : Word p.options.escape w (.unit name))
    (accepted : (p.parse (String.ofList w)).result = .ok q) :
    (p.registry.unit name p.options.extend).result = .ok q := by
  have answer := congrArg Prod.fst (parse_word word)
  exact mapError_eq_ok_iff.1 (answer.symm.trans (mapError_eq_ok_iff.2 accepted))

/-- A prefix in front of a unit that starts with an apostrophe, which is accepted alone.  Behind
`da` the unit is found, and nothing is defined.  Any other prefix is read as a part of a longer
name: the text is parsed as the unit of that name, and never as a quantity of the dimension of the
unit. -/
theorem parse_prefix_apostrophe (p : Parser) (history : List Registry.Operation)
    (name code : String) (q : Quantity) (x : Float) (reached : p.registry = Registry.run history)
    (characters : name.toList.all isNameCharacter = true)
    (apostrophe : name.toList.head? = some '\'') (accepted : (p.parse name).result = .ok q)
    (factor : Prefix.factor? code = some x) :
    let later := (p.parse name).parser
    (code = Prefix.dekaCode → later.ReadsAs (code ++ name) 1 (q.scale x)) ∧
      (code ≠ Prefix.dekaCode →
        (later.parse (code ++ name)).answer = later.evaluated (.unit (code ++ name)) ∧
          ∀ q', (later.parse (code ++ name)).result = .ok q' → q'.dimension ≠ q.dimension) := by
  intro later
  obtain ⟨⟨n, text⟩, registry, known⟩ := unit_of_apostrophe characters apostrophe accepted
  constructor
  · rintro rfl
    obtain rfl : Prefix.deka = x := Option.some.inj factor
    exact readsAs_deka_apostrophe text characters known
  · intro other
    obtain ⟨c, letter, whole⟩ := exists_letter_of_factor? factor other name
    have word : Word later.options.escape (c :: name.toList) (.unit (code ++ name)) := by
      rw [whole, text]
      exact word_letter_apostrophe letter (text ▸ characters)
    have answer := parse_word word
    rw [← whole] at answer
    refine ⟨answer, fun q' accepted' => ?_⟩
    have granted := unit_of_parse_word word (whole ▸ accepted')
    -- Both names are looked up in a registry with a history, where other names have other slots.
    have run : later.registry = Registry.run (history ++ [.unit name p.options.extend]) := by
      rw [Registry.run_append_singleton, ← reached]
      exact registry
    have found : later.registry.find? (String.ofList ('\'' :: 'C' :: n)) = some q := by
      rw [← text, String.ofList_toList]
      exact known
    rw [run] at found
    rw [run, whole, text] at granted
    exact Registry.dimension_ne_letter_apostrophe found granted

/-- After `'Cx` is defined, it is found in `da'Cx` and not in `m'Cx`. -/
theorem parse_prefix_apostrophe_Cx :
    (({ options := extending } : Parser).parse "'Cx").result = .ok ⟨.extension 0, 1⟩ ∧
      (({ options := extending } : Parser).parse "'Cx").parser.ReadsAs "da'Cx" 1
        ⟨.extension 0, 10⟩ ∧
      ∀ q',
        ((({ options := extending } : Parser).parse "'Cx").parser.parse "m'Cx").result = .ok q' →
          q'.dimension ≠ .extension 0 := by
  have word : Word extending.escape ['\'', 'C', 'x'] (.unit "'Cx") := .celsius (n := ['x']) rfl
  have parsed := parse_word (p := { options := extending }) word
  have accepted : (({ options := extending } : Parser).parse "'Cx").result =
      .ok ⟨.extension 0, 1⟩ :=
    mapError_eq_ok_iff.1 ((congrArg Prod.fst parsed).trans rfl)
  have ten : Quantity.scale Prefix.deka ⟨.extension 0, 1⟩ = ⟨.extension 0, 10⟩ := by decide +kernel
  obtain ⟨tens, -⟩ := parse_prefix_apostrophe { options := extending } [] "'Cx" Prefix.dekaCode _ _
    rfl rfl rfl accepted rfl
  obtain ⟨-, longer⟩ := parse_prefix_apostrophe { options := extending } [] "'Cx" "m" _ _
    rfl rfl rfl accepted rfl
  exact ⟨accepted, ten ▸ tens rfl, (longer (by decide)).2⟩

/-- By default `'C` is a unit, but `m'C` is none, and with the option `extend` it is a new one. -/
theorem parse_m_apostrophe_C :
    (({} : Parser).parse "'C").result = .ok ⟨.thermodynamicTemperature, 1⟩ ∧
      (({} : Parser).parse "m'C").answer.1 = .error (.unit (.undefined "m'C")) ∧
      (({ options := extending } : Parser).parse "m'C").answer =
        (.ok ⟨.extension 0, 1⟩, Registry.define {} "m'C") := by
  have celsius : Word (default : Options).escape ['\'', 'C'] (.unit "'C") :=
    .celsius (n := []) rfl
  have word (o : Options) : Word o.escape ['m', '\'', 'C'] (.unit "m'C") :=
    word_letter_apostrophe rfl rfl
  refine ⟨?_, ?_, ?_⟩
  · have parsed := parse_word (p := {}) celsius
    exact mapError_eq_ok_iff.1 ((congrArg Prod.fst parsed).trans rfl)
  · exact (congrArg Prod.fst (parse_word (p := {}) (word _))).trans rfl
  · exact (parse_word (p := { options := extending }) (word _)).trans (Prod.ext rfl rfl)

end Parser

end Metrology
