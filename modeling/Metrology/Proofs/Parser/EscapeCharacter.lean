import Metrology.Proofs.Options.Updates
import Metrology.Proofs.Parser.Endings
import Metrology.Proofs.Parser.ExtensionSymbols

/-!
# The name of the escape character

No character that can be the escape character has a meaning of its own.  So a text is parsed under
one escape character as the text with another one in its place is parsed under that other one
(`Parser.parse_withEscape`).  The two texts are paired character by character
(`Expression.counterparts`).
-/

namespace Metrology

open Expression

/-! ## Renamed texts -/

/-- The character `c'` in place of `c`. -/
def renamed (c c' d : Char) : Char := if d = c then c' else d

variable {c c' d : Char} {s : List Char}

theorem renamed_of_ne (h : d ≠ c) : renamed c c' d = d := if_neg h

/-- A class without escape characters is the same with one escape character in place of another. -/
theorem fits_renamed {fits : Char → Bool} (reserves : Reserves fits) (h : isEscape c = true)
    (h' : isEscape c' = true) (d : Char) : fits (renamed c c' d) = fits d := by
  unfold renamed
  split_ifs with same
  · rw [same, reserves.eq_false h, reserves.eq_false h']
  · rfl

theorem Text.trim_map {f : Char → Char} (h : ∀ c, Text.isBlank (f c) = Text.isBlank c)
    (s : List Char) : Text.trim (s.map f) = (Text.trim s).map f := by
  have blank : Text.isBlank ∘ f = Text.isBlank := funext h
  unfold Text.trim Text.trimWhere
  rw [List.dropWhile_map, blank, ← List.map_reverse, List.dropWhile_map, blank, List.map_reverse]

namespace Expression

/-- Texts whose characters are counterparts from the first one to the last one. -/
def counterparts (o o' : Options) : Pairing o o' where
  Pairs := List.Forall₂ (Counterpart o o')
  horizon := 0
  behind := 0
  behind' := 0
  length_eq h := h.length_eq.symm
  behind_le := Nat.le_refl _
  view := by
    intro s s' h _
    cases h with
    | nil => exact .nil
    | cons first rest =>
      refine .cons first ?_ rest
      cases rest with
      | nil => exact .none
      | cons next => exact .some next

/-- A text without the new escape character is paired with the text that has it in place of the
old one. -/
theorem counterparts_map {o o' : Options} (absent : o'.escape ∉ s) :
    (counterparts o o').Pairs s (s.map (renamed o.escape o'.escape)) := by
  refine List.forall₂_map_right_iff.2 (List.forall₂_same.2 fun d member => ?_)
  by_cases same : d = o.escape
  · rw [same, renamed, if_pos rfl]
    exact .escape
  · rw [renamed_of_ne same]
    exact .other same fun same' => absent (same' ▸ member)

end Expression

/-! ## Parses -/

namespace Parser

variable {p p' : Parser} {source source' : String} {text text' : List Char}

/-- The parser with another escape character. -/
def withEscape (p : Parser) (c : Options.Escape) : Parser :=
  { p with options := p.options.setEscape c }

/-- Two parses end alike: with the same quantity, coefficient and unit, or with errors of the same
class at the same position; and they read equally far, and leave the same registry. -/
structure EndsAlike (parsed parsed' : Parsed) : Prop where
  result :
    (∃ q, parsed.result = .ok q ∧ parsed'.result = .ok q ∧
      parsed'.parser.state.numericalValue = parsed.parser.state.numericalValue ∧
      parsed'.parser.state.prefixFactor = parsed.parser.state.prefixFactor) ∨
    (∃ e e', parsed.result = .error e ∧ parsed'.result = .error e' ∧ e'.position = e.position ∧
      e'.fault.family = e.fault.family ∧ e'.fault.code = e.fault.code)
  inputPosition : parsed'.parser.state.inputPosition = parsed.parser.state.inputPosition
  registry : parsed'.parser.registry = parsed.parser.registry

/-- The parses of two texts whose characters are counterparts end alike. -/
theorem parseText_counterparts (dimensionless : p'.options.dimensionless = p.options.dimensionless)
    (extend : p'.options.extend = p.options.extend) (registry : p'.registry = p.registry)
    (pair : (counterparts p.options p'.options).Pairs text text') :
    EndsAlike (p.parseText source text) (p'.parseText source' text') := by
  have corresponds := Pairing.corresponds_readWhole dimensionless pair
  have ending' : p'.ending text' =
      (readWhole p'.options text').settle p.options.extend p.registry := by
    rw [ending, extend, registry]
  have length : text'.length = text.length := (counterparts p.options p'.options).length_eq pair
  rcases ended : p.ending text with ⟨stop | ⟨x, e⟩, r⟩
  · obtain ⟨stop', ended', alike, place, left⟩ :=
      corresponds.settle_error ended (Nat.zero_le _)
    rw [← ending'] at ended'
    obtain ⟨result, kept, position⟩ := parseText_of_stop source ended
    obtain ⟨result', kept', position'⟩ := parseText_of_stop source' ended'
    have place : stop'.place = stop.place := place
    have left : stop'.left = stop.left := left
    refine ⟨.inr ⟨_, _, result, result', ?_, alike.family_eq, alike.code_eq⟩, ?_, ?_⟩
    · dsimp only
      rw [column, column, length, place]
    · rw [position, position', column, column, length, left]
    · rw [kept, kept']
  · have ended' := corresponds.settle_ok rfl ended
    rw [← ending'] at ended'
    have returns := parseText_of_value source ended
    have returns' := parseText_of_value source' ended'
    refine ⟨.inl ⟨_, returns.result, returns'.result, ?_, ?_⟩, ?_, ?_⟩
    · rw [returns.numericalValue, returns'.numericalValue]
    · rw [returns.prefixFactor, returns'.prefixFactor]
    · rw [returns.inputPosition, returns'.inputPosition, column, column, length]
    · rw [returns.registry, returns'.registry]

theorem endsAlike_refuse (registry : p'.registry = p.registry) (i : Nat) :
    EndsAlike (p.refuse source text i) (p'.refuse source' text' i) :=
  ⟨.inr ⟨_, _, rfl, rfl, rfl, rfl, rfl⟩, rfl, registry⟩

theorem reserves_zero : Reserves fun d => decide (d = '\x00') := by
  intro d zero
  rw [of_decide_eq_true zero]
  decide +kernel

/-- The escape character is only a name for itself.  A text is parsed under one escape character as
the text with another one in its place, which it does not hold itself, is parsed under that other
one.  So a text that holds neither is parsed alike under both. -/
theorem parse_withEscape (p : Parser) (c c' : Options.Escape) (source : String)
    (absent : c'.1 ∉ source.toList) :
    EndsAlike ((p.withEscape c).parse source)
      ((p.withEscape c').parse (source.map (renamed c.1 c'.1))) ∧
    (c.1 ∉ source.toList →
      EndsAlike ((p.withEscape c).parse source) ((p.withEscape c').parse source)) := by
  have alike : EndsAlike ((p.withEscape c).parse source)
      ((p.withEscape c').parse (source.map (renamed c.1 c'.1))) := by
    have text : Text.trim (source.map (renamed c.1 c'.1)).toList =
        (Text.trim source.toList).map (renamed c.1 c'.1) := by
      rw [String.toList_map, Text.trim_map (fits_renamed reserves_isBlank c.2 c'.2)]
    have zero : ((· = '\x00') : Char → Bool) ∘ renamed c.1 c'.1 = (· = '\x00') :=
      funext (fits_renamed reserves_zero c.2 c'.2)
    have pair : (counterparts (p.withEscape c).options (p.withEscape c').options).Pairs
        (Text.trim source.toList) ((Text.trim source.toList).map (renamed c.1 c'.1)) :=
      counterparts_map fun member => absent ((Text.trim_infix _).subset member)
    rw [parse, parse, text, List.findIdx?_map, zero]
    cases (Text.trim source.toList).findIdx? (· = '\x00') with
    | some i =>
      refine endsAlike_refuse ?_ i
      rfl
    | none => exact parseText_counterparts rfl rfl rfl pair
  refine ⟨alike, fun absent' => ?_⟩
  have unchanged : source.map (renamed c.1 c'.1) = source := by
    have same : source.toList.map (renamed c.1 c'.1) = source.toList.map id :=
      List.map_congr_left fun d member => renamed_of_ne (by rintro rfl; exact absent' member)
    refine String.toList_inj.1 ?_
    rw [String.toList_map, same, List.map_id]
  rwa [unchanged] at alike

/-- What `!foo` is under one escape character, `#foo` is under another one. -/
theorem parse_withEscape_foo :
    let p : Parser := { options := extending }
    let exclamation : Options.Escape := ⟨'!', extending.escape_fits⟩
    let number : Options.Escape := ⟨'#', by decide +kernel⟩
    '#' ∉ "!foo".toList ∧
      ((p.withEscape exclamation).parse "!foo").result = .ok (Registry.extensionUnit 0) ∧
      ((p.withEscape number).parse "#foo").result = .ok (Registry.extensionUnit 0) ∧
      ((p.withEscape number).parse "#foo").parser.registry =
        ((p.withEscape exclamation).parse "!foo").parser.registry := by
  intro p exclamation number
  have absent : '#' ∉ "!foo".toList := by decide
  have word : Word extending.escape ['!', 'f', 'o', 'o'] (.unit "foo") :=
    .escaped (n := ['f', 'o', 'o']) ⟨rfl, rfl⟩
  have parsed := parse_word (p := p.withEscape exclamation) word
  have result : ((p.withEscape exclamation).parse "!foo").result =
      .ok (Registry.extensionUnit 0) :=
    mapError_eq_ok_iff.1 ((congrArg Prod.fst parsed).trans (by decide +kernel))
  have text : "!foo".map (renamed '!' '#') = "#foo" := by decide +kernel
  obtain ⟨alike, -⟩ := parse_withEscape p exclamation number "!foo" absent
  rw [text] at alike
  refine ⟨absent, result, ?_, alike.registry⟩
  rcases alike.result with ⟨q, ok, ok', -⟩ | ⟨e, e', failed, -⟩
  · rw [ok', ← ok, result]
  · cases result.symm.trans failed

end Parser

end Metrology
