import Metrology.Proofs.Parser.Endings
import Metrology.Proofs.Parser.ExtensionSymbols

/-!
# One character ahead

A parse that stops at a column has seen the characters up to there and one more (`Parser.seen`).
Two texts that agree so far are paired (`Expression.agreeing`), so an error depends on nothing
else: the parse of the other text fails in the same way (`Parser.parse_error_of_seen`).
-/

namespace Metrology

open Expression

namespace Expression

/-- The texts that agree up to the rests `v` and `v'`.  They are followed as long as the character
that is read and the one ahead are before these rests. -/
def agreeing (o : Options) (v v' : List Char) : Pairing o o where
  Pairs s s' := ∃ b, s = b ++ v ∧ s' = b ++ v'
  horizon := v.length + 2
  behind := v.length
  behind' := v'.length
  length_eq := by
    rintro s s' ⟨b, rfl, rfl⟩
    rw [List.length_append, List.length_append]
    omega
  behind_le := Nat.le_add_right _ _
  view := by
    rintro s s' ⟨b, rfl, rfl⟩ seen
    rw [List.length_append] at seen
    match b with
    | [] => rw [List.length_nil] at seen; omega
    | [c] => rw [List.length_singleton] at seen; omega
    | c :: d :: b =>
      exact .cons (counterpart_self o c) (.some (counterpart_self o d)) ⟨d :: b, rfl, rfl⟩

end Expression

namespace Parser

variable {p : Parser} {source source' : String} {text text' : List Char} {stop : Stop}
  {r : Registry} {k : Nat}

/-- The characters up to a column and the one ahead.  A zero character stands for the end of the
text. -/
def seen (text : List Char) (k : Nat) : List Char := (text ++ ['\x00']).take (k + 1)

/-- Where the end of a text was seen, only the same text agrees with it. -/
theorem eq_of_seen_end (zero' : '\x00' ∉ text') (isEnd : text.length ≤ k)
    (same : seen text k <+: text' ++ ['\x00']) : text' = text := by
  rw [seen, List.take_of_length_le (by rw [List.length_append, List.length_singleton]; omega),
    List.prefix_concat_iff] at same
  rcases same with same | inside
  · exact (List.append_cancel_right same).symm
  · exact absurd (inside.subset (List.mem_append_right _ List.mem_cons_self)) zero'

/-- Where the end of a text was not seen, the texts agree up to rests of their own. -/
theorem exists_rests_of_seen (zero : '\x00' ∉ text) (inside : k < text.length)
    (same : seen text k <+: text' ++ ['\x00']) :
    ∃ v v', v.length + (k + 1) = text.length ∧ (agreeing p.options v v').Pairs text text' := by
  rw [seen, List.take_append_of_le_length inside, List.prefix_concat_iff] at same
  rcases same with same | ⟨v', rfl⟩
  · refine absurd ?_ zero
    exact List.mem_of_mem_take (same ▸ List.mem_append_right _ List.mem_cons_self)
  · refine ⟨text.drop (k + 1), v', ?_, text.take (k + 1), (List.take_append_drop _ _).symm, rfl⟩
    rw [List.length_drop]
    omega

/-- Where the parse of a text stops, the parse of every text that agrees as far as was seen stops,
too, for the same fault. -/
theorem ending_of_seen (zero : '\x00' ∉ text) (zero' : '\x00' ∉ text')
    (stopped : p.ending text = (.error stop, r))
    (same : seen text (column text stop.left) <+: text' ++ ['\x00']) :
    ∃ stop', p.ending text' = (.error stop', r) ∧ stop'.fault = stop.fault ∧
      column text' stop'.place = column text stop.place ∧
      column text' stop'.left = column text stop.left := by
  rcases Nat.lt_or_ge (column text stop.left) text.length with inside | isEnd
  · obtain ⟨v, v', length, pair⟩ := exists_rests_of_seen (p := p) zero inside same
    have within : (agreeing p.options v v').horizon ≤ stop.left := by
      change v.length + 2 ≤ stop.left
      rw [column] at length
      omega
    obtain ⟨stop', stopped', alike, place, left⟩ :=
      (Pairing.corresponds_readWhole rfl pair).settle_error stopped within
    have lengths := (agreeing p.options v v').length_eq pair
    refine ⟨stop', stopped', alike.eq_of_same, ?_, ?_⟩
    · unfold Pairing.SamePlace at place
      unfold column
      omega
    · unfold Pairing.SamePlace at left
      unfold column
      omega
  · obtain rfl := eq_of_seen_end zero' isEnd same
    exact ⟨stop, stopped, rfl, rfl, rfl⟩

/-- Errors depend only on what was read.  Where a parse fails, the parse of every text that agrees
up to the column where the reading stopped and one character further fails, too: for the same
fault, with the same message, at the same position and with the same registry. -/
theorem parse_error_of_seen (p : Parser) (source source' : String) (e : ParseError)
    (zero : '\x00' ∉ Text.trim source.toList) (zero' : '\x00' ∉ Text.trim source'.toList)
    (failed : (p.parse source).result = .error e)
    (same : seen (Text.trim source.toList) (p.parse source).parser.state.inputPosition <+:
      Text.trim source'.toList ++ ['\x00']) :
    ∃ e', (p.parse source').result = .error e' ∧ e'.fault = e.fault ∧
      e'.fault.message e'.position = e.fault.message e.position ∧ e'.position = e.position ∧
      e'.fault.family = e.fault.family ∧
      (p.parse source').parser.state.inputPosition =
        (p.parse source).parser.state.inputPosition ∧
      (p.parse source').parser.registry = (p.parse source).parser.registry := by
  rw [parse_of_zero_notMem zero] at failed same ⊢
  rw [parse_of_zero_notMem zero']
  rcases stopped : p.ending (Text.trim source.toList) with ⟨stop | ⟨x, f⟩, r⟩
  · obtain ⟨result, registry, position⟩ := parseText_of_stop source stopped
    rw [position] at same
    obtain ⟨stop', stopped', fault, place, left⟩ := ending_of_seen zero zero' stopped same
    obtain ⟨result', registry', position'⟩ := parseText_of_stop source' stopped'
    obtain rfl := Except.error.inj (result.symm.trans failed)
    refine ⟨_, result', fault, ?_, place, ?_, ?_, ?_⟩
    · dsimp only
      rw [fault, place]
    · dsimp only
      rw [fault]
    · rw [position', position, left]
    · rw [registry', registry]
  · cases failed.symm.trans (parseText_of_value source stopped).result

/-- The power of this text is not a number, but the unit before it is defined. -/
theorem ending_Foo :
    ({ options := extending } : Parser).ending "Foo3- km".toList =
      (.error ⟨.expression (.invalidPower ['3', '-']), 5, 3⟩, Registry.define {} "Foo") := by
  have coefficient : (readCoefficient "Foo3- km".toList).result =
    .ok (none, ⟨"Foo3- km".toList, List.suffix_refl _⟩) := rfl
  rw [ending, readWhole, Reading.andThen_of_ok coefficient, readTerm, readFactor_of_ne (by decide)]
  rfl

/-- The texts may differ right behind what was seen. -/
theorem parse_error_of_seen_Foo :
    let parsed := ({ options := extending } : Parser).parse "Foo3- km"
    seen "Foo3- km".toList parsed.parser.state.inputPosition <+: "Foo3- kg".toList ++ ['\x00'] ∧
      (∃ e, parsed.result = .error e) ∧
      ∃ e', (({ options := extending } : Parser).parse "Foo3- kg").result = .error e' ∧
        e'.fault = .expression (.invalidPower ['3', '-']) ∧ e'.position = 4 ∧
        (({ options := extending } : Parser).parse "Foo3- kg").parser.registry.extensions =
          ["Foo"] := by
  intro parsed
  have zero : '\x00' ∉ Text.trim "Foo3- km".toList := by decide
  have zero' : '\x00' ∉ Text.trim "Foo3- kg".toList := by decide
  have trimmed : Text.trim "Foo3- km".toList = "Foo3- km".toList := rfl
  obtain ⟨result, registry, position⟩ := parseText_of_stop "Foo3- km" ending_Foo
  rw [← trimmed, ← parse_of_zero_notMem zero] at result registry position
  have same : seen (Text.trim "Foo3- km".toList) parsed.parser.state.inputPosition <+:
      Text.trim "Foo3- kg".toList ++ ['\x00'] := by
    rw [position]
    decide
  obtain ⟨e', failed, fault, -, place, -, -, kept⟩ :=
    parse_error_of_seen { options := extending } "Foo3- km" "Foo3- kg" _ zero zero' result same
  exact ⟨same, ⟨_, result⟩, e', failed, fault, place, by rw [kept, registry]; rfl⟩

end Parser

end Metrology
