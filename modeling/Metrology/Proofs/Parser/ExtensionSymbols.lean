import Metrology.Proofs.Parser.Growth
import Metrology.Proofs.Parser.UnitParts

/-!
# Symbols of extension units

After any parses, both symbols of an extension unit are its name, without the escape character.  A
parser reads this name back as the unit only if it does not take its first letter for a prefix, and
always with the escape character in front (`Parser.parse_extension_symbol`).
-/

namespace Metrology

open Expression

variable {o : Options} {r : Registry} {name : String} {slot : Nat} {q : Quantity} {x : Float}
  {e : Expression}

/-- A scaled unit is of the dimension of the unit. -/
theorem exists_of_evaluate_scaled {extend : Bool} {r' : Registry}
    (h : (Expression.scaled x (.unit name)).evaluate extend r = (.ok q, r')) :
    r' = (r.unit name extend).registry ∧
      ∃ q', r'.find? name = some q' ∧ q.dimension = q'.dimension := by
  rw [evaluate_eq] at h
  change settled _ (r.requests extend [name]) = _ at h
  rw [Registry.requests] at h
  cases answer : (r.unit name extend).result with
  | error fault =>
    rw [answer] at h
    cases h
  | ok q' =>
    rw [answer] at h
    obtain ⟨value, rfl⟩ := Prod.mk.inj h
    have known := Registry.find?_unit_self answer
    refine ⟨rfl, q', known, ?_⟩
    have quantity : (r.unit name extend).registry.quantity name = q' := by
      rw [Registry.quantity, known, Option.getD_some]
    rw [← Except.ok.inj value, ← quantity]
    rfl

namespace Parser

variable {history : List (Options × String)} {p : Parser}

theorem knows_unit (known : p.registry.find? name = some q) : p.Knows (.unit name) := by
  intro other member
  rw [Expression.names, List.mem_singleton] at member
  exact ⟨q, member ▸ known⟩

/-- A word for a known unit is read as it. -/
theorem readsAs_word {w : List Char} (word : Word p.options.escape w (.unit name))
    (known : p.registry.find? name = some q) : p.ReadsAs (String.ofList w) 1 q := by
  have reads := readsAs_unitText (.word word) (knows_unit known)
  rwa [Expression.value, Registry.quantity, known, Option.getD_some] at reads

/-- A word for a prefix and a known unit is read as the scaled unit. -/
theorem readsAs_scaled_word {w : List Char}
    (word : Word p.options.escape w (.scaled x (.unit name)))
    (known : p.registry.find? name = some q) : p.ReadsAs (String.ofList w) 1 (q.scale x) := by
  have knows : p.Knows (.scaled x (.unit name)) := knows_unit known
  have reads := readsAs_unitText (.word word) knows
  rwa [Expression.value, Expression.value, Registry.quantity, known, Option.getD_some] at reads

/-- The name of an extension unit is read as the unit where it is read alone. -/
theorem readsAs_of_readsAlone (alone : ReadsAlone name.toList) (bare : IsBareName name.toList)
    (known : p.registry.find? name = some q) : p.ReadsAs name 1 q := by
  have word : Word p.options.escape name.toList (.unit (String.ofList name.toList)) := by
    rcases alone with plain | ⟨n, text⟩
    · exact plain.word
    · have characters := bare.all
      rw [text] at characters ⊢
      exact .celsius (Bool.and_eq_true_iff.1 (Bool.and_eq_true_iff.1 characters).2).2
  rw [String.ofList_toList] at word
  have reads := readsAs_word word known
  rwa [String.ofList_toList] at reads

/-- A name behind the escape character is read as its unit. -/
theorem readsAs_escaped (letter : IsName name.toList) (known : p.registry.find? name = some q) :
    p.ReadsAs (String.ofList (p.options.escape :: name.toList)) 1 q := by
  have word : Word p.options.escape (p.options.escape :: name.toList) _ := .escaped letter
  rw [String.ofList_toList] at word
  exact readsAs_word word known

theorem trim_name (characters : name.toList.all isNameCharacter = true) :
    Text.trim name.toList = name.toList := by
  refine Text.trimWhere_of_stops (Text.stops_of_all fun c member => ?_)
    (stops_reverse_of_all characters)
  exact Tree.isBlank_of_isNameCharacter (List.all_eq_true.1 characters c member)

/-- A name that is not read alone is never read as a unit of its own dimension: another name is
looked up, and a dimension of an extension slot has one name only. -/
theorem dimension_ne_of_not_readsAlone {ops : List Registry.Operation}
    (reached : p.registry = Registry.run ops) (bare : IsBareName name.toList)
    (entry : (Registry.table ops)[slot]? = some name) (notAlone : ¬ReadsAlone name.toList)
    (ok : (p.parse name).result = .ok q) : q.dimension ≠ .extension slot := by
  obtain ⟨e, spelled, evaluated⟩ := (parse_eq_ok_iff p name q _).1 ⟨ok, rfl⟩
  rw [trim_name bare.all] at spelled
  obtain ⟨c, n, text, -⟩ := bare.exists_cons
  have word := word_of_spells bare.all (text ▸ List.cons_ne_nil c n) spelled
  obtain ⟨x, n, rfl, other⟩ := (readsAlone_or_scaled_of_word bare.all word).resolve_left notAlone
  obtain ⟨later, q', found, dimension⟩ := exists_of_evaluate_scaled evaluated
  have known : p.registry.find? name = some (Registry.extensionUnit slot) :=
    reached ▸ (Registry.lists_run ops).find?_of_getElem? entry
  have lists := (Registry.lists_run ops).apply (.unit (String.ofList n) p.options.extend)
  rw [Registry.Operation.apply, ← reached, ← later] at lists
  have inside := (Registry.lists_run ops).slot_lt entry
  intro same
  have known' : (p.parse name).parser.registry.find? name = some (Registry.extensionUnit slot) := by
    rw [later]
    exact Registry.find?_unit known
  have name_eq := lists.name_eq inside found (dimension.symm.trans same) known' rfl
  rw [← name_eq, String.toList_ofList] at other
  exact other rfl

/-- The registry after parses, and a parser with any options that goes on with it. -/
def after (history : List (Options × String)) (o : Options) : Parser :=
  { options := o, registry := reached history }

/-- After any parses both symbols of an extension unit are its name.  With the escape character in
front the name is read as one unit, and nothing is defined, if it starts with a letter; without it
the same holds if the name is read alone, and otherwise the name is never read as a quantity of the
dimension of the unit. -/
theorem parse_extension_symbol (history : List (Options × String)) (o : Options) (slot : Nat)
    (name : String) (entry : (reached history).extensions[slot]? = some name) :
    (∀ preferName, (reached history).symbol (.extension slot) preferName = .ok name) ∧
    (IsName name.toList ∨ ReadsAlone name.toList) ∧
    (IsName name.toList → (after history o).ReadsAs (String.ofList (o.escape :: name.toList)) 1
      (Registry.extensionUnit slot)) ∧
    (ReadsAlone name.toList → (after history o).ReadsAs name 1 (Registry.extensionUnit slot)) ∧
    (¬ReadsAlone name.toList → ∀ q, ((after history o).parse name).result = .ok q →
      q.dimension ≠ .extension slot) := by
  obtain ⟨ops, run, of_names⟩ := exists_run_reached history
  have lists := Registry.lists_run ops
  rw [run, lists.extensions_eq] at entry
  have requests : ∀ op ∈ ops, op.isRequest = true := by
    intro op member
    obtain ⟨_, _, rfl, -⟩ := of_names op member
    rfl
  have bare : IsBareName name.toList := by
    obtain ⟨op, member, wants⟩ :=
      Registry.exists_wanted_of_mem_table (List.mem_of_getElem? entry)
    obtain ⟨name', extend, rfl, bare⟩ := of_names op member
    exact Registry.eq_of_wanted wants ▸ bare
  have known : (after history o).registry.find? name = some (Registry.extensionUnit slot) := by
    rw [after, run]
    exact lists.find?_of_getElem? entry
  refine ⟨fun preferName => ?_, ?_, fun letter => readsAs_escaped letter known,
    fun alone => readsAs_of_readsAlone alone bare known,
    fun notAlone q ok => dimension_ne_of_not_readsAlone run bare entry notAlone ok⟩
  · rw [run]
    exact Registry.symbol_extension requests entry preferName
  · exact bare.imp_right fun ⟨n, text, _⟩ => .inr ⟨n, text⟩

/-! ## A name that starts like a prefix -/

def extending : Options := { (default : Options) with extend := true }

/-- A word is parsed to what its expression evaluates to. -/
theorem parse_word {w : List Char} (word : Word p.options.escape w e) :
    (p.parse (String.ofList w)).answer = p.evaluated e := by
  have unitText : UnitText p.options false w e := .word word
  exact parse_of_spells
    (.expression (coefficient_of_unitText unitText) (spells_of_unitText unitText))

/-- After `!foo` the one extension unit is `foo`. -/
theorem reached_foo : reached [(extending, "!foo")] = Registry.define {} "foo" := by
  have word : Word extending.escape ['!', 'f', 'o', 'o'] (.unit "foo") :=
    .escaped (n := ['f', 'o', 'o']) ⟨rfl, rfl⟩
  have parsed := parse_word (p := { options := extending }) word
  exact (congrArg Prod.snd parsed).trans rfl

/-- The symbol of the unit `foo` is `foo`, but that is read as a femto of another unit, which is
defined for it. -/
theorem parse_foo :
    (reached [(extending, "!foo")]).extensions = ["foo"] ∧
    (∀ preferName, (reached [(extending, "!foo")]).symbol (.extension 0) preferName = .ok "foo") ∧
    ((after [(extending, "!foo")] extending).parse "foo").result = .ok ⟨.extension 1, 1e-15⟩ ∧
    ((after [(extending, "!foo")] extending).parse "foo").parser.registry.extensions =
      ["foo", "oo"] := by
  have word : Word extending.escape ['f', 'o', 'o'] (.scaled 1e-15 (.unit "oo")) :=
    .letter (n := ['o']) rfl ⟨rfl, rfl⟩ (by decide) (by decide)
  have parsed := parse_word (p := after [(extending, "!foo")] extending) word
  rw [after, reached_foo] at *
  refine ⟨rfl, by decide +kernel, ?_, ?_⟩
  · exact mapError_eq_ok_iff.1 ((congrArg Prod.fst parsed).trans (by decide +kernel))
  · refine (congrArg (fun answer => answer.2.extensions) parsed).trans ?_
    decide +kernel

/-- The unit `foo` is read back from `!foo`, and from `foo` never. -/
theorem parse_extension_symbol_foo :
    (reached [(extending, "!foo")]).extensions[0]? = some "foo" ∧
    (after [(extending, "!foo")] extending).ReadsAs "!foo" 1 (Registry.extensionUnit 0) ∧
    ∀ q, ((after [(extending, "!foo")] extending).parse "foo").result = .ok q →
      q.dimension ≠ .extension 0 := by
  have entry : (reached [(extending, "!foo")]).extensions[0]? = some "foo" := by
    rw [reached_foo]
    rfl
  obtain ⟨-, -, escaped, -, misread⟩ :=
    parse_extension_symbol [(extending, "!foo")] extending 0 "foo" entry
  refine ⟨entry, escaped ⟨rfl, rfl⟩, misread ?_⟩
  rintro (plain | ⟨n, ⟨⟩⟩)
  revert plain
  decide

end Parser

end Metrology
