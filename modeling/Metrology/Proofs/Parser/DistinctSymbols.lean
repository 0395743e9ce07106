import Metrology.Proofs.Number.Written
import Metrology.Proofs.Parser.Growth

/-!
# Symbols tell dimensions apart

The terms of a symbol are read off its text at the blanks, and a term splits into its label and its
exponent at the first sign, so a symbol determines its dimension as long as display names are labels
and each of them belongs to one dimension (`Registry.TellsApart.dimension_eq_of_symbol`).  Parses
keep it that way, for the names that they define are neither display names nor names of units
before (`Registry.tellsApart_run`).  So no two dimensions have the same symbol after any parses
(`Parser.symbols_differ`).
-/

namespace Metrology

open Expression

namespace Registry

/-! ## Labels and exponents -/

/-- The characters of labels: neither the blank between terms nor the sign of an exponent. -/
def isLabelCharacter (c : Char) : Bool := c ≠ ' ' && !Literal.isSign c

/-- A text that can stand before an exponent. -/
def IsLabel (name : String) : Prop :=
  name.toList ≠ [] ∧ name.toList.all isLabelCharacter = true

instance (name : String) : Decidable (IsLabel name) := inferInstanceAs (Decidable (_ ∧ _))

variable {a b : String} {m n : Int}

theorem toList_exponentText (h : n ≠ 1) :
    (exponentText n).toList = (if n < 0 then '-' else '+') :: Nat.toDigits 10 n.natAbs := by
  rw [exponentText, if_neg h, String.toList_append, Nat.toString_eq_repr, Nat.toList_repr]
  split_ifs <;> rfl

/-- A label ends where its exponent starts. -/
theorem stops_exponentText (n : Int) : Text.Stops isLabelCharacter (exponentText n).toList := by
  by_cases one : n = 1
  · rw [one]
    exact Text.stops_nil
  · rw [toList_exponentText one, Text.stops_cons]
    split_ifs <;> rfl

theorem blank_not_mem_exponentText (n : Int) : ' ' ∉ (exponentText n).toList := by
  by_cases one : n = 1
  · rw [one]
    exact List.not_mem_nil
  · rw [toList_exponentText one, List.mem_cons]
    rintro (sign | digit)
    · split_ifs at sign <;> cases sign
    · cases List.all_eq_true.1 (Whole.all_isDigit_toDigits n.natAbs) _ digit

theorem exponentText_injective (h : exponentText m = exponentText n) : m = n := by
  have texts := congrArg String.toList h
  by_cases one : m = 1 <;> by_cases one' : n = 1
  · rw [one, one']
  · rw [one, toList_exponentText one'] at texts
    cases texts
  · rw [one', toList_exponentText one] at texts
    cases texts
  · rw [toList_exponentText one, toList_exponentText one', List.cons.injEq] at texts
    obtain ⟨sign, digits⟩ := texts
    have size : m.natAbs = n.natAbs := by
      rw [← Whole.ofDigits_toDigits m.natAbs, digits, Whole.ofDigits_toDigits]
    split_ifs at sign with negative negative' negative' <;> first | omega | cases sign

/-- A term is one label with one exponent. -/
theorem term_injective (h : IsLabel a) (h' : IsLabel b)
    (same : a ++ exponentText m = b ++ exponentText n) : a = b ∧ m = n := by
  have texts := congrArg String.toList same
  rw [String.toList_append, String.toList_append] at texts
  have label : a.toList = b.toList := by
    have read := congrArg (List.takeWhile isLabelCharacter) texts
    rwa [Text.takeWhile_append_of_stops h.2 (stops_exponentText m),
      Text.takeWhile_append_of_stops h'.2 (stops_exponentText n)] at read
  rw [label, List.append_cancel_left_eq] at texts
  exact ⟨String.toList_inj.1 label, exponentText_injective (String.toList_inj.1 texts)⟩

theorem isLabelCharacter_of_isNameCharacter {c : Char} (h : isNameCharacter c = true) :
    isLabelCharacter c = true := by
  rw [isLabelCharacter, Bool.and_eq_true, decide_eq_true_eq, Bool.not_eq_true']
  constructor
  · rintro rfl
    cases h
  · by_contra sign
    rw [Bool.not_eq_false, Literal.isSign_iff] at sign
    rcases sign with rfl | rfl <;> cases h

theorem isLabel_of_isBareName (h : IsBareName a.toList) : IsLabel a := by
  obtain ⟨c, n, text, -⟩ := h.exists_cons
  refine ⟨text ▸ List.cons_ne_nil c n, List.all_eq_true.2 fun c member => ?_⟩
  exact isLabelCharacter_of_isNameCharacter (List.all_eq_true.1 h.all c member)

/-! ## Terms -/

/-- A term of a symbol: not empty and without blanks. -/
def IsTerm (t : String) : Prop := t.toList ≠ [] ∧ ' ' ∉ t.toList

theorem IsLabel.isTerm (h : IsLabel a) : IsTerm a := by
  refine ⟨h.1, fun blank => ?_⟩
  cases List.all_eq_true.1 h.2 _ blank

theorem IsLabel.isTerm_append (h : IsLabel a) (n : Int) : IsTerm (a ++ exponentText n) := by
  rw [IsTerm, String.toList_append, List.mem_append]
  refine ⟨List.append_ne_nil_of_left_ne_nil h.1 _, ?_⟩
  rintro (blank | blank)
  · exact h.isTerm.2 blank
  · exact blank_not_mem_exponentText n blank

/-- A text of terms is split into them at the blanks. -/
theorem splitOn_terms {ts : List String} (h : ∀ t ∈ ts, IsTerm t) (ne : ts ≠ []) :
    (" ".intercalate ts).toList.splitOn ' ' = ts.map String.toList := by
  rw [String.toList_intercalate]
  refine List.splitOn_intercalate ' ' ?_ (mt List.map_eq_nil_iff.1 ne)
  rintro _ member
  obtain ⟨t, inside, rfl⟩ := List.mem_map.1 member
  exact (h t inside).2

theorem terms_injective {ts ts' : List String} (h : ∀ t ∈ ts, IsTerm t)
    (h' : ∀ t ∈ ts', IsTerm t) (same : " ".intercalate ts = " ".intercalate ts') : ts = ts' := by
  have empty {ts : List String} (h : ∀ t ∈ ts, IsTerm t) (same : " ".intercalate ts = "") :
      ts = [] := by
    by_contra ne
    have split := splitOn_terms h ne
    rw [same] at split
    obtain ⟨t, rfl, nil⟩ := List.map_eq_singleton_iff.1 split.symm
    exact (h t List.mem_cons_self).1 nil
  by_cases ne : ts = []
  · subst ne
    exact (empty h' same.symm).symm
  by_cases ne' : ts' = []
  · subst ne'
    exact empty h same
  · have texts := splitOn_terms h ne
    rw [same, splitOn_terms h' ne'] at texts
    exact (List.map_injective_iff.2 (fun _ _ => String.toList_inj.1) texts).symm

/-! ## Symbols -/

/-- Every slot has a display name, display names are labels, and each belongs to one dimension. -/
structure TellsApart (r : Registry) : Prop where
  exists_label : ∀ i, ∃ label, r.name? (.single i) = some label
  isLabel : ∀ d name, r.name? d = some name → IsLabel name
  dimension_eq : ∀ d d' name, r.name? d = some name → r.name? d' = some name → d = d'

variable {r : Registry} {d d' : Dimension} {i j : Fin Dimension.size} {preferName : Bool}

/-- The display name of a slot, where it has one. -/
def slotLabel (r : Registry) (i : Fin Dimension.size) : String := (r.name? (.single i)).getD ""

/-- The terms of the symbols of a dimension: its display name, or its product of powers. -/
inductive SymbolTerms (r : Registry) : Dimension → List String → Prop where
  | name {d : Dimension} {name : String} (named : r.name? d = some name) : SymbolTerms r d [name]
  | product {d : Dimension} : SymbolTerms r d (productTerms r.slotLabel d)

theorem single_injective (h : Dimension.single i = .single j) : i = j := by
  have one : (Dimension.single i).exponent i = (Dimension.single j).exponent i := by rw [h]
  by_contra other
  rw [Dimension.exponent_single, Dimension.exponent_single, if_pos rfl, if_neg other] at one
  cases one

/-- A dimension with one slot, where its exponent is one. -/
theorem eq_single (slots : d.slots = [i]) (one : d.exponent i = 1) : d = .single i := by
  ext j
  rw [Dimension.exponent_single]
  split_ifs with same
  · rw [same, one]
  · by_contra nonzero
    have member := Dimension.mem_slots_iff.2 nonzero
    rw [slots, List.mem_singleton] at member
    exact same member

namespace TellsApart

variable (h : r.TellsApart)

include h

theorem name?_single (i : Fin Dimension.size) : r.name? (.single i) = some (r.slotLabel i) := by
  obtain ⟨label, named⟩ := h.exists_label i
  rw [slotLabel, named, Option.getD_some]

theorem isLabel_slotLabel (i : Fin Dimension.size) : IsLabel (r.slotLabel i) :=
  h.isLabel _ _ (h.name?_single i)

theorem slotLabel_injective (same : r.slotLabel i = r.slotLabel j) : i = j := by
  refine single_injective (h.dimension_eq _ _ _ (h.name?_single i) ?_)
  rw [same]
  exact h.name?_single j

theorem isTerm_of_mem {ts : List String} (terms : SymbolTerms r d ts) : ∀ t ∈ ts, IsTerm t := by
  cases terms with
  | name named =>
    rintro _ ⟨⟩
    · exact (h.isLabel _ _ named).isTerm
    · contradiction
  | product =>
    intro t member
    obtain ⟨i, -, rfl⟩ := List.mem_map.1 member
    exact (h.isLabel_slotLabel i).isTerm_append _

/-- A product of powers shows the exponents that are not zero. -/
theorem exponent_eq_of_productTerms
    (same : productTerms r.slotLabel d = productTerms r.slotLabel d')
    (nonzero : d.exponent i ≠ 0) : d'.exponent i = d.exponent i := by
  have member : r.slotLabel i ++ exponentText (d.exponent i) ∈ productTerms r.slotLabel d :=
    List.mem_map_of_mem (Dimension.mem_slots_iff.2 nonzero)
  rw [same] at member
  obtain ⟨j, -, term⟩ := List.mem_map.1 member
  obtain ⟨label, exponent⟩ :=
    term_injective (h.isLabel_slotLabel j) (h.isLabel_slotLabel i) term
  rwa [h.slotLabel_injective label] at exponent

theorem eq_of_productTerms (same : productTerms r.slotLabel d = productTerms r.slotLabel d') :
    d = d' := by
  ext i
  by_cases zero : d.exponent i = 0
  · by_contra other
    have nonzero : d'.exponent i ≠ 0 := fun zero' => other (zero.trans zero'.symm)
    exact other (h.exponent_eq_of_productTerms same.symm nonzero)
  · exact (h.exponent_eq_of_productTerms same zero).symm

/-- A product of powers that is a display name is one slot alone, with its name. -/
theorem eq_of_name_of_productTerms {name : String} (named : r.name? d = some name)
    (same : [name] = productTerms r.slotLabel d') : d = d' := by
  obtain ⟨i, slots, term⟩ := List.map_eq_singleton_iff.1 same.symm
  have bare : name = name ++ exponentText 1 := String.append_empty.symm
  obtain ⟨label, exponent⟩ :=
    term_injective (h.isLabel_slotLabel i) (h.isLabel d name named) (term.trans bare)
  have single : r.name? (.single i) = some name := label ▸ h.name?_single i
  rw [eq_single slots exponent]
  exact h.dimension_eq _ _ _ named single

theorem eq_of_symbolTerms {ts : List String} (terms : SymbolTerms r d ts)
    (terms' : SymbolTerms r d' ts) : d = d' := by
  generalize same : ts = ts' at terms'
  cases terms with
  | name named =>
    cases terms' with
    | name named' =>
      cases same
      exact h.dimension_eq _ _ _ named named'
    | product => exact h.eq_of_name_of_productTerms named same
  | product =>
    cases terms' with
    | name named' => exact (h.eq_of_name_of_productTerms named' same.symm).symm
    | product => exact h.eq_of_productTerms same

theorem baseSymbol_eq (d : Dimension) :
    r.baseSymbol d =
      if d.isWritable then .ok (" ".intercalate (productTerms r.slotLabel d))
      else .error .tooManyDigits :=
  baseSymbol_of_labels h.name?_single d

theorem exists_symbolTerms {s : String} (symbol : r.symbol d preferName = .ok s) :
    ∃ ts, SymbolTerms r d ts ∧ s = " ".intercalate ts := by
  rcases r.symbol_cases d preferName with ⟨name, named, display⟩ | product
  · refine ⟨[name], .name named, ?_⟩
    rw [String.intercalate_singleton]
    exact Except.ok.inj (symbol.symm.trans display)
  · rw [product, h.baseSymbol_eq] at symbol
    split_ifs at symbol
    exact ⟨_, .product, (Except.ok.inj symbol).symm⟩

/-- A symbol belongs to one dimension. -/
theorem dimension_eq_of_symbol {s : String} (symbol : r.symbol d preferName = .ok s)
    (symbol' : r.symbol d' preferName = .ok s) : d = d' := by
  obtain ⟨ts, terms, text⟩ := h.exists_symbolTerms symbol
  obtain ⟨ts', terms', text'⟩ := h.exists_symbolTerms symbol'
  have same := terms_injective (h.isTerm_of_mem terms) (h.isTerm_of_mem terms')
    (text.symm.trans text')
  exact h.eq_of_symbolTerms terms (same ▸ terms')

end TellsApart

/-! ## Display names after requests -/

variable {history : List Operation} {name : String} {q : Quantity}

theorem isLabel_predefinedNames : ∀ entry ∈ predefinedNames, IsLabel entry.2 := by
  decide +kernel

theorem nodup_predefinedNames : (predefinedNames.map Prod.snd).Nodup := by
  decide +kernel

/-- A predefined display name is the name of a predefined unit, or no name of a unit at all. -/
theorem predefinedNames_taken : ∀ entry ∈ predefinedNames,
    (predefined? entry.2).isSome = true ∨ entry.2.toList.all isNameCharacter = false := by
  decide +kernel

theorem mem_predefinedNames (h : predefinedName? d = some name) :
    (d, name) ∈ predefinedNames := by
  obtain ⟨⟨d', name⟩, found, rfl⟩ := Option.map_eq_some_iff.1 h
  have same : d' = d := of_decide_eq_true
    (List.find?_some (p := fun entry : Dimension × String => decide (entry.1 = d)) found)
  exact same ▸ List.mem_of_find?_eq_some found

/-- After requests a display name is the name of the unit in a slot, or a predefined name. -/
theorem currentName?_cases (requests : ∀ op ∈ history, op.isRequest = true)
    (h : currentName? history d = some name) :
    (∃ slot, (table history)[slot]? = some name ∧ d = .extension slot) ∨
      (d, name) ∈ predefinedNames := by
  induction history using List.reverseRecOn with
  | nil => exact .inr (mem_predefinedNames h)
  | append_singleton history op ih =>
    have earlier : ∀ op ∈ history, op.isRequest = true :=
      fun op member => requests op (List.mem_append_left _ member)
    cases op with
    | unit wanted extend =>
      rw [currentName?_append_singleton rfl, Operation.written?] at h
      rw [table_unit]
      by_cases new : Appends (table history) wanted extend ∧
          Dimension.extension (table history).length = d
      · rw [if_pos new, Option.some_or, Option.some.injEq] at h
        refine .inl ⟨(table history).length, ?_, new.2.symm⟩
        rw [if_pos new.1, List.getElem?_concat_length, h]
      · rw [if_neg new, Option.none_or] at h
        refine (ih earlier h).imp_left ?_
        rintro ⟨slot, entry, dimension⟩
        refine ⟨slot, ?_, dimension⟩
        split_ifs
        · rwa [List.getElem?_append_left (List.getElem?_eq_some_iff.1 entry).1]
        · exact entry
    | _ => cases requests _ (List.mem_append_right _ List.mem_cons_self)

/-- No unit in a slot has a predefined display name. -/
theorem not_mem_predefinedNames {slot : Nat}
    (bare : ∀ name ∈ table history, IsBareName name.toList)
    (entry : (table history)[slot]? = some name) : (d, name) ∉ predefinedNames := by
  intro predefined
  have member := List.mem_of_getElem? entry
  rcases predefinedNames_taken _ predefined with taken | unnamed
  · rw [((lists_run history).wanted name member).2] at taken
    cases taken
  · rw [(bare name member).all] at unnamed
    cases unnamed

section

variable (requests : ∀ op ∈ history, op.isRequest = true)
  (bare : ∀ name ∈ table history, IsBareName name.toList)

include requests bare

theorem isLabel_currentName? (h : currentName? history d = some name) : IsLabel name := by
  rcases currentName?_cases requests h with ⟨slot, entry, -⟩ | predefined
  · exact isLabel_of_isBareName (bare name (List.mem_of_getElem? entry))
  · exact isLabel_predefinedNames _ predefined

theorem eq_of_currentName? (h : currentName? history d = some name)
    (h' : currentName? history d' = some name) : d = d' := by
  rcases currentName?_cases requests h with ⟨slot, entry, rfl⟩ | predefined <;>
    rcases currentName?_cases requests h' with ⟨slot', entry', rfl⟩ | predefined'
  · have lists := lists_run history
    have index := (lists.slot?_eq_some_iff name slot).2 entry
    have index' := (lists.slot?_eq_some_iff name slot').2 entry'
    rw [Option.some.inj (index.symm.trans index')]
  · exact absurd predefined' (not_mem_predefinedNames bare entry)
  · exact absurd predefined (not_mem_predefinedNames bare entry')
  · have entries := List.inj_on_of_nodup_map nodup_predefinedNames predefined predefined' rfl
    exact congrArg Prod.fst entries

/-- After requests for names that a parser can read, display names tell dimensions apart. -/
theorem tellsApart_run : (run history).TellsApart where
  exists_label i := ⟨_, (name?_run history _).trans (currentName?_single history i)⟩
  isLabel d _ named := isLabel_currentName? requests bare ((name?_run history d).symm.trans named)
  dimension_eq d d' _ named named' :=
    eq_of_currentName? requests bare ((name?_run history d).symm.trans named)
      ((name?_run history d').symm.trans named')

end

end Registry

/-! ## Symbols after parses -/

namespace Parser

/-- After any parses display names tell dimensions apart. -/
theorem tellsApart_reached (history : List (Options × String)) : (reached history).TellsApart := by
  obtain ⟨ops, run, of_names⟩ := exists_run_reached history
  rw [run]
  refine Registry.tellsApart_run (fun op member => ?_) fun name member => ?_
  · obtain ⟨_, _, rfl, -⟩ := of_names op member
    rfl
  · obtain ⟨op, member, wants⟩ := Registry.exists_wanted_of_mem_table member
    obtain ⟨name', extend, rfl, bare⟩ := of_names op member
    exact Registry.eq_of_wanted wants ▸ bare

/-- After any parses, dimensions that differ have no symbol in common, whether display names are
preferred or not, and every dimension has a symbol, unless it has none of its own that is preferred
and an exponent has too many digits. -/
theorem symbols_differ (history : List (Options × String)) (preferName : Bool) :
    (∀ d d' : Dimension, d ≠ d' → ∀ s, ¬((reached history).symbol d preferName = .ok s ∧
      (reached history).symbol d' preferName = .ok s)) ∧
    ∀ d : Dimension, (∃ s, (reached history).symbol d preferName = .ok s) ∨
      (preferName = false ∨ (reached history).name? d = none) ∧ d.isWritable = false ∧
        (reached history).symbol d preferName = .error .tooManyDigits := by
  have apart := tellsApart_reached history
  refine ⟨fun d d' different s symbols => ?_, fun d => ?_⟩
  · exact different (apart.dimension_eq_of_symbol symbols.1 symbols.2)
  by_cases unnamed : preferName = false ∨ (reached history).name? d = none
  · rw [Registry.symbol_of_unnamed unnamed, apart.baseSymbol_eq]
    by_cases writable : d.isWritable = true
    · exact .inl ⟨_, if_pos writable⟩
    · exact .inr ⟨unnamed, Bool.eq_false_iff.2 writable, if_neg writable⟩
  · rw [not_or, Bool.not_eq_false] at unnamed
    obtain ⟨name, named⟩ := Option.ne_none_iff_exists'.1 unnamed.2
    rw [unnamed.1]
    exact .inl ⟨name, Registry.symbol_of_name named⟩

end Parser

end Metrology
