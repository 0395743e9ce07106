import Metrology.Proofs.Parser.Growth

/-!
# What a parse adds to a registry

Requests let a registry grow by new units in the slots behind its table, and everything else in it
stays (`Registry.Grows`): one request adds one unit at most (`Registry.grows_define`), and growth
composes (`Registry.Grows.trans`).  So whatever becomes of a parse, it adds units for names in its
text, and none without the option `extend` (`Parser.registry_after_parse`).
-/

namespace Metrology

open Expression

namespace Registry

variable {r before middle after : Registry} {t new later : List String} {name : String}
  {extend : Bool} {q : Quantity}

/-! ## Growth -/

/-- The registry grew by units of the names `new`, in the slots behind its table, which are
displayed by their names.  All other display names and all units are what they were. -/
structure Grows (before after : Registry) (new : List String) : Prop where
  extensions_eq : after.extensions = before.extensions ++ new
  name?_new : ∀ slot name, new[slot]? = some name →
    after.name? (.extension (before.extensions.length + slot)) = some name
  name?_old : ∀ d, (∀ slot < new.length, d ≠ .extension (before.extensions.length + slot)) →
    after.name? d = before.name? d
  unit_old : ∀ name extend q, (before.unit name).result = .ok q →
    (after.unit name extend).result = .ok q

/-- Without the permission to extend the table, the units of a registry are those it has. -/
theorem result_unit_eq_ok_iff : (r.unit name).result = .ok q ↔ r.find? name = some q := by
  constructor
  · intro granted
    cases known : r.find? name with
    | none =>
      rw [unit_of_refused known (.inl rfl)] at granted
      cases granted
    | some q' =>
      rw [unit_of_find? known] at granted
      rw [Except.ok.inj granted]
  · intro known
    rw [unit_of_find? known]

theorem result_unit_of_ok (h : (r.unit name).result = .ok q) :
    (r.unit name extend).result = .ok q := by
  rw [unit_of_find? (result_unit_eq_ok_iff.1 h)]

theorem Grows.refl (r : Registry) : Grows r r [] where
  extensions_eq := (List.append_nil _).symm
  name?_new _ _ entry := nomatch entry
  name?_old _ _ := rfl
  unit_old _ _ _ := result_unit_of_ok

/-- Growth composes: a slot that the first units got is none that the later ones get. -/
theorem Grows.trans (first : Grows before middle new) (second : Grows middle after later)
    (inside : middle.extensions.length ≤ capacity) : Grows before after (new ++ later) := by
  have length : middle.extensions.length = before.extensions.length + new.length := by
    rw [first.extensions_eq, List.length_append]
  refine ⟨?_, fun slot name entry => ?_, fun d elsewhere => ?_, fun name extend q known => ?_⟩
  · rw [second.extensions_eq, first.extensions_eq, List.append_assoc]
  · rw [List.getElem?_append] at entry
    split_ifs at entry with old
    -- Slots beyond the capacity would share a dimension, so the bound on the table is needed here.
    · have vacant : before.extensions.length + slot < Dimension.extensionCount :=
        Nat.lt_of_lt_of_le (by omega) inside
      rw [second.name?_old _ fun slot' _ same => ?_]
      · exact first.name?_new slot name entry
      · have := Dimension.extension_injective vacant same
        omega
    · have place : before.extensions.length + new.length + (slot - new.length) =
          before.extensions.length + slot := by omega
      have named := second.name?_new _ _ entry
      rwa [length, place] at named
  · rw [List.length_append] at elsewhere
    rw [second.name?_old d fun slot within => ?_, first.name?_old d fun slot within => ?_]
    · exact elsewhere slot (by omega)
    · rw [length, Nat.add_assoc]
      exact elsewhere _ (by omega)
  · exact second.unit_old name extend q (first.unit_old name false q known)

theorem grows_define (unknown : r.find? name = none) : Grows r (r.define name) [name] := by
  refine ⟨rfl, fun slot name' entry => ?_, fun d elsewhere => ?_, fun other extend q known => ?_⟩
  · rw [List.getElem?_singleton] at entry
    split_ifs at entry with first
    rw [first, Nat.add_zero, name?_define, if_pos rfl, entry]
  · rw [name?_define, if_neg fun same => elsewhere 0 Nat.one_pos same.symm]
  · rw [result_unit_eq_ok_iff] at known
    have : other ≠ name := by
      rintro rfl
      rw [unknown] at known
      cases known
    rw [unit_of_find? (q := q) (by rw [find?_define_of_ne this, known])]

/-! ## Requests -/

/-- One request adds a unit of its name, or nothing. -/
theorem exists_grows_unit (h : r.Lists t) (name : String) (extend : Bool) :
    ∃ new, (r.unit name extend).registry.Lists (t ++ new) ∧
      Grows r (r.unit name extend).registry new ∧ ∀ added ∈ new, added = name := by
  rw [h.registry_unit]
  split_ifs with appends
  · have unknown : r.find? name = none := h.find?_eq_none_iff.2 ⟨appends.1, appends.2.1⟩
    exact ⟨[name], h.define appends, grows_define unknown, fun _ => List.mem_singleton.1⟩
  · exact ⟨[], (List.append_nil t).symm ▸ h, .refl r, fun _ h => absurd h List.not_mem_nil⟩

/-- Requests add units of some of their names, whether they are granted or not. -/
theorem exists_grows_requests (extend : Bool) (names : List String) (h : r.Lists t) :
    ∃ new, (r.requests extend names).2.Lists (t ++ new) ∧
      Grows r (r.requests extend names).2 new ∧ new ⊆ names := by
  induction names generalizing r t with
  | nil => exact ⟨[], (List.append_nil t).symm ▸ h, .refl r, List.nil_subset _⟩
  | cons name names ih =>
    obtain ⟨new, lists, grows, of_name⟩ := exists_grows_unit h name extend
    have first : new ⊆ name :: names :=
      fun added member => of_name added member ▸ List.mem_cons_self
    rw [requests]
    cases (r.unit name extend).result with
    | error fault => exact ⟨new, lists, grows, first⟩
    | ok q =>
      obtain ⟨later, lists', grows', of_names⟩ := ih lists
      have inside : (r.unit name extend).registry.extensions.length ≤ capacity :=
        lists.extensions_eq ▸ lists.length_le
      refine ⟨new ++ later, ?_, grows.trans grows' inside, ?_⟩
      · rw [← List.append_assoc]
        exact lists'
      · exact List.append_subset.2 ⟨first, fun _ member => List.mem_cons_of_mem _ (of_names member)⟩

theorem registry_unit_of_not_extend (r : Registry) (name : String) :
    (r.unit name false).registry = r := by
  cases known : r.find? name with
  | none => rw [unit_of_refused known (.inl rfl)]
  | some q => rw [unit_of_find? known]

/-- Requests that may not extend the table leave the registry as it was. -/
theorem requests_of_not_extend (r : Registry) (names : List String) :
    (r.requests false names).2 = r := by
  induction names with
  | nil => rfl
  | cons name names ih =>
    rw [requests, registry_unit_of_not_extend]
    cases (r.unit name false).result with
    | error fault => rfl
    | ok q => exact ih

/-- No name has two slots. -/
theorem Lists.nodup (h : r.Lists t) : t.Nodup := by
  rw [List.nodup_iff_getElem?_ne_getElem?]
  intro slot slot' less inside same
  have before : slot < t.length := Nat.lt_trans less inside
  have entry : t[slot]? = some t[slot] := List.getElem?_eq_getElem before
  have one := (h.slot?_eq_some_iff _ slot).2 entry
  have other := (h.slot?_eq_some_iff _ slot').2 (same.symm.trans entry)
  exact Nat.ne_of_lt less (Option.some.inj (one.symm.trans other))

end Registry

namespace Parser

/-- Whatever becomes of a parse, the registry grows by units of new names: parts of the text, made
of letters and apostrophes, that have no predefined unit and were not in the table.  Without the
option `extend` the registry stays as it is. -/
theorem registry_after_parse (o : Options) (history : List Registry.Operation)
    (state : ParserState) (source : String) :
    let before := Registry.run history
    let p : Parser := { options := o, registry := before, state }
    let after := (p.parse source).parser.registry
    (∃ new, Registry.Grows before after new ∧ new.Nodup ∧
      ∀ name ∈ new, name ≠ "" ∧ name.toList.all isNameCharacter = true ∧
        name.toList <:+: source.toList ∧ Registry.predefined? name = none ∧
        name ∉ before.extensions) ∧
    (o.extend = false → after = before) := by
  intro before p after
  obtain ⟨names, requested, inside⟩ := exists_requests p source
  have lists : before.Lists (Registry.table history) := Registry.lists_run history
  obtain ⟨new, listed, grows, of_names⟩ := Registry.exists_grows_requests o.extend names lists
  rw [← requested] at listed grows
  refine ⟨⟨new, grows, ?_, fun name member => ?_⟩, fun off => ?_⟩
  · exact (List.nodup_append.1 listed.nodup).2.1
  · obtain ⟨bare, part⟩ := inside name (of_names member)
    obtain ⟨named, fresh⟩ := listed.wanted name (List.mem_append_right _ member)
    refine ⟨named, bare.all, part.trans (Text.trim_infix _), fresh, fun old => ?_⟩
    rw [lists.extensions_eq] at old
    exact (List.nodup_append.1 listed.nodup).2.2 name old name member rfl
  · exact requested.trans (off ▸ Registry.requests_of_not_extend before names)

end Parser

end Metrology
