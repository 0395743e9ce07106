import Metrology.Proofs.Registry.Names

/-!
# Extension units

A dimension of an extension slot is the dimension of one unit at most (`Lists.name_eq`).  As long as
display names are only given by requests for units, the unit of a slot is displayed by its name
(`symbol_extension`).
-/

namespace Metrology

namespace Registry

variable {r : Registry} {t : List String} {history : List Operation} {name name' : String}
  {q q' : Quantity} {slot : Nat}

/-! ## Units -/

theorem isBase_predefinedUnits : ∀ entry ∈ predefinedUnits, entry.2.dimension.IsBase := by
  decide +kernel

/-- No predefined unit is of the dimension of an extension slot. -/
theorem isBase_of_predefined (h : predefined? name = some q) : q.dimension.IsBase := by
  obtain ⟨entry, found, rfl⟩ := Option.map_eq_some_iff.1 h
  exact isBase_predefinedUnits entry (List.mem_of_find?_eq_some found)

/-- A name with a unit of the dimension of an extension slot is the name in the slot. -/
theorem Lists.getElem?_of_dimension (h : r.Lists t) (inside : slot < Dimension.extensionCount)
    (known : r.find? name = some q) (dimension : q.dimension = .extension slot) :
    t[slot]? = some name := by
  cases predefined : predefined? name with
  | some q' =>
    obtain rfl := Option.some.inj ((find?_of_predefined predefined).symm.trans known)
    have base := isBase_of_predefined predefined
    rw [dimension] at base
    exact absurd base (Dimension.not_isBase_extension inside)
  | none =>
    rw [find?_of_not_predefined predefined, Option.map_eq_some_iff] at known
    obtain ⟨slot', entry, rfl⟩ := known
    rw [Dimension.extension_injective inside dimension.symm]
    exact (h.slot?_eq_some_iff name slot').1 entry

/-- Units of the dimension of an extension slot have one name. -/
theorem Lists.name_eq (h : r.Lists t) (inside : slot < Dimension.extensionCount)
    (known : r.find? name = some q) (dimension : q.dimension = .extension slot)
    (known' : r.find? name' = some q') (dimension' : q'.dimension = .extension slot) :
    name = name' :=
  Option.some.inj ((h.getElem?_of_dimension inside known dimension).symm.trans
    (h.getElem?_of_dimension inside known' dimension'))

theorem Lists.slot_lt (h : r.Lists t) (entry : t[slot]? = some name) :
    slot < Dimension.extensionCount :=
  Nat.lt_of_lt_of_le (List.getElem?_eq_some_iff.1 entry).1 h.length_le

/-- A name that is not predefined has a dimension of its own. -/
theorem Lists.dimension_ne (h : r.Lists t) (unknown : predefined? name' = none)
    (other : name' ≠ name) (known : r.find? name = some q) (known' : r.find? name' = some q') :
    q'.dimension ≠ q.dimension := by
  intro same
  have found := known'
  rw [find?_of_not_predefined unknown, Option.map_eq_some_iff] at found
  obtain ⟨slot, entry, rfl⟩ := found
  have inside := h.slot_lt ((h.slot?_eq_some_iff name' slot).1 entry)
  exact other (h.name_eq inside known' rfl known same.symm)

/-- A request for a name that is not predefined grants no unit of the dimension of another name. -/
theorem dimension_ne_of_unit {extend : Bool} (unknown : predefined? name' = none)
    (other : name' ≠ name) (known : (run history).find? name = some q)
    (granted : ((run history).unit name' extend).result = .ok q') :
    q'.dimension ≠ q.dimension :=
  ((lists_run history).apply (.unit name' extend)).dimension_ne unknown other (find?_unit known)
    (find?_unit_self granted)

/-! ## Display names -/

/-- Whether an operation is a request for a unit. -/
def Operation.isRequest : Operation → Bool
  | .unit _ _ => true
  | _ => false

/-- In a history of requests a unit is displayed by its name. -/
theorem currentName?_extension (requests : ∀ op ∈ history, op.isRequest = true)
    (entry : (table history)[slot]? = some name) :
    currentName? history (.extension slot) = some name := by
  induction history using List.reverseRecOn with
  | nil => cases entry
  | append_singleton history op ih =>
    have earlier : ∀ op ∈ history, op.isRequest = true :=
      fun op member => requests op (List.mem_append_left _ member)
    cases op with
    | unit wanted extend =>
      rw [currentName?_append_singleton rfl, Operation.written?]
      rw [table_unit] at entry
      by_cases new : Appends (table history) wanted extend
      · rw [if_pos new, List.getElem?_append] at entry
        split_ifs at entry with old
        · have other : Dimension.extension (table history).length ≠ .extension slot := fun same =>
            Nat.ne_of_lt old (Dimension.extension_injective new.2.2.2.2 same).symm
          rw [if_neg fun h => other h.2, Option.none_or]
          exact ih earlier entry
        · rw [List.getElem?_singleton] at entry
          split_ifs at entry with last
          have same : (table history).length = slot := by omega
          rw [if_pos ⟨new, congrArg _ same⟩, Option.some_or, Option.some.inj entry]
      · rw [if_neg new] at entry
        rw [if_neg fun h => new h.1, Option.none_or]
        exact ih earlier entry
    | _ => cases requests _ (List.mem_append_right _ List.mem_cons_self)

/-- In a history of requests the symbols of an extension slot are the name of its unit. -/
theorem symbol_extension (requests : ∀ op ∈ history, op.isRequest = true)
    (entry : (table history)[slot]? = some name) (preferName : Bool) :
    (run history).symbol (.extension slot) preferName = .ok name := by
  have inside := (lists_run history).slot_lt entry
  have current := currentName?_extension requests entry
  cases preferName with
  | true => exact symbol_of_name ((name?_run history _).trans current)
  | false =>
    have writable : ∀ slot : Fin Dimension.extensionCount,
        (Dimension.extension slot).isWritable = true := by decide +kernel
    have slots := Dimension.slots_extension ⟨slot, inside⟩
    have slot_label : label history (Dimension.extensionSlot ⟨slot, inside⟩) = name := by
      rw [label, Dimension.single_extensionSlot, current, Option.getD_some]
    have exponent : (Dimension.extension slot).exponent (Dimension.extensionSlot ⟨slot, inside⟩) =
        1 := by rw [Dimension.exponent_extension]; exact if_pos rfl
    rw [symbol_of_unnamed (.inl rfl), baseSymbol_run, if_pos (writable ⟨slot, inside⟩),
      productTerms, slots, List.map_singleton, slot_label, exponent]
    exact congrArg Except.ok (String.append_empty)

end Registry

end Metrology
