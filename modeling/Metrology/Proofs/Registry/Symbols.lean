import Mathlib
import Metrology.Registry

/-!
# Symbols of dimensions

The product of powers that displays a dimension, for any registry whose slots have labels: a term
for each exponent that is not zero, in the order of the slots, unless an exponent has too many
digits (`baseSymbol_of_labels`).
-/

namespace Metrology

namespace Dimension

variable {d : Dimension} {i : Fin size}

theorem mem_slots_iff : i ∈ d.slots ↔ d.exponent i ≠ 0 := by
  simp [slots]

theorem isWritable_iff : d.isWritable = true ↔ ∀ i, Whole.isWritable (d.exponent i) = true := by
  rw [isWritable, toList, Vector.all_toList, Vector.all_eq_true]
  exact ⟨fun h i => h i i.isLt, fun h i hi => h ⟨i, hi⟩⟩

theorem exponent_single {n : Int} {j : Fin size} :
    (single i n).exponent j = if j = i then n else 0 :=
  exponent_ofFn _ _

/-- The exponents of the extension slots are zero. -/
def IsBase (d : Dimension) : Prop := ∀ i : Fin size, baseCount ≤ i.val → d.exponent i = 0

instance (d : Dimension) : Decidable d.IsBase :=
  inferInstanceAs (Decidable (∀ _ : Fin size, _ → _))

theorem lt_baseCount_of_mem_slots (base : d.IsBase) (h : i ∈ d.slots) : i.val < baseCount := by
  by_contra outside
  exact mem_slots_iff.1 h (base i (Nat.le_of_not_lt outside))

/-- The extension slots, among all slots. -/
def extensionSlot (slot : Fin extensionCount) : Fin size := Fin.natAdd baseCount slot

theorem single_extensionSlot (slot : Fin extensionCount) :
    single (extensionSlot slot) = extension slot := by
  ext i
  rw [exponent_single, extension, exponent_ofFn]
  exact if_congr Fin.ext_iff rfl rfl

theorem exponent_extension {slot : Nat} :
    (extension slot).exponent i = if i.val = baseCount + slot then 1 else 0 :=
  exponent_ofFn _ _

theorem extension_injective {slot slot' : Nat} (h : slot < extensionCount)
    (same : extension slot = extension slot') : slot = slot' := by
  have one := congrArg (exponent · (extensionSlot ⟨slot, h⟩)) same
  simpa [exponent_extension, extensionSlot] using one

theorem not_isBase_extension {slot : Nat} (h : slot < extensionCount) :
    ¬(extension slot).IsBase := by
  intro base
  have zero := base (extensionSlot ⟨slot, h⟩) (Nat.le_add_right _ _)
  simp [exponent_extension, extensionSlot] at zero

theorem slots_extension (slot : Fin extensionCount) :
    (extension slot).slots = [extensionSlot slot] := by
  revert slot
  decide +kernel

/-- An exponent that has too many digits is not zero. -/
theorem isWritable_iff_slots :
    d.isWritable = true ↔ ∀ i ∈ d.slots, Whole.isWritable (d.exponent i) = true := by
  rw [isWritable_iff]
  refine ⟨fun h i _ => h i, fun h i => ?_⟩
  by_cases zero : d.exponent i = 0
  · rw [zero]
    decide +kernel
  · exact h i (mem_slots_iff.2 zero)

end Dimension

namespace Registry

variable {r : Registry} {d : Dimension} {label : Fin Dimension.size → String}

/-! ## Terms -/

/-- The text of an exponent other than zero behind a label: nothing for one, and otherwise a sign
and digits. -/
def exponentText (n : Int) : String :=
  if n = 1 then "" else (if n < 0 then "-" else "+") ++ toString n.natAbs

theorem toString_of_nonneg {n : Int} (h : 0 ≤ n) : toString n = toString n.natAbs := by
  obtain ⟨k, rfl⟩ := Int.eq_ofNat_of_zero_le h
  rfl

theorem toString_of_neg {n : Int} (h : n < 0) : toString n = "-" ++ toString n.natAbs := by
  obtain ⟨k, rfl⟩ := Int.eq_negSucc_of_lt_zero h
  rfl

theorem symbolTerm_eq {n : Int} (nonzero : n ≠ 0) (label : String) :
    symbolTerm label n = label ++ exponentText n := by
  unfold symbolTerm exponentText
  by_cases one : n = 1
  · rw [if_pos one, if_pos one, String.append_empty]
  · rw [if_neg one, if_neg one]
    by_cases negative : n < 0
    · rw [if_pos negative, if_neg (by omega), ← toString_of_neg negative]
      rfl
    · rw [if_neg negative, if_pos (by omega), ← toString_of_nonneg (by omega)]
      exact String.append_assoc

/-- The terms of a product of powers, with labels for the slots. -/
def productTerms (label : Fin Dimension.size → String) (d : Dimension) : List String :=
  d.slots.map fun i => label i ++ exponentText (d.exponent i)

/-! ## Products of powers -/

theorem slotTerm_of_label {i : Fin Dimension.size} (labels : r.name? (.single i) = some (label i))
    (nonzero : d.exponent i ≠ 0) :
    r.slotTerm d i =
      if Whole.isWritable (d.exponent i) then .ok (label i ++ exponentText (d.exponent i))
      else .error .tooManyDigits := by
  rw [slotTerm, labels]
  dsimp only
  rw [symbolTerm_eq nonzero]

theorem mapM_slotTerm (labels : ∀ i, r.name? (.single i) = some (label i))
    (is : List (Fin Dimension.size)) (nonzero : ∀ i ∈ is, d.exponent i ≠ 0) :
    is.mapM (r.slotTerm d) =
      if ∀ i ∈ is, Whole.isWritable (d.exponent i) = true
      then .ok (is.map fun i => label i ++ exponentText (d.exponent i))
      else .error .tooManyDigits := by
  induction is with
  | nil => rfl
  | cons i is ih =>
    have nonzero' := List.forall_mem_cons.1 nonzero
    rw [List.mapM_cons, slotTerm_of_label (labels i) nonzero'.1, ih nonzero'.2]
    simp only [List.forall_mem_cons, List.map_cons]
    by_cases first : Whole.isWritable (d.exponent i) = true
    · by_cases rest : ∀ i ∈ is, Whole.isWritable (d.exponent i) = true
      · rw [if_pos first, if_pos rest, if_pos ⟨first, rest⟩]
        rfl
      · rw [if_pos first, if_neg rest, if_neg fun h => rest h.2]
        rfl
    · rw [if_neg first, if_neg (show ¬(_ ∧ _) from fun h => first h.1)]
      rfl

/-- Where every slot has a label, the product of powers has a term for each exponent that is not
zero, in the order of the slots. -/
theorem baseSymbol_of_labels (labels : ∀ i, r.name? (.single i) = some (label i))
    (d : Dimension) :
    r.baseSymbol d =
      if d.isWritable then .ok (" ".intercalate (productTerms label d))
      else .error .tooManyDigits := by
  rw [baseSymbol, mapM_slotTerm labels d.slots fun i => Dimension.mem_slots_iff.1]
  by_cases writable : d.isWritable = true
  · rw [if_pos (Dimension.isWritable_iff_slots.1 writable), if_pos writable]
    rfl
  · rw [if_neg (fun h => writable (Dimension.isWritable_iff_slots.2 h)), if_neg writable]
    rfl

/-- A display name that is preferred is the whole symbol. -/
theorem symbol_of_name {name : String} (h : r.name? d = some name) :
    r.symbol d true = .ok name := by
  unfold symbol
  rw [if_pos rfl, h]

/-- Without a display name that is preferred, the symbol is the product of powers. -/
theorem symbol_of_unnamed {preferName : Bool} (h : preferName = false ∨ r.name? d = none) :
    r.symbol d preferName = r.baseSymbol d := by
  unfold symbol
  rcases h with rfl | h
  · rfl
  · rw [h, ite_self]

/-- A symbol is a display name or a product of powers. -/
theorem symbol_cases (r : Registry) (d : Dimension) (preferName : Bool) :
    (∃ name, r.name? d = some name ∧ r.symbol d preferName = .ok name) ∨
      r.symbol d preferName = r.baseSymbol d := by
  cases preferName with
  | false => exact .inr (symbol_of_unnamed (.inl rfl))
  | true =>
    cases named : r.name? d with
    | none => exact .inr (symbol_of_unnamed (.inr named))
    | some name => exact .inl ⟨name, rfl, symbol_of_name named⟩

end Registry

end Metrology
