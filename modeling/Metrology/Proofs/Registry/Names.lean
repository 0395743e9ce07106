import Metrology.Proofs.Registry.History
import Metrology.Proofs.Registry.Symbols

/-!
# Display names after a history

After any history of operations on a fresh registry, the display name of a dimension is the last one
that was written for it since the last reset, and without such a write the first one that the
predefined names have (`name?_run`).  So every slot has a label at all times, and no symbol fails
for want of one (`names_after_history`).
-/

namespace Metrology

namespace Registry

/-! ## Writes -/

/-- The display name that an operation gives to a dimension, after the history `earlier`.  A request
that defines a unit gives its name to the dimension of the slot. -/
def Operation.written? (earlier : List Operation) (d : Dimension) : Operation → Option String
  | .defineName d' name => if d' = d then some name else none
  | .unit name extend =>
    if Appends (table earlier) name extend ∧ Dimension.extension (table earlier).length = d
    then some name else none
  | _ => none

/-- The display name that was last given to a dimension since the last reset, in a history that is
told from its end. -/
def lastWritten? (d : Dimension) : List Operation → Option String
  | [] => none
  | op :: earlier =>
    if op.keeps then (op.written? earlier.reverse d).or (lastWritten? d earlier) else none

/-- The first display name that the predefined names have for a dimension. -/
def predefinedName? (d : Dimension) : Option String :=
  (predefinedNames.find? fun entry => entry.1 = d).map Prod.snd

/-- The display name of a dimension after a history. -/
def currentName? (history : List Operation) (d : Dimension) : Option String :=
  (lastWritten? d history.reverse).or (predefinedName? d)

variable {r : Registry} {history : List Operation} {op : Operation} {d d' : Dimension}
  {name : String}

theorem name?_defineName :
    (r.defineName d' name).name? d = if d' = d then some name else r.name? d := by
  unfold name? defineName
  rw [List.find?_cons]
  split_ifs with same <;> simp [same]

theorem name?_define :
    (r.define name).name? d =
      if Dimension.extension r.extensions.length = d then some name else r.name? d :=
  name?_defineName

theorem currentName?_append_singleton (h : op.keeps = true) :
    currentName? (history ++ [op]) d =
      (op.written? history d).or (currentName? history d) := by
  rw [currentName?, List.reverse_append, List.reverse_singleton, List.singleton_append,
    lastWritten?, if_pos h, List.reverse_reverse, Option.or_assoc, currentName?]

/-- After any history, a dimension has the display name that was last written for it. -/
theorem name?_run (history : List Operation) (d : Dimension) :
    (run history).name? d = currentName? history d := by
  induction history using List.reverseRecOn with
  | nil => rfl
  | append_singleton history op ih =>
    rw [run_append_singleton]
    cases op with
    | reset =>
      rw [currentName?, List.reverse_append]
      rfl
    | unit name extend =>
      have lists := lists_run history
      rw [currentName?_append_singleton rfl, ← ih, Operation.apply, lists.registry_unit]
      by_cases new : Appends (table history) name extend
      · rw [if_pos new, name?_define, lists.extensions_eq, Operation.written?]
        by_cases slot : Dimension.extension (table history).length = d
        · rw [if_pos slot, if_pos ⟨new, slot⟩, Option.some_or]
        · rw [if_neg slot, if_neg (fun h => slot h.2), Option.none_or]
      · rw [if_neg new, Operation.written?, if_neg (fun h => new h.1), Option.none_or]
    | defineName d' name =>
      rw [currentName?_append_singleton rfl, ← ih, Operation.apply, name?_defineName,
        Operation.written?]
      by_cases same : d' = d
      · rw [if_pos same, if_pos same, Option.some_or]
      · rw [if_neg same, if_neg same, Option.none_or]
    | _ =>
      rw [currentName?_append_singleton rfl, ← ih]
      rfl

/-! ## Labels -/

/-- The predefined names start with those of the base slots, and end with those of the extension
slots. -/
theorem getElem?_predefinedNames (i : Fin Dimension.size) :
    (predefinedNames[if i.val < Dimension.baseCount then i.val else i.val + 19]?).map Prod.fst =
      some (.single i) := by
  revert i
  decide +kernel

/-- Every slot has a predefined name. -/
theorem isSome_predefinedName?_single (i : Fin Dimension.size) :
    (predefinedName? (.single i)).isSome = true := by
  obtain ⟨entry, found, single⟩ := Option.map_eq_some_iff.1 (getElem?_predefinedNames i)
  rw [predefinedName?, Option.isSome_map, List.find?_isSome]
  exact ⟨entry, List.mem_of_getElem? found, decide_eq_true single⟩

/-- Every slot has a label after any history. -/
theorem exists_label (history : List Operation) (i : Fin Dimension.size) :
    ∃ label, currentName? history (.single i) = some label := by
  obtain ⟨label, predefined⟩ := Option.isSome_iff_exists.1 (isSome_predefinedName?_single i)
  rw [currentName?, predefined]
  cases lastWritten? (.single i) history.reverse with
  | none => exact ⟨label, rfl⟩
  | some written => exact ⟨written, rfl⟩

/-- The label of a slot after a history. -/
def label (history : List Operation) (i : Fin Dimension.size) : String :=
  (currentName? history (.single i)).getD ""

theorem currentName?_single (history : List Operation) (i : Fin Dimension.size) :
    currentName? history (.single i) = some (label history i) := by
  obtain ⟨name, current⟩ := exists_label history i
  rw [label, current, Option.getD_some]

/-! ## Symbols -/

/-- After any history the product of powers of a dimension has the labels of the slots. -/
theorem baseSymbol_run (history : List Operation) (d : Dimension) :
    (run history).baseSymbol d =
      if d.isWritable then .ok (" ".intercalate (productTerms (label history) d))
      else .error .tooManyDigits :=
  baseSymbol_of_labels (fun i => (name?_run history _).trans (currentName?_single history i)) d

theorem symbol_ne_unnamed (history : List Operation) (d : Dimension) (preferName : Bool)
    (missing : Dimension) : (run history).symbol d preferName ≠ .error (.unnamed missing) := by
  intro failed
  rcases (run history).symbol_cases d preferName with ⟨name, -, named⟩ | product
  · cases named.symm.trans failed
  · have absent := (baseSymbol_run history d).symm.trans (product.symm.trans failed)
    split_ifs at absent
    cases absent

/-- After any history, the display name of a dimension is the last one written for it since the
last reset, or else the first predefined one; every slot has one, so that no symbol fails for want
of a label.  The symbol of a dimension is its display name, where that is preferred, and otherwise
has a term for each exponent that is not zero, in the order of the slots. -/
theorem names_after_history (history : List Operation) :
    (∀ d, (run history).nameOf d = (currentName? history d).getD "") ∧
    (∀ d, (run history).hasName d = (currentName? history d).isSome) ∧
    (∀ i, currentName? history (.single i) = some (label history i)) ∧
    (∀ d preferName missing, (run history).symbol d preferName ≠ .error (.unnamed missing)) ∧
    (∀ d name, currentName? history d = some name → (run history).symbol d true = .ok name) ∧
    (∀ d preferName, preferName = false ∨ currentName? history d = none →
      (run history).symbol d preferName =
        if d.isWritable then .ok (" ".intercalate (productTerms (label history) d))
        else .error .tooManyDigits) := by
  refine ⟨fun d => ?_, fun d => ?_, currentName?_single history, symbol_ne_unnamed history,
    fun d name named => ?_, fun d preferName unnamed => ?_⟩
  · rw [nameOf, name?_run]
  · rw [hasName, name?_run]
  · exact symbol_of_name ((name?_run history d).trans named)
  · rw [← name?_run] at unnamed
    exact (symbol_of_unnamed unnamed).trans (baseSymbol_run history d)

end Registry

end Metrology
