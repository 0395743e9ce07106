import Metrology.Proofs.Number.Written
import Metrology.Proofs.Parser.UnitParts
import Metrology.Proofs.Registry.Names

/-!
# Symbols parse back

The symbols that a fresh registry has for the dimensions without extension units are unit texts: the
products of powers (`exists_symbolText_product`) and the display names (`exists_symbolText_name`).
So a parser reads each of them as one unit of its dimension (`parse_symbol`).
-/

namespace Metrology

open Expression Registry

/-! ## Powers of one -/

/-- A whole exponent is near to a double, and one to the power of that double is one. -/
def Magnitude.KeepsOne (n : Int) : Prop :=
  ∃ y, Binary64.ofWhole? n = some y ∧ Float.pow 1 y = 1

theorem Magnitude.powerBy_one {n : Int} (h : KeepsOne n) : powerBy Float.pow 1 n = 1 := by
  obtain ⟨y, whole, pow⟩ := h
  have finite : (Float.isFinite 1 && Float.isInf 1) = false := by decide +kernel
  rw [powerBy, whole]
  dsimp only
  rw [pow, finite]
  rfl

/-- One keeps its value in all powers of a product of powers, where an exponent of one is not
written. -/
def Dimension.KeepsOne (d : Dimension) : Prop :=
  ∀ i, d.exponent i ≠ 0 → d.exponent i ≠ 1 → Magnitude.KeepsOne (d.exponent i)

variable {o : Options} {d : Dimension} {i j : Fin Dimension.size} {n : Int} {e : Expression}
  {s : List Char} {unitOf : String → Quantity}

theorem Dimension.single_pow : Dimension.single i ^ n = Dimension.single i n := by
  ext j
  rw [Dimension.exponent_pow, Dimension.exponent_single, Dimension.exponent_single]
  split_ifs <;> simp

/-- A dimension is the sum of its slots. -/
theorem Dimension.sum_slots (d : Dimension) (j : Fin Dimension.size) :
    (d.slots.map fun i => (Dimension.single i (d.exponent i)).exponent j).sum = d.exponent j := by
  have nodup : d.slots.Nodup := (List.nodup_finRange _).filter _
  rw [← List.sum_toFinset _ nodup]
  simp only [Dimension.exponent_single, Finset.sum_ite_eq, List.mem_toFinset,
    Dimension.mem_slots_iff]
  split_ifs with zero
  · rfl
  · exact (not_not.1 zero).symm

/-! ## Products -/

theorem exponent_value_productOf {escape : Char} (fs : List (UnitFactor escape)) :
    ((UnitText.productOf e fs).value unitOf).dimension.exponent j =
      (e.value unitOf).dimension.exponent j +
        (fs.map fun f => (f.expression.value unitOf).dimension.exponent j).sum := by
  induction fs generalizing e with
  | nil => simp [UnitText.productOf]
  | cons f fs ih =>
    have step := ih (e := .product e f.expression)
    rw [List.map_cons, List.sum_cons, ← Int.add_assoc, ← Dimension.exponent_mul]
    exact step

theorem value_value_productOf {escape : Char} (fs : List (UnitFactor escape))
    (h : (e.value unitOf).value = 1) (h' : ∀ f ∈ fs, (f.expression.value unitOf).value = 1) :
    ((UnitText.productOf e fs).value unitOf).value = 1 := by
  induction fs generalizing e with
  | nil => exact h
  | cons f fs ih =>
    obtain ⟨first, rest⟩ := List.forall_mem_cons.1 h'
    refine ih (e := .product e f.expression) ?_ rest
    change (e.value unitOf).value * (f.expression.value unitOf).value = 1
    rw [h, first, Binary64.one_mul]

theorem names_productOf {escape : Char} {name : String} (fs : List (UnitFactor escape)) :
    name ∈ (UnitText.productOf e fs).names ↔
      name ∈ e.names ∨ ∃ f ∈ fs, name ∈ f.expression.names := by
  induction fs generalizing e with
  | nil => simp [UnitText.productOf]
  | cons f fs ih =>
    have step := ih (e := .product e f.expression)
    rw [Expression.names, List.mem_append, or_assoc] at step
    simpa [UnitText.productOf] using step

/-! ## Names of units -/

/-- A name is read as a unit as it stands, and the unit is one of its dimension. -/
structure IsUnitName (name : String) (d : Dimension) : Prop where
  plain : IsPlainName name.toList
  unit : predefined? name = some ⟨d, 1⟩

variable {name : String}

instance : Decidable (IsUnitName name d) :=
  decidable_of_iff (IsPlainName name.toList ∧ predefined? name = some ⟨d, 1⟩)
    ⟨fun h => ⟨h.1, h.2⟩, fun h => ⟨h.1, h.2⟩⟩

namespace IsUnitName

variable (h : IsUnitName name d)

include h

theorem word : Word o.escape name.toList (.unit name) := by
  have word : Word o.escape name.toList _ := h.plain.word
  rwa [String.ofList_toList] at word

theorem known : ∃ q, ({} : Registry).find? name = some q := ⟨_, find?_of_predefined h.unit⟩

theorem quantity : ({} : Registry).quantity name = ⟨d, 1⟩ := by
  rw [Registry.quantity, find?_of_predefined h.unit, Option.getD_some]

end IsUnitName

/-! ## Powers of units -/

/-- The name of a unit with the exponent behind it that a symbol has there. -/
def unitPower (o : Options) (unit : IsUnitName name d) (n : Int)
    (writable : Whole.isWritable n = true) : UnitFactor o.escape where
  word := name.toList
  unit := .unit name
  power := if n = 1 then none else some (.signed n writable)
  isWord := unit.word

section

variable (unit : IsUnitName name (.single i)) (writable : Whole.isWritable n = true)

theorem text_unitPower : (unitPower o unit n writable).text = (name ++ exponentText n).toList := by
  rw [String.toList_append]
  refine congrArg (name.toList ++ ·) ?_
  unfold unitPower exponentText
  dsimp only
  split_ifs with one negative
  · rfl
  · rw [String.toList_append, Nat.toString_eq_repr, Nat.toList_repr, powerText,
      Whole.Numeral.text, Whole.Numeral.signed, if_pos negative]
    rfl
  · rw [String.toList_append, Nat.toString_eq_repr, Nat.toList_repr, powerText,
      Whole.Numeral.text, Whole.Numeral.signed, if_neg negative]
    rfl

theorem names_unitPower : (unitPower o unit n writable).expression.names = [name] := names_raised

theorem dimension_unitPower :
    ((unitPower o unit n writable).expression.value ({} : Registry).quantity).dimension =
      .single i n := by
  unfold UnitFactor.expression unitPower
  dsimp only
  by_cases one : n = 1
  · rw [if_pos one, raised, Expression.value, unit.quantity, one]
  · rw [if_neg one, raised, Expression.value, Expression.value, unit.quantity,
      Whole.Numeral.value_signed]
    exact Dimension.single_pow

theorem value_unitPower (keeps : n ≠ 1 → Magnitude.KeepsOne n) :
    ((unitPower o unit n writable).expression.value ({} : Registry).quantity).value = 1 := by
  unfold UnitFactor.expression unitPower
  dsimp only
  by_cases one : n = 1
  · rw [if_pos one, raised, Expression.value, unit.quantity]
  · rw [if_neg one, raised, Expression.value, Expression.value, unit.quantity,
      Whole.Numeral.value_signed]
    exact Magnitude.powerBy_one (keeps one)

end

/-! ## Symbols as unit texts -/

/-- A text spells an expression of known units that denotes one unit of a dimension. -/
structure SymbolText (o : Options) (d : Dimension) (divided : Bool) (s : List Char)
    (e : Expression) : Prop where
  isUnitText : UnitText o divided s e
  known : ∀ name ∈ e.names, ∃ q, ({} : Registry).find? name = some q
  dimension : (e.value ({} : Registry).quantity).dimension = d
  value : d.KeepsOne → (e.value ({} : Registry).quantity).value = 1

/-- The labels of the slots of SI base dimensions are the names of their units. -/
theorem isUnitName_label : ∀ i : Fin Dimension.size, i.val < Dimension.baseCount →
    IsUnitName (label [] i) (.single i) := by
  decide +kernel

theorem isUnitName_of_mem_slots (base : d.IsBase) (i : {i // i ∈ d.slots}) :
    IsUnitName (label [] i.1) (.single i.1) :=
  isUnitName_label i.1 (Dimension.lt_baseCount_of_mem_slots base i.2)

/-- The factor of a slot in a product of powers. -/
def slotFactor (o : Options) (base : d.IsBase) (writable : d.isWritable = true)
    (i : {i // i ∈ d.slots}) : UnitFactor o.escape :=
  unitPower o (isUnitName_of_mem_slots base i) (d.exponent i.1)
    (Dimension.isWritable_iff.1 writable i.1)

section

variable (o : Options) (base : d.IsBase) (writable : d.isWritable = true)

theorem known_slotFactor (i : {i // i ∈ d.slots}) :
    ∀ name ∈ (slotFactor o base writable i).expression.names,
      ∃ q, ({} : Registry).find? name = some q := by
  intro name member
  rw [slotFactor, names_unitPower, List.mem_singleton] at member
  exact member ▸ (isUnitName_of_mem_slots base i).known

theorem value_slotFactor (keeps : d.KeepsOne) (i : {i // i ∈ d.slots}) :
    ((slotFactor o base writable i).expression.value ({} : Registry).quantity).value = 1 :=
  value_unitPower _ _ (keeps i.1 (Dimension.mem_slots_iff.1 i.2))

theorem map_text_slotFactor :
    (d.slots.attach.map (slotFactor o base writable)).map UnitFactor.text =
      (productTerms (label []) d).map String.toList := by
  have texts (i : {i // i ∈ d.slots}) : (slotFactor o base writable i).text =
      (label [] i.1 ++ exponentText (d.exponent i.1)).toList := text_unitPower _ _
  have forget := List.attach_map_val (l := d.slots)
    (f := fun i => (label [] i ++ exponentText (d.exponent i)).toList)
  rw [productTerms, List.map_map, List.map_map]
  exact (List.map_congr_left fun i _ => texts i).trans forget

theorem sum_slotFactor (j : Fin Dimension.size) :
    ((d.slots.attach.map (slotFactor o base writable)).map fun f =>
      (f.expression.value ({} : Registry).quantity).dimension.exponent j).sum = d.exponent j := by
  have terms (i : {i // i ∈ d.slots}) :
      ((slotFactor o base writable i).expression.value ({} : Registry).quantity).dimension =
        .single i.1 (d.exponent i.1) := dimension_unitPower _ _
  rw [← d.sum_slots j, List.map_map]
  refine congrArg List.sum ((List.map_congr_left fun i _ => ?_).trans List.attach_map_val)
  exact congrArg (Dimension.exponent · j) (terms i)

end

/-- The product of powers of a dimension is a unit text. -/
theorem exists_symbolText_product (o : Options) (nonzero : d ≠ 1) (base : d.IsBase)
    (writable : d.isWritable = true) :
    ∃ e, SymbolText o d false (" ".intercalate (productTerms (label []) d)).toList e := by
  obtain ⟨i, is, slots⟩ : ∃ i is, d.slots.attach = i :: is := by
    refine List.exists_cons_of_ne_nil fun empty => nonzero (Dimension.ext fun j => ?_)
    rw [Dimension.exponent_one]
    by_contra exponent
    exact List.ne_nil_of_mem (Dimension.mem_slots_iff.2 exponent) (List.attach_eq_nil_iff.1 empty)
  have texts := map_text_slotFactor o base writable
  have sum := sum_slotFactor o base writable
  rw [slots] at texts sum
  refine ⟨UnitText.productOf (slotFactor o base writable i).expression
    (is.map (slotFactor o base writable)), ?_, fun name member => ?_, ?_, fun keeps => ?_⟩
  · rw [String.toList_intercalate, ← texts]
    exact UnitText.of_factors _ _
  · rcases (names_productOf _).1 member with first | ⟨f, rest, member⟩
    · exact known_slotFactor o base writable i name first
    · obtain ⟨i', -, rfl⟩ := List.mem_map.1 rest
      exact known_slotFactor o base writable i' name member
  · ext j
    rw [exponent_value_productOf, ← sum j, List.map_cons, List.map_cons, List.sum_cons]
  · refine value_value_productOf _ (value_slotFactor o base writable keeps i) fun f member => ?_
    obtain ⟨i', -, rfl⟩ := List.mem_map.1 member
    exact value_slotFactor o base writable keeps i'

/-! ## Names -/

/-- The display names that units have, without the two that are quotients. -/
def unitNames : List (Dimension × String) := predefinedNames.take 24

theorem isUnitName_of_mem : ∀ entry ∈ unitNames, IsUnitName entry.2 entry.1 := by
  decide +kernel

/-- A display name is the name of a unit, or a quotient of two of them that does not start with the
kilogram. -/
inductive DisplayName : Dimension → List Char → Prop where
  | unit {d : Dimension} {name : String} (entry : (d, name) ∈ unitNames) : DisplayName d name.toList
  | quotient {d d' : Dimension} {name name' : String} (entry : (d, name) ∈ unitNames)
    (entry' : (d', name') ∈ unitNames) (light : d ≠ .mass) :
    DisplayName (d / d') (name.toList ++ '/' :: name'.toList)

theorem mem_predefinedNames_of_isBase {entry : Dimension × String} (h : entry ∈ predefinedNames)
    (base : entry.1.IsBase) :
    entry ∈ unitNames ∨ entry = (.length / .timeInterval, "m/s") ∨
      entry = (.electricPotential / .timeInterval, "V/s") := by
  rw [← List.take_append_drop 24 predefinedNames, List.mem_append] at h
  refine h.imp_right fun h => ?_
  rcases List.mem_cons.1 h with speed | h
  · exact .inl speed
  · rcases List.mem_cons.1 h with rise | h
    · exact .inr rise
    · obtain ⟨slot, inside, rfl⟩ := List.mem_map.1 h
      exact absurd base (Dimension.not_isBase_extension (List.mem_range.1 inside))

/-- The names that a fresh registry has for dimensions without extension units. -/
theorem displayName_of_name? {name : String} (h : ({} : Registry).name? d = some name)
    (base : d.IsBase) : DisplayName d name.toList := by
  obtain ⟨⟨d', name⟩, found, rfl⟩ := Option.map_eq_some_iff.1 h
  have same : d' = d := of_decide_eq_true
    (List.find?_some (p := fun entry : Dimension × String => decide (entry.1 = d)) found)
  subst same
  rcases mem_predefinedNames_of_isBase (List.mem_of_find?_eq_some found) base with
    entry | speed | rise
  · exact .unit entry
  · cases speed
    have text : "m/s".toList = "m".toList ++ '/' :: "s".toList := by decide +kernel
    exact text ▸ .quotient (by decide +kernel) (by decide +kernel) (by decide +kernel)
  · cases rise
    have text : "V/s".toList = "V".toList ++ '/' :: "s".toList := by decide +kernel
    exact text ▸ .quotient (by decide +kernel) (by decide +kernel) (by decide +kernel)

theorem symbolText_unit {name : String} (h : IsUnitName name d) :
    SymbolText o d false name.toList (.unit name) where
  isUnitText := .word h.word
  known := by
    intro name' member
    rw [Expression.names, List.mem_singleton] at member
    exact member ▸ h.known
  dimension := by rw [Expression.value, h.quantity]
  value _ := by rw [Expression.value, h.quantity]

theorem one_div_one : (1 / 1 : Float) = 1 := by decide +kernel

theorem symbolText_quotient {name name' : String} {d' : Dimension} (h : IsUnitName name d)
    (h' : IsUnitName name' d') :
    SymbolText o (d / d') true (name.toList ++ '/' :: name'.toList)
      (.quotient (.unit name) (.unit name')) where
  isUnitText := .over_word h.word h'.word
  known := by
    intro other member
    rcases List.mem_cons.1 member with rfl | member
    · exact h.known
    · exact List.mem_singleton.1 member ▸ h'.known
  dimension := by
    rw [Expression.value, Expression.value, Expression.value, h.quantity,
      h'.quantity]
    rfl
  value _ := by
    rw [Expression.value, Expression.value, Expression.value, h.quantity,
      h'.quantity]
    exact one_div_one

/-- The display name of a dimension is a unit text. -/
theorem exists_symbolText_name (o : Options) (h : DisplayName d s) :
    ∃ divided e, SymbolText o d divided s e := by
  cases h with
  | unit entry => exact ⟨_, _, symbolText_unit (isUnitName_of_mem _ entry)⟩
  | quotient entry entry' =>
    exact ⟨_, _, symbolText_quotient (isUnitName_of_mem _ entry) (isUnitName_of_mem _ entry')⟩

/-! ## Symbols -/

/-- A parser with a fresh registry. -/
def Parser.fresh (o : Options) : Parser := { options := o }

theorem exists_symbolText (o : Options) (preferName : Bool) (nonzero : d ≠ 1) (base : d.IsBase)
    (writable : d.isWritable = true) :
    ∃ symbol divided e, ({} : Registry).symbol d preferName = .ok symbol ∧
      SymbolText o d divided symbol.toList e := by
  rcases ({} : Registry).symbol_cases d preferName with ⟨name, named, printed⟩ | product
  · obtain ⟨divided, e, text⟩ := exists_symbolText_name o (displayName_of_name? named base)
    exact ⟨name, divided, e, printed, text⟩
  · obtain ⟨e, text⟩ := exists_symbolText_product o nonzero base writable
    have printed := product.trans (baseSymbol_run [] d)
    rw [if_pos writable] at printed
    exact ⟨_, _, e, printed, text⟩

theorem SymbolText.readsAs {divided : Bool} {symbol : String}
    (h : SymbolText o d divided symbol.toList e) :
    (Parser.fresh o).ReadsAs symbol 1 (e.value ({} : Registry).quantity) := by
  have reads := Parser.readsAs_unitText (p := .fresh o) h.isUnitText h.known
  rwa [String.ofList_toList] at reads

/-- A parser with a fresh registry reads the symbol of a dimension without extension units as a
quantity of that dimension, and defines nothing; it is one unit, where one keeps its value in the
powers that the symbol has. -/
theorem Parser.parse_symbol (o : Options) (d : Dimension) (preferName : Bool) (nonzero : d ≠ 1)
    (base : d.IsBase) (writable : d.isWritable = true) :
    ∃ symbol q, ({} : Registry).symbol d preferName = .ok symbol ∧
      ((Parser.fresh o).parse symbol).result = .ok q ∧
      ((Parser.fresh o).parse symbol).parser.registry = {} ∧
      q.dimension = d ∧ (d.KeepsOne → q.value = 1) := by
  obtain ⟨symbol, divided, e, printed, text⟩ := exists_symbolText o preferName nonzero base writable
  have reads := text.readsAs
  refine ⟨symbol, _, printed, ?_, reads.registry, text.dimension, text.value⟩
  rw [reads.result, Quantity.scale_one]

/-- The symbol of a mole meter is `m mol`, and is read as one of it. -/
theorem Parser.parse_symbol_m_mol :
    ∃ q, ((Parser.fresh default).parse "m mol").result = .ok q ∧
      q = ⟨.length * .amountOfSubstance, 1⟩ := by
  have exponents : ∀ i, (Dimension.length * .amountOfSubstance).exponent i ≠ 0 →
      (Dimension.length * .amountOfSubstance).exponent i = 1 := by decide +kernel
  have keeps : (Dimension.length * .amountOfSubstance).KeepsOne :=
    fun i nonzero one => absurd (exponents i nonzero) one
  obtain ⟨symbol, q, printed, parsed, -, dimension, value⟩ :=
    Parser.parse_symbol default (.length * .amountOfSubstance) false (by decide +kernel)
      (by decide +kernel) (by decide +kernel)
  have symbol_eq : ({} : Registry).symbol (.length * .amountOfSubstance) = .ok "m mol" := by
    decide +kernel
  cases printed.symm.trans symbol_eq
  obtain ⟨_, _⟩ := q
  exact ⟨_, parsed, congrArg₂ Quantity.mk dimension (value keeps)⟩

end Metrology
