import Metrology.Expression
import Metrology.Proofs.Registry.ExtensionUnits

/-!
# The order of extension units

A permutation of the extension slots acts on dimensions (`Dimension.permute`) and on quantities, and
commutes with the value of every expression (`Expression.value_permute`).  Two extension tables that
hold the same names in different orders are related by such a permutation (`exists_permutes`), and
registries with these tables answer every request alike, up to the permutation
(`Registry.Matches.find?_eq`, `Registry.Matches.unit`).
-/

namespace Metrology

/-- A permutation of the extension slots. -/
abbrev SlotPerm := Equiv.Perm (Fin Dimension.extensionCount)

/-! ## Permuted dimensions -/

namespace Dimension

variable {π : SlotPerm} {d e : Dimension} {n : Int}

/-- The place of an exponent when the extension slots are permuted. -/
def movedSlot (π : SlotPerm) : Fin size → Fin size :=
  Fin.addCases (Fin.castAdd extensionCount) fun slot => extensionSlot (π slot)

/-- The dimension with its extension exponents permuted: the exponent of a slot goes to the slot
that the permutation takes it to. -/
def permute (π : SlotPerm) (d : Dimension) : Dimension :=
  ofFn fun i => d.exponent (movedSlot π.symm i)

theorem permute_one : (1 : Dimension).permute π = 1 := by
  ext i
  rw [permute, exponent_ofFn, exponent_one, exponent_one]

theorem permute_mul : (d * e).permute π = d.permute π * e.permute π := by
  ext i
  simp only [permute, exponent_ofFn, exponent_mul]

theorem permute_div : (d / e).permute π = d.permute π / e.permute π := by
  ext i
  simp only [permute, exponent_ofFn, exponent_div]

theorem permute_pow : (d ^ n).permute π = d.permute π ^ n := by
  ext i
  simp only [permute, exponent_ofFn, exponent_pow]

theorem movedSlot_castAdd (i : Fin baseCount) :
    movedSlot π (Fin.castAdd extensionCount i) = Fin.castAdd extensionCount i :=
  Fin.addCases_left i

theorem movedSlot_extensionSlot (slot : Fin extensionCount) :
    movedSlot π (extensionSlot slot) = extensionSlot (π slot) :=
  Fin.addCases_right slot

/-- A dimension over the SI base dimensions stays as it is. -/
theorem permute_of_isBase (base : d.IsBase) : d.permute π = d := by
  have free (slot : Fin extensionCount) : d.exponent (extensionSlot slot) = 0 :=
    base _ (Nat.le_add_right _ _)
  ext i
  rw [permute, exponent_ofFn]
  induction i using Fin.addCases with
  | left i => rw [movedSlot_castAdd]
  | right slot => rw [← extensionSlot, movedSlot_extensionSlot, free, free]

theorem permute_extension (slot : Fin extensionCount) :
    (extension slot).permute π = extension (π slot) := by
  ext i
  rw [permute, exponent_ofFn, exponent_extension, exponent_extension]
  induction i using Fin.addCases with
  | left i =>
    have := i.isLt
    rw [movedSlot_castAdd, Fin.val_castAdd, if_neg (by omega), if_neg (by omega)]
  | right slot' =>
    rw [← extensionSlot, movedSlot_extensionSlot, extensionSlot, extensionSlot, Fin.val_natAdd,
      Fin.val_natAdd]
    refine if_congr ?_ rfl rfl
    rw [Nat.add_left_cancel_iff, Nat.add_left_cancel_iff, Fin.val_inj, Fin.val_inj]
    exact Equiv.symm_apply_eq π

end Dimension

/-! ## Permuted quantities -/

namespace Quantity

variable {π : SlotPerm} {a b : Quantity}

/-- The quantity with its dimension permuted. -/
def permute (π : SlotPerm) (q : Quantity) : Quantity := ⟨q.dimension.permute π, q.value⟩

theorem permute_one : Quantity.one.permute π = Quantity.one :=
  congrArg (Quantity.mk · 1) Dimension.permute_one

theorem mul_eq : a * b = ⟨a.dimension * b.dimension, a.value * b.value⟩ := rfl

theorem div_eq : a / b = ⟨a.dimension / b.dimension, a.value / b.value⟩ := rfl

theorem permute_mul : (a * b).permute π = a.permute π * b.permute π := by
  rw [mul_eq, mul_eq, permute, permute, permute, Dimension.permute_mul]

theorem permute_div : (a / b).permute π = a.permute π / b.permute π := by
  rw [div_eq, div_eq, permute, permute, permute, Dimension.permute_div]

theorem permute_scale (x : Float) : (a.scale x).permute π = (a.permute π).scale x := by
  rw [scale, scale, permute, permute]

theorem permute_power {n : Int} : (a.power n).permute π = (a.permute π).power n := by
  rw [power, power, powerBy, powerBy, permute, permute, Dimension.permute_pow]

end Quantity

/-- The value of an expression moves with its units. -/
theorem Expression.value_permute (π : SlotPerm) (unitOf : String → Quantity) (e : Expression) :
    e.value (fun name => (unitOf name).permute π) = (e.value unitOf).permute π := by
  induction e with
  | one => exact Quantity.permute_one.symm
  | unit name => rfl
  | scaled x e ih => rw [value, ih, value, Quantity.permute_scale]
  | power e n ih => rw [value, ih, value, Quantity.permute_power]
  | product e f ih ih' => rw [value, ih, ih', value, Quantity.permute_mul]
  | quotient e f ih ih' => rw [value, ih, ih', value, Quantity.permute_div]

namespace Registry

variable {π : SlotPerm} {t t' : List String} {name : String} {extend : Bool} {r r' : Registry}

/-! ## Permuted tables -/

/-- The permutation takes the slot of each name of the table `t` to the slot of that name in the
table `t'`, and leaves the free slots where they are. -/
structure Permutes (π : SlotPerm) (t t' : List String) : Prop where
  length_eq : t'.length = t.length
  entry : ∀ (slot : Fin Dimension.extensionCount) name, t[slot.val]? = some name →
    t'[(π slot).val]? = some name
  free : ∀ slot : Fin Dimension.extensionCount, t.length ≤ slot → π slot = slot

namespace Permutes

theorem lt_length_iff (h : Permutes π t t') (slot : Fin Dimension.extensionCount) :
    (π slot).val < t.length ↔ slot.val < t.length := by
  constructor
  · intro inside
    by_contra outside
    rw [h.free slot (Nat.le_of_not_lt outside)] at inside
    exact outside inside
  · intro inside
    have entry := h.entry slot _ (List.getElem?_eq_getElem inside)
    rw [← h.length_eq]
    exact (List.getElem?_eq_some_iff.1 entry).1

/-- The tables hold the same names. -/
theorem subset (h : Permutes π t t') (within : t.length ≤ capacity) : t' ⊆ t := by
  intro name member
  obtain ⟨slot', entry'⟩ := List.mem_iff_getElem?.1 member
  have inside' : slot' < t.length := h.length_eq ▸ (List.getElem?_eq_some_iff.1 entry').1
  let slot := π.symm ⟨slot', Nat.lt_of_lt_of_le inside' within⟩
  have moved : (π slot).val = slot' := congrArg Fin.val (π.apply_symm_apply _)
  have inside : slot.val < t.length := (h.lt_length_iff slot).1 (moved ▸ inside')
  have entry := h.entry slot _ (List.getElem?_eq_getElem inside)
  rw [moved, entry'] at entry
  exact Option.some.inj entry ▸ List.getElem_mem inside

/-- A name that is new in both tables goes into the same free slot. -/
theorem append (h : Permutes π t t') (name : String) : Permutes π (t ++ [name]) (t' ++ [name]) := by
  refine ⟨?_, fun slot other entry => ?_, fun slot outside => h.free slot ?_⟩
  · rw [List.length_append, List.length_append, h.length_eq]
  · rw [List.getElem?_append] at entry ⊢
    rw [h.length_eq]
    by_cases inside : slot.val < t.length
    · rw [if_pos inside] at entry
      rw [if_pos ((h.lt_length_iff slot).2 inside)]
      exact h.entry slot other entry
    · rw [if_neg inside] at entry
      rwa [if_neg ((h.lt_length_iff slot).not.2 inside), h.free slot (Nat.le_of_not_lt inside)]
  · rw [List.length_append] at outside
    exact Nat.le_of_succ_le outside

end Permutes

/-- The slot in the table `t'` of the name that a slot has in the table `t`.  The free slots are
left where they are. -/
def slotIn (t t' : List String) (slot : Nat) : Nat :=
  if h : slot < t.length then t'.idxOf t[slot] else slot

theorem slotIn_of_getElem? {slot : Nat} (entry : t[slot]? = some name) :
    slotIn t t' slot = t'.idxOf name := by
  obtain ⟨inside, rfl⟩ := List.getElem?_eq_some_iff.1 entry
  exact dif_pos inside

theorem slotIn_of_free {slot : Nat} (outside : t.length ≤ slot) : slotIn t t' slot = slot :=
  dif_neg (Nat.not_lt.2 outside)

theorem slotIn_lt_length {slot : Nat} (same : t.Perm t') (inside : slot < t.length) :
    slotIn t t' slot < t.length := by
  rw [slotIn_of_getElem? (List.getElem?_eq_getElem inside), same.length_eq]
  exact List.idxOf_lt_length_iff.2 (same.subset (List.getElem_mem inside))

theorem slotIn_injective (same : t.Perm t') (nodup : t.Nodup) :
    Function.Injective (slotIn t t') := by
  intro slot slot' moved
  rcases Nat.lt_or_ge slot t.length with inside | outside <;>
    rcases Nat.lt_or_ge slot' t.length with inside' | outside'
  · rw [slotIn_of_getElem? (List.getElem?_eq_getElem inside),
      slotIn_of_getElem? (List.getElem?_eq_getElem inside')] at moved
    have member := same.subset (List.getElem_mem inside)
    exact (nodup.getElem_inj_iff).1 ((List.idxOf_inj member).1 moved)
  · have := slotIn_lt_length same inside
    rw [moved, slotIn_of_free outside'] at this
    omega
  · have := slotIn_lt_length same inside'
    rw [← moved, slotIn_of_free outside] at this
    omega
  · rwa [slotIn_of_free outside, slotIn_of_free outside'] at moved

/-- Tables with the same names are related by a permutation of the slots. -/
theorem exists_permutes (same : t.Perm t') (nodup : t.Nodup) (within : t.length ≤ capacity) :
    ∃ π, Permutes π t t' := by
  have inside (slot : Fin Dimension.extensionCount) :
      slotIn t t' slot < Dimension.extensionCount := by
    by_cases listed : slot.val < t.length
    · exact Nat.lt_of_lt_of_le (slotIn_lt_length same listed) within
    · rw [slotIn_of_free (Nat.le_of_not_lt listed)]
      exact slot.isLt
  let f (slot : Fin Dimension.extensionCount) : Fin Dimension.extensionCount :=
    ⟨slotIn t t' slot, inside slot⟩
  have injective : Function.Injective f := fun slot slot' moved =>
    Fin.ext (slotIn_injective same nodup (congrArg Fin.val moved))
  refine ⟨.ofBijective f (Finite.injective_iff_bijective.1 injective), same.length_eq.symm, ?_, ?_⟩
  · intro slot name entry
    have member : name ∈ t' := same.subset (List.mem_of_getElem? entry)
    rw [Equiv.ofBijective_apply]
    change t'[slotIn t t' slot]? = some name
    rw [slotIn_of_getElem? entry]
    exact List.getElem?_idxOf member
  · intro slot outside
    exact Fin.ext (slotIn_of_free outside)

/-! ## Requests -/

/-- Two registries have the same units, in slots that the permutation takes to each other. -/
structure Matches (π : SlotPerm) (r r' : Registry) : Prop where
  lists : r.Lists r.extensions
  lists' : r'.Lists r'.extensions
  permutes : Permutes π r.extensions r'.extensions

namespace Matches

/-- The unit of a name is the same in both registries, up to the permutation. -/
theorem find?_eq (h : Matches π r r') (name : String) :
    r'.find? name = (r.find? name).map (Quantity.permute π) := by
  cases predefined : predefined? name with
  | some q =>
    rw [find?_of_predefined predefined, find?_of_predefined predefined, Option.map_some]
    exact congrArg (fun d => some (Quantity.mk d q.value))
      (Dimension.permute_of_isBase (isBase_of_predefined predefined)).symm
  | none =>
    cases entry : r.slot? name with
    | some slot =>
      have listed := (h.lists.slot?_eq_some_iff name slot).1 entry
      have inside := h.lists.slot_lt listed
      have listed' := h.permutes.entry ⟨slot, inside⟩ name listed
      rw [h.lists.find?_of_getElem? listed, h.lists'.find?_of_getElem? listed', Option.map_some]
      exact congrArg (fun d => some (Quantity.mk d 1))
        (Dimension.permute_extension ⟨slot, inside⟩).symm
    | none =>
      have absent := h.lists.slot?_eq_none_iff.1 entry
      have absent' : name ∉ r'.extensions :=
        fun member => absent (h.permutes.subset h.lists.length_le member)
      rw [h.lists.find?_eq_none_iff.2 ⟨predefined, absent⟩,
        h.lists'.find?_eq_none_iff.2 ⟨predefined, absent'⟩]
      rfl

/-- A new unit gets the same slot in both registries. -/
theorem define (h : Matches π r r') (new : Appends r.extensions name extend)
    (new' : Appends r'.extensions name extend) : Matches π (r.define name) (r'.define name) :=
  ⟨h.lists.define new, h.lists'.define new', h.permutes.append name⟩

/-- A request is answered alike, and leaves registries with the same units. -/
theorem unit (h : Matches π r r') (name : String) (extend : Bool) :
    (r'.unit name extend).result = (r.unit name extend).result.map (Quantity.permute π) ∧
      (r'.unit name extend).log = (r.unit name extend).log ∧
      Matches π (r.unit name extend).registry (r'.unit name extend).registry := by
  have known := h.find?_eq name
  have length := h.permutes.length_eq
  rcases r.unit_cases name extend with
    ⟨q, found, e⟩ | ⟨fresh, refused, e⟩ | ⟨fresh, wanted, named, vacant, e⟩ |
    ⟨fresh, wanted, named, full, e⟩
  · rw [found] at known
    rw [e, unit_of_find? known]
    exact ⟨rfl, rfl, h⟩
  · rw [fresh] at known
    rw [e, unit_of_refused known refused]
    exact ⟨rfl, rfl, h⟩
  · rw [fresh] at known
    have vacant' : r'.extensions.length < capacity := length ▸ vacant
    obtain ⟨not_predefined, absent⟩ := h.lists.find?_eq_none_iff.1 fresh
    obtain ⟨-, absent'⟩ := h.lists'.find?_eq_none_iff.1 known
    have slot : π ⟨r.extensions.length, vacant⟩ = ⟨r.extensions.length, vacant⟩ :=
      h.permutes.free _ (Nat.le_refl _)
    rw [e, unit_of_vacant known wanted named vacant', length]
    refine ⟨?_, rfl, ?_⟩
    · have moved := Dimension.permute_extension (π := π) ⟨r.extensions.length, vacant⟩
      rw [slot] at moved
      exact congrArg (fun d => Except.ok (Quantity.mk d 1)) moved.symm
    · exact h.define ⟨not_predefined, absent, wanted, named, vacant⟩
        ⟨not_predefined, absent', wanted, named, vacant'⟩
  · rw [fresh] at known
    rw [e, unit_of_full known wanted named (by rwa [length])]
    exact ⟨rfl, rfl, h⟩

end Matches

end Registry

end Metrology
