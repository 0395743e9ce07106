import Mathlib
import Metrology.Registry

/-!
# Requests for units

What `Registry.unit` answers and what it leaves behind, in four cases (`unit_cases`).  A unit that
a name has once, it keeps (`find?_unit`), and after a request that was granted the name has the unit
of the answer (`find?_unit_self`).  `Registry.requests` requests the units of several names in
order, up to the first that fails.
-/

namespace Metrology

namespace Registry

variable {r : Registry} {name other : String} {extend : Bool} {q : Quantity}

/-! ## New units -/

theorem slot?_define_self : (r.define name).slot? name = some r.extensions.length := by
  simp [slot?, define]

theorem slot?_define_of_ne (h : other ≠ name) : (r.define name).slot? other = r.slot? other := by
  simp [slot?, define, h.symm]

theorem find?_of_predefined (h : predefined? name = some q) : r.find? name = some q := by
  rw [find?, h]

theorem find?_of_not_predefined (h : predefined? name = none) :
    r.find? name = (r.slot? name).map extensionUnit := by
  rw [find?, h]

theorem find?_eq_none_iff :
    r.find? name = none ↔ predefined? name = none ∧ r.slot? name = none := by
  unfold find?
  split <;> simp_all

theorem find?_define_self (h : predefined? name = none) :
    (r.define name).find? name = some (extensionUnit r.extensions.length) := by
  rw [find?_of_not_predefined h, slot?_define_self, Option.map_some]

theorem find?_define_of_ne (h : other ≠ name) : (r.define name).find? other = r.find? other := by
  unfold find?
  rw [slot?_define_of_ne h]

/-! ## Single requests -/

theorem unit_of_find? (h : r.find? name = some q) :
    r.unit name extend = { result := .ok q, registry := r } := by
  rw [unit, h]

theorem unit_of_refused (h : r.find? name = none) (refused : extend = false ∨ name = "") :
    r.unit name extend = { result := .error (.undefined name), registry := r } := by
  have : (!extend || name.isEmpty) = true := by
    rcases refused with rfl | rfl <;> simp
  simp only [unit, h, this, if_true]

theorem unit_of_vacant (h : r.find? name = none) (wanted : extend = true) (named : name ≠ "")
    (vacant : r.extensions.length < capacity) :
    r.unit name extend =
      { result := .ok (extensionUnit r.extensions.length)
        registry := r.define name
        log := [definedRecord name r.extensions.length] } := by
  have : (!extend || name.isEmpty) = false := by simp [wanted, named]
  simp only [unit, h, this, if_pos vacant, Bool.false_eq_true, if_false]

theorem unit_of_full (h : r.find? name = none) (wanted : extend = true) (named : name ≠ "")
    (full : ¬ r.extensions.length < capacity) :
    r.unit name extend =
      { result := .error (.tableFull name), registry := r, log := [tableFullRecord name] } := by
  have : (!extend || name.isEmpty) = false := by simp [wanted, named]
  simp only [unit, h, this, if_neg full, Bool.false_eq_true, if_false]

/-- The four things that can become of a request. -/
theorem unit_cases (r : Registry) (name : String) (extend : Bool) :
    (∃ q, r.find? name = some q ∧ r.unit name extend = { result := .ok q, registry := r }) ∨
    (r.find? name = none ∧ (extend = false ∨ name = "") ∧
      r.unit name extend = { result := .error (.undefined name), registry := r }) ∨
    (r.find? name = none ∧ extend = true ∧ name ≠ "" ∧ r.extensions.length < capacity ∧
      r.unit name extend =
        { result := .ok (extensionUnit r.extensions.length)
          registry := r.define name
          log := [definedRecord name r.extensions.length] }) ∨
    (r.find? name = none ∧ extend = true ∧ name ≠ "" ∧ ¬ r.extensions.length < capacity ∧
      r.unit name extend =
        { result := .error (.tableFull name), registry := r, log := [tableFullRecord name] }) := by
  cases h : r.find? name with
  | none =>
    by_cases refused : extend = false ∨ name = ""
    · exact .inr (.inl ⟨rfl, refused, unit_of_refused h refused⟩)
    · rw [not_or, Bool.not_eq_false] at refused
      obtain ⟨wanted, named⟩ := refused
      by_cases vacant : r.extensions.length < capacity
      · exact .inr (.inr (.inl ⟨rfl, wanted, named, vacant, unit_of_vacant h wanted named vacant⟩))
      · exact .inr (.inr (.inr ⟨rfl, wanted, named, vacant, unit_of_full h wanted named vacant⟩))
  | some q => exact .inl ⟨q, rfl, unit_of_find? h⟩

/-- A failed request leaves the registry as it was. -/
theorem registry_unit_of_error {fault : UnitFault}
    (h : (r.unit name extend).result = .error fault) : (r.unit name extend).registry = r := by
  rcases r.unit_cases name extend with ⟨q, _, e⟩ | ⟨_, _, e⟩ | ⟨_, _, _, _, e⟩ | ⟨_, _, _, _, e⟩ <;>
    rw [e] at h ⊢
  cases h

/-- What a name has, it keeps. -/
theorem find?_unit (h : r.find? other = some q) :
    (r.unit name extend).registry.find? other = some q := by
  rcases r.unit_cases name extend with
    ⟨_, _, e⟩ | ⟨_, _, e⟩ | ⟨unknown, _, _, _, e⟩ | ⟨_, _, _, _, e⟩ <;> rw [e]
  · exact h
  · exact h
  · have : other ≠ name := by
      rintro rfl
      rw [unknown] at h
      cases h
    rw [find?_define_of_ne this, h]
  · exact h

/-- After a request that was granted the name has the unit of the answer. -/
theorem find?_unit_self (h : (r.unit name extend).result = .ok q) :
    (r.unit name extend).registry.find? name = some q := by
  rcases r.unit_cases name extend with
    ⟨_, known, e⟩ | ⟨_, _, e⟩ | ⟨unknown, _, _, _, e⟩ | ⟨_, _, _, _, e⟩ <;> rw [e] at h ⊢
  · rw [known, Except.ok.inj h]
  · exact absurd h (by simp)
  · rw [find?_define_self (find?_eq_none_iff.1 unknown).1, Except.ok.inj h]
  · exact absurd h (by simp)

/-! ## Several requests -/

/-- Requests the units of several names in order: the first fault, after which nothing is
requested, and the registry that is left behind. -/
def requests (extend : Bool) (r : Registry) : List String → Option UnitFault × Registry
  | [] => (none, r)
  | name :: names =>
    match (r.unit name extend).result with
    | .error fault => (some fault, (r.unit name extend).registry)
    | .ok _ => requests extend (r.unit name extend).registry names

theorem requests_append (extend : Bool) (r : Registry) (ns ms : List String) :
    r.requests extend (ns ++ ms) =
      match r.requests extend ns with
      | (some fault, r') => (some fault, r')
      | (none, r') => r'.requests extend ms := by
  induction ns generalizing r with
  | nil => rfl
  | cons name ns ih =>
    rw [List.cons_append, requests, requests]
    cases (r.unit name extend).result with
    | error fault => rfl
    | ok q => exact ih _

theorem find?_requests (h : r.find? other = some q) (names : List String) :
    (r.requests extend names).2.find? other = some q := by
  induction names generalizing r with
  | nil => exact h
  | cons name names ih =>
    rw [requests]
    cases (r.unit name extend).result with
    | error fault => exact find?_unit h
    | ok q => exact ih (find?_unit h)

/-- When all requests are granted, each of the names has a unit. -/
theorem find?_requests_of_mem {names : List String}
    (granted : (r.requests extend names).1 = none) (h : name ∈ names) :
    ∃ q, (r.requests extend names).2.find? name = some q := by
  induction names generalizing r with
  | nil => cases h
  | cons first names ih =>
    rw [requests] at granted ⊢
    cases answer : (r.unit first extend).result with
    | error fault => simp [answer] at granted
    | ok q =>
      rw [answer] at granted
      rcases List.mem_cons.1 h with rfl | h
      · exact ⟨q, find?_requests (find?_unit_self answer) names⟩
      · exact ih granted h

end Registry

end Metrology
