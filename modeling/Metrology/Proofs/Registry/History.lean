import Mathlib
import Metrology.Proofs.Registry.Requests

/-!
# Histories of a registry

After any history of operations on a fresh registry, the extension table holds the first distinct
names that were wanted since the last reset, as far as there are slots (`table`), and the index
agrees with it: `lists_run`, an invariant that every operation keeps (`Lists.apply`).  What a
request answers, and whether it defines a unit, depends on this table alone
(`requests_after_history`).
-/

namespace Metrology

namespace Registry

/-! ## Operations -/

/-- What is done with a registry. -/
inductive Operation where
  | unit (name : String) (extend : Bool)
  | defineName (d : Dimension) (name : String)
  | reset
  | hasUnit (name : String)
  | hasName (d : Dimension)
  | nameOf (d : Dimension)
  | symbol (d : Dimension) (preferName : Bool)
  | prefixFactor (code : String)
  | extensions

namespace Operation

/-- The registry after an operation.  Questions leave it as it is. -/
def apply (r : Registry) : Operation → Registry
  | .unit name extend => (r.unit name extend).registry
  | .defineName d name => r.defineName d name
  | .reset => r.reset
  | _ => r

/-- Whether the operation is no reset. -/
def keeps : Operation → Bool
  | .reset => false
  | _ => true

/-- The name that an operation wants for an extension unit: a request wants its name if it may
extend the table, and the name is not empty and has no predefined unit. -/
def wanted? : Operation → Option String
  | .unit name true => if name ≠ "" ∧ predefined? name = none then some name else none
  | _ => none

end Operation

/-- The registry after a history. -/
def run (history : List Operation) : Registry := history.foldl Operation.apply {}

/-- The names that are wanted since the last reset, in order and with repetitions. -/
def wanted (history : List Operation) : List String :=
  (history.rtakeWhile Operation.keeps).filterMap Operation.wanted?

/-- The extension table after a history: the first distinct names wanted since the last reset, one
for each slot at most. -/
def table (history : List Operation) : List String := (wanted history).eraseDups.take capacity

/-! ## The table, operation by operation -/

variable {r : Registry} {t : List String} {history : List Operation} {op : Operation}
  {name : String} {extend : Bool}

theorem run_append_singleton : run (history ++ [op]) = op.apply (run history) := by
  rw [run, List.foldl_append]
  rfl

theorem wanted_append_singleton (h : op.keeps = true) :
    wanted (history ++ [op]) = wanted history ++ op.wanted?.toList := by
  rw [wanted, List.rtakeWhile_concat_pos _ _ _ h, List.filterMap_append]
  cases h : op.wanted? <;> simp [wanted, h]

theorem table_reset : table (history ++ [.reset]) = [] := by
  rw [table, wanted, List.rtakeWhile_concat_neg _ _ _ (by simp [Operation.keeps])]
  rfl

theorem table_of_not_wanted (h : op.keeps = true) (h' : op.wanted? = none) :
    table (history ++ [op]) = table history := by
  rw [table, wanted_append_singleton h, h', Option.toList_none, List.append_nil, table]

theorem eraseDups_append_singleton {α : Type} [BEq α] [LawfulBEq α] (as : List α) (a : α) :
    (as ++ [a]).eraseDups = if a ∈ as then as.eraseDups else as.eraseDups ++ [a] := by
  rw [List.eraseDups_append]
  split_ifs with h <;> simp [List.removeAll, List.eraseDups_cons, h]

/-- A name that is wanted enters the table if it is not there and a slot is left. -/
theorem table_of_wanted (h : op.keeps = true) (h' : op.wanted? = some name) :
    table (history ++ [op]) =
      if name ∉ table history ∧ (table history).length < capacity then table history ++ [name]
      else table history := by
  unfold table
  rw [wanted_append_singleton h, h', Option.toList_some, eraseDups_append_singleton]
  have member := List.mem_eraseDups (a := name) (l := wanted history)
  generalize (wanted history).eraseDups = names at member
  by_cases vacant : names.length < capacity
  · rw [List.take_of_length_le (Nat.le_of_lt vacant)]
    simp only [member, vacant, and_true, ite_not]
    split_ifs
    · exact List.take_of_length_le (Nat.le_of_lt vacant)
    · exact List.take_of_length_le (by rw [List.length_append]; exact vacant)
  · have full : (names.take capacity).length = capacity := by
      rw [List.length_take, Nat.min_eq_left (Nat.le_of_not_lt vacant)]
    rw [if_neg (show ¬(name ∉ names.take capacity ∧ (names.take capacity).length < capacity) from
      fun new => Nat.lt_irrefl _ (full ▸ new.2))]
    split_ifs
    · rfl
    · exact List.take_append_of_le_length (Nat.le_of_not_lt vacant)

/-- Whether a request defines a unit when the extension table is `t`. -/
def Appends (t : List String) (name : String) (extend : Bool) : Prop :=
  predefined? name = none ∧ name ∉ t ∧ extend = true ∧ name ≠ "" ∧ t.length < capacity

instance : Decidable (Appends t name extend) := inferInstanceAs (Decidable (_ ∧ _))

theorem table_unit :
    table (history ++ [.unit name extend]) =
      if Appends (table history) name extend then table history ++ [name]
      else table history := by
  cases h : (Operation.unit name extend).wanted? with
  | none =>
    rw [table_of_not_wanted rfl h, if_neg]
    rintro ⟨not_predefined, -, rfl, named, -⟩
    simp [Operation.wanted?, named, not_predefined] at h
  | some wanted =>
    have : extend = true ∧ (name ≠ "" ∧ predefined? name = none) ∧ name = wanted := by
      cases extend <;> simp [Operation.wanted?] at h ⊢
      exact h
    obtain ⟨rfl, ⟨named, not_predefined⟩, rfl⟩ := this
    rw [table_of_wanted rfl h]
    simp only [Appends, not_predefined, named, true_and, ne_eq, not_false_eq_true]

/-! ## The invariant -/

/-- The registry has the extension table `t`, in its list of names and in its index. -/
structure Lists (r : Registry) (t : List String) : Prop where
  extensions_eq : r.extensions = t
  slot?_eq_some_iff : ∀ name slot, r.slot? name = some slot ↔ t[slot]? = some name
  wanted : ∀ name ∈ t, name ≠ "" ∧ predefined? name = none
  length_le : t.length ≤ capacity

namespace Lists

theorem slot?_eq_none_iff (h : r.Lists t) : r.slot? name = none ↔ name ∉ t := by
  rw [Option.eq_none_iff_forall_ne_some, List.mem_iff_getElem?, not_exists]
  exact forall_congr' fun slot => not_congr (h.slot?_eq_some_iff name slot)

theorem find?_eq_none_iff (h : r.Lists t) :
    r.find? name = none ↔ predefined? name = none ∧ name ∉ t := by
  rw [Registry.find?_eq_none_iff, h.slot?_eq_none_iff]

theorem find?_of_getElem? (h : r.Lists t) {slot : Nat} (entry : t[slot]? = some name) :
    r.find? name = some (extensionUnit slot) := by
  have fresh := (h.wanted name (List.mem_of_getElem? entry)).2
  rw [find?_of_not_predefined fresh, (h.slot?_eq_some_iff name slot).2 entry, Option.map_some]

/-- A new name gets the slot behind the table. -/
theorem define (h : r.Lists t) (new : Appends t name extend) :
    (r.define name).Lists (t ++ [name]) := by
  obtain ⟨not_predefined, absent, -, named, vacant⟩ := new
  refine ⟨by rw [Registry.define, h.extensions_eq], fun other slot => ?_, fun other => ?_, ?_⟩
  · rw [List.getElem?_append]
    by_cases same : other = name
    · subst same
      rw [slot?_define_self, h.extensions_eq]
      split_ifs with inside
      · have : t[slot]? ≠ some other := fun e => absent (List.mem_of_getElem? e)
        simp only [this, Option.some.injEq, iff_false]
        omega
      · rw [List.getElem?_singleton]
        split_ifs <;> simp <;> omega
    · rw [slot?_define_of_ne same, h.slot?_eq_some_iff]
      split_ifs with inside
      · rfl
      · rw [List.getElem?_eq_none (Nat.le_of_not_lt inside), List.getElem?_singleton]
        split_ifs <;> simp [Ne.symm same]
  · rw [List.mem_append, List.mem_singleton]
    rintro (old | rfl)
    · exact h.wanted other old
    · exact ⟨named, not_predefined⟩
  · rw [List.length_append]
    exact vacant

theorem of_fresh : ({} : Registry).Lists [] :=
  ⟨rfl, fun _ _ => by simp [slot?], fun _ h => absurd h List.not_mem_nil, Nat.zero_le _⟩

/-- A request changes the registry only to define a unit. -/
theorem registry_unit (h : r.Lists t) (name : String) (extend : Bool) :
    (r.unit name extend).registry = if Appends t name extend then r.define name else r := by
  rcases r.unit_cases name extend with
    ⟨q, known, e⟩ | ⟨_, refused, e⟩ | ⟨fresh, wanted, named, vacant, e⟩ | ⟨_, _, _, full, e⟩ <;>
    rw [e]
  · rw [if_neg]
    rintro ⟨not_predefined, absent, -⟩
    rw [h.find?_eq_none_iff.2 ⟨not_predefined, absent⟩] at known
    cases known
  · rw [if_neg]
    rintro ⟨-, -, wanted, named, -⟩
    rcases refused with refused | refused
    · exact Bool.noConfusion (wanted.symm.trans refused)
    · exact named refused
  · obtain ⟨not_predefined, absent⟩ := h.find?_eq_none_iff.1 fresh
    rw [h.extensions_eq] at vacant
    rw [if_pos ⟨not_predefined, absent, wanted, named, vacant⟩]
  · rw [h.extensions_eq] at full
    rw [if_neg fun new => full new.2.2.2.2]

/-- Every operation keeps the invariant, with the table that the history has then. -/
theorem apply (h : (run history).Lists (table history)) (op : Operation) :
    (op.apply (run history)).Lists (table (history ++ [op])) := by
  cases op with
  | reset => rw [table_reset]; exact of_fresh
  | unit name extend =>
    rw [table_unit, Operation.apply, h.registry_unit]
    split_ifs with new
    · exact h.define new
    · exact h
  | defineName d name => rw [table_of_not_wanted rfl rfl]; exact ⟨h.1, h.2, h.3, h.4⟩
  | _ => rw [table_of_not_wanted rfl rfl]; exact h

end Lists

theorem lists_run (history : List Operation) : (run history).Lists (table history) := by
  induction history using List.reverseRecOn with
  | nil => exact .of_fresh
  | append_singleton history op ih => rw [run_append_singleton]; exact ih.apply op

/-! ## Requests after a history -/

/-- What a request answers when the extension table is `t`. -/
def answer (t : List String) (name : String) (extend : Bool) : Except UnitFault Quantity :=
  match predefined? name, t.findIdx? (· = name) with
  | some q, _ => .ok q
  | none, some slot => .ok ⟨.extension slot, 1⟩
  | none, none =>
    if extend = false ∨ name = "" then .error (.undefined name)
    else if t.length = capacity then .error (.tableFull name)
    else .ok ⟨.extension t.length, 1⟩

/-- The index finds the place of a name in the table. -/
theorem Lists.slot?_eq_findIdx? (h : r.Lists t) : r.slot? name = t.findIdx? (· = name) := by
  cases e : t.findIdx? (· = name) with
  | none =>
    rw [h.slot?_eq_none_iff]
    intro member
    have := List.findIdx?_eq_none_iff.1 e name member
    simp at this
  | some slot =>
    obtain ⟨inside, same, -⟩ := List.findIdx?_eq_some_iff_getElem.1 e
    rw [h.slot?_eq_some_iff, List.getElem?_eq_getElem inside, of_decide_eq_true same]

/-- What a request answers depends on the extension table alone. -/
theorem Lists.result_unit (h : r.Lists t) (name : String) (extend : Bool) :
    (r.unit name extend).result = answer t name extend := by
  unfold answer
  rw [← h.slot?_eq_findIdx?]
  rcases r.unit_cases name extend with
    ⟨q, known, e⟩ | ⟨fresh, refused, e⟩ | ⟨fresh, wanted, named, vacant, e⟩ |
    ⟨fresh, wanted, named, full, e⟩ <;> rw [e]
  · cases predefined : predefined? name with
    | none =>
      rw [find?_of_not_predefined predefined] at known
      obtain ⟨slot, entry, rfl⟩ := Option.map_eq_some_iff.1 known
      rw [entry]
      rfl
    | some q' => rw [Option.some.inj ((find?_of_predefined predefined).symm.trans known)]
  all_goals
    obtain ⟨not_predefined, absent⟩ := Registry.find?_eq_none_iff.1 fresh
    rw [not_predefined, absent]
  · rw [if_pos refused]
  · have := h.extensions_eq ▸ vacant
    rw [if_neg (by simp [wanted, named]), if_neg (Nat.ne_of_lt this), h.extensions_eq]
    rfl
  · have := h.extensions_eq ▸ full
    rw [if_neg (by simp [wanted, named]),
      if_pos (Nat.le_antisymm h.length_le (Nat.le_of_not_lt this))]

/-- A name has a unit exactly when a request that may not extend the table is granted. -/
theorem hasUnit_iff : r.hasUnit name = true ↔ ∃ q, (r.unit name).result = .ok q := by
  rw [hasUnit, Option.isSome_iff_exists]
  constructor
  · rintro ⟨q, known⟩
    exact ⟨q, by rw [unit_of_find? known]⟩
  · rintro ⟨q, granted⟩
    cases h : r.find? name with
    | none =>
      rw [unit_of_refused h (.inl rfl)] at granted
      exact absurd granted (by simp)
    | some q' => exact ⟨q', rfl⟩

/-- After any history the extension table is made of the first distinct names wanted since the last
reset, in its list and in its index, and answers every request; a request changes the registry only
to define a unit. -/
theorem requests_after_history (history : List Operation) :
    (run history).Lists (table history) ∧
    (∀ slot name, (table history)[slot]? = some name →
      (run history).find? name = some ⟨.extension slot, 1⟩) ∧
    (∀ name extend, ((run history).unit name extend).result = answer (table history) name extend) ∧
    (∀ name extend, ((run history).unit name extend).registry =
      if Appends (table history) name extend then (run history).define name else run history) ∧
    (∀ name extend fault, ((run history).unit name extend).result = .error fault →
      ((run history).unit name extend).registry = run history) ∧
    (∀ name, (run history).hasUnit name = true ↔
      ∃ q, ((run history).unit name).result = .ok q) :=
  have lists := lists_run history
  ⟨lists, fun _ _ => lists.find?_of_getElem?, lists.result_unit, lists.registry_unit,
    fun _ _ _ => registry_unit_of_error, fun _ => hasUnit_iff⟩

end Registry

end Metrology
