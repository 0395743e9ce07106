import Mathlib
import Metrology.Options

/-!
# Options set anew

Options pass their own validation, so that an update of one option fails for the value of that
option alone, and otherwise keeps all other ones (`update_flag`, `update_escape`).  A name that is
no option is always refused (`update_of_unknown`).
-/

namespace Metrology

/-! ## Members of objects -/

namespace Json

variable {ms : List (String × Json)} {name name' : String} {v : Json}

/-- A member with a new value, where it has the name. -/
def replaced (name : String) (v : Json) (m : String × Json) : String × Json :=
  if m.1 = name then (name, v) else m

theorem fst_replaced (m : String × Json) : (replaced name v m).1 = m.1 := by
  unfold replaced
  split_ifs with same
  · exact same.symm
  · rfl

theorem insert_eq (ms : List (String × Json)) (name : String) (v : Json) :
    insert ms name v = if name ∈ ms.map Prod.fst then ms.map (replaced name v)
      else ms ++ [(name, v)] := by
  rw [insert]
  refine if_congr ?_ rfl rfl
  simp only [List.any_eq_true, decide_eq_true_eq, List.mem_map]

/-- The names after an insertion: a new one comes last. -/
theorem names_insert :
    (insert ms name v).map Prod.fst =
      if name ∈ ms.map Prod.fst then ms.map Prod.fst else ms.map Prod.fst ++ [name] := by
  rw [insert_eq]
  split_ifs
  · rw [List.map_map]
    exact List.map_congr_left fun m _ => fst_replaced m
  · rw [List.map_append, List.map_singleton]

theorem member?_eq_none_iff : member? ms name = none ↔ name ∉ ms.map Prod.fst := by
  rw [member?, Option.map_eq_none_iff, List.find?_eq_none, List.mem_map, not_exists]
  exact forall_congr' fun m => by rw [not_and, decide_eq_true_eq]

theorem find?_map_replaced :
    (ms.map (replaced name v)).find? (fun m => m.1 = name') =
      (ms.find? fun m => m.1 = name').map (replaced name v) := by
  rw [List.find?_map]
  simp only [Function.comp_def, fst_replaced]

/-- An insertion is seen where its name is looked up, and nowhere else. -/
theorem member?_insert :
    member? (insert ms name v) name' = if name = name' then some v else member? ms name' := by
  rw [insert_eq]
  split_ifs with known same same
  · subst same
    obtain ⟨w, found⟩ := Option.ne_none_iff_exists'.1 (member?_eq_none_iff.not.2 (not_not.2 known))
    obtain ⟨m, found', rfl⟩ := Option.map_eq_some_iff.1 found
    have name_eq : m.1 = name := of_decide_eq_true (List.find?_some found' :)
    rw [member?, find?_map_replaced, found', Option.map_some, Option.map_some, replaced,
      if_pos name_eq]
  · rw [member?, find?_map_replaced, member?, Option.map_map]
    refine Option.map_congr fun m found => ?_
    have name_eq : m.1 = name' := of_decide_eq_true (List.find?_some found :)
    rw [Function.comp_apply, replaced, if_neg fun e => same (e.symm.trans name_eq)]
  · subst same
    have absent : ms.find? (fun m => m.1 = name) = none := by
      simpa [member?] using member?_eq_none_iff.2 known
    simp [member?, List.find?_append, absent]
  · simp [member?, List.find?_append, same]

end Json

namespace Options

/-! ## Updates -/

/-- The options that are on or off. -/
inductive Flag where
  | debug | extend | dimensionless
deriving DecidableEq, Repr

def Flag.name : Flag → String
  | .debug => "debug"
  | .extend => "extend"
  | .dimensionless => "dimensionless"

def setFlag (o : Options) (flag : Flag) (b : Bool) : Options :=
  match flag with
  | .debug => { o with debug := b }
  | .extend => { o with extend := b }
  | .dimensionless => { o with dimensionless := b }

def setEscape (o : Options) : Escape → Options
  | ⟨escape, fits⟩ => { o with escape, escape_fits := fits }

variable {name : String}

/-- The escape character of options is read back from them. -/
theorem readEscape_singleton (default : Escape) (o : Options) :
    readEscape default (some (.text (String.singleton o.escape))) =
      .ok ⟨o.escape, o.escape_fits⟩ := by
  have text : (String.singleton o.escape).toList = [o.escape] := String.toList_singleton _
  simp only [readEscape, text, o.escape_fits, dite_true]

theorem eq_of_readFlag_ok {default b : Bool} {v : Json} (h : readFlag default (some v) = .ok b) :
    v = .bool b := by
  cases v <;> cases h
  rfl

theorem eq_of_readEscape_ok {default c : Escape} {v : Json}
    (h : readEscape default (some v) = .ok c) : v = .text (String.singleton c.1) := by
  cases v with
  | text s =>
    simp only [readEscape] at h
    split at h
    · cases h
    · next c' text =>
      split_ifs at h
      cases h
      rw [← String.ofList_toList (s := s), text]
      rfl
    · cases h
  | _ => cases h

theorem readFlag_bool (default b : Bool) : readFlag default (some (.bool b)) = .ok b := rfl

/-- The names of all options are known. -/
theorem unknownNames_insert (h : name ∈ names) (o : Options) (v : Json) :
    unknownNames (Json.insert o.members name v) = [] := by
  have known : o.members.map Prod.fst = names := rfl
  rw [unknownNames, Json.names_insert, known, if_pos h]
  decide

theorem member?_members (o : Options) :
    Json.member? o.members "debug" = some (.bool o.debug) ∧
      Json.member? o.members "extend" = some (.bool o.extend) ∧
      Json.member? o.members "dimensionless" = some (.bool o.dimensionless) ∧
      Json.member? o.members "escape" = some (.text (String.singleton o.escape)) :=
  ⟨rfl, rfl, rfl, rfl⟩

/-- An update of an option that is on or off takes such a value alone, and keeps the other
options. -/
theorem update_flag (o : Options) (flag : Flag) (v : Json) :
    o.update [(flag.name, v)] =
      match readFlag false (some v) with
      | .ok b => .ok (o.setFlag flag b)
      | .error fault => .error [⟨flag.name, fault⟩] := by
  have known : flag.name ∈ names := by cases flag <;> decide
  obtain ⟨debug, extend, dimensionless, escape⟩ := member?_members o
  simp only [update, List.foldl_cons, List.foldl_nil, ofMembers?, Json.member?_insert,
    unknownNames_insert known, debug, extend, dimensionless, escape]
  cases flag <;> cases read : readFlag false (some v) <;>
    simp [Flag.name, readFlag_bool, readEscape_singleton, setFlag, problem, read]

/-- An update of the escape character keeps the other options, and needs no default for it. -/
theorem update_escape (o : Options) (default : Escape) (v : Json) :
    o.update [("escape", v)] =
      match readEscape default (some v) with
      | .ok c => .ok (o.setEscape c)
      | .error fault => .error [⟨"escape", fault⟩] := by
  have known : "escape" ∈ names := by decide
  obtain ⟨debug, extend, dimensionless, -⟩ := member?_members o
  simp only [update, List.foldl_cons, List.foldl_nil, ofMembers?, Json.member?_insert,
    unknownNames_insert known, debug, extend, dimensionless]
  have read_eq (default' : Escape) :
      readEscape default' (some v) = readEscape default (some v) := by
    cases v <;> rfl
  cases read : readEscape default (some v) <;>
    simp [readFlag_bool, setEscape, problem, read_eq, read]

/-- What is no option is not set. -/
theorem update_of_unknown (h : name ∉ names) (o : Options) (v : Json) :
    o.update [(name, v)] = .error [⟨name, .unknownOption⟩] := by
  have new : o.members.map Prod.fst = names := rfl
  have unknown : unknownNames (Json.insert o.members name v) = [name] := by
    have kept : names.filter (fun name => !names.contains name) = [] := by decide
    have extra : [name].filter (fun name => !names.contains name) = [name] := by simp [h]
    rw [unknownNames, Json.names_insert, new, if_neg h, List.filter_append, kept, extra,
      List.nil_append]
  obtain ⟨debug, extend, dimensionless, escape⟩ := member?_members o
  have differs (known : String) (member : known ∈ names) : name ≠ known := by
    rintro rfl
    exact h member
  simp only [update, List.foldl_cons, List.foldl_nil, ofMembers?, Json.member?_insert,
    unknown, debug, extend, dimensionless, escape, if_neg (differs "debug" (by decide)),
    if_neg (differs "extend" (by decide)), if_neg (differs "dimensionless" (by decide)),
    if_neg (differs "escape" (by decide)), readFlag_bool, readEscape_singleton]
  rfl

end Options

end Metrology
