import Metrology.Proofs.Expression.Places
import Metrology.Proofs.Parser.Acceptance
import Metrology.Proofs.Registry.ExtensionUnits

/-!
# How parses change a registry

A parse does nothing to the registry but request units, and only for names that stand in its text
(`Parser.exists_requests`).  So a registry that was reached by parses alone is one that was reached
by requests for such names (`Parser.exists_run_reached`).
-/

namespace Metrology

open Expression

namespace Registry

/-- Requests for units continue the history of a registry. -/
theorem exists_run_requests (extend : Bool) (names : List String) (history : List Operation) :
    ∃ ops, ((run history).requests extend names).2 = run (history ++ ops) ∧
      ∀ op ∈ ops, ∃ name ∈ names, op = .unit name extend := by
  induction names generalizing history with
  | nil => exact ⟨[], by rw [List.append_nil, requests], fun _ h => absurd h List.not_mem_nil⟩
  | cons name names ih =>
    have next :
        ((run history).unit name extend).registry = run (history ++ [.unit name extend]) := by
      rw [run_append_singleton]
      rfl
    rw [requests, next]
    cases ((run history).unit name extend).result with
    | error fault =>
      refine ⟨[.unit name extend], rfl, fun op member => ?_⟩
      exact ⟨name, List.mem_cons_self, List.mem_singleton.1 member⟩
    | ok q =>
      obtain ⟨ops, same, of_names⟩ := ih (history ++ [.unit name extend])
      refine ⟨.unit name extend :: ops, ?_, fun op member => ?_⟩
      · rw [same, ← List.append_cons]
      · rcases List.mem_cons.1 member with rfl | member
        · exact ⟨name, List.mem_cons_self, rfl⟩
        · obtain ⟨name', member, same⟩ := of_names op member
          exact ⟨name', List.mem_cons_of_mem _ member, same⟩

theorem eq_of_wanted {name wanted : String} {extend : Bool}
    (h : (Operation.unit name extend).wanted? = some wanted) : name = wanted := by
  cases extend with
  | false => cases h
  | true =>
    rw [Operation.wanted?] at h
    split_ifs at h
    exact Option.some.inj h

/-- The names in the extension table were wanted. -/
theorem exists_wanted_of_mem_table {history : List Operation} {name : String}
    (h : name ∈ table history) : ∃ op ∈ history, op.wanted? = some name := by
  have wanted := List.mem_eraseDups.1 (List.mem_of_mem_take h)
  obtain ⟨op, member, wants⟩ := List.mem_filterMap.1 wanted
  exact ⟨op, (List.rtakeWhile_suffix _ _).subset member, wants⟩

end Registry

namespace Parser

variable {p : Parser} {source : String} {text : List Char}

theorem registry_parseText (p : Parser) (source : String) (text : List Char) :
    (p.parseText source text).parser.registry = (p.taken source text).registry := by
  unfold parseText taken
  dsimp only
  split <;> rfl

/-- A parse requests units for names in its text, and nothing else becomes of the registry. -/
theorem exists_requests (p : Parser) (source : String) :
    ∃ names, (p.parse source).parser.registry = (p.registry.requests p.options.extend names).2 ∧
      ∀ name ∈ names, IsBareName name.toList ∧ name.toList <:+: Text.trim source.toList := by
  rw [parse]
  split
  · exact ⟨[], rfl, fun _ h => absurd h List.not_mem_nil⟩
  · refine ⟨(read p.options (Text.trim source.toList)).names, ?_, fun name member => ?_⟩
    · rw [registry_parseText, ← p.taken_eq source (Text.trim source.toList)]
    · obtain ⟨step, member, names⟩ := List.mem_filterMap.1 member
      cases step with
      | note => cases names
      | request name left =>
        cases names
        have request := isRequestIn_of_read member
        exact ⟨request.isBareName, request.isInfix⟩

/-- The registry after parses of texts, each with options of its own, from a fresh one. -/
def reached (history : List (Options × String)) : Registry :=
  history.foldl (fun registry turn =>
    (({ options := turn.1, registry } : Parser).parse turn.2).parser.registry) {}

/-- Parses leave a registry that requests for names could have left. -/
theorem exists_run_reached (history : List (Options × String)) :
    ∃ ops, reached history = Registry.run ops ∧
      ∀ op ∈ ops, ∃ name extend, op = .unit name extend ∧ IsBareName name.toList := by
  induction history using List.reverseRecOn with
  | nil => exact ⟨[], rfl, fun _ h => absurd h List.not_mem_nil⟩
  | append_singleton history turn ih =>
    obtain ⟨earlier, same, bare⟩ := ih
    obtain ⟨names, later, inside⟩ :=
      exists_requests { options := turn.1, registry := reached history } turn.2
    rw [same] at later
    obtain ⟨ops, run, of_names⟩ := Registry.exists_run_requests turn.1.extend names earlier
    refine ⟨earlier ++ ops, ?_, fun op member => ?_⟩
    · rw [← run, ← later, ← same, reached, List.foldl_append]
      rfl
    · rcases List.mem_append.1 member with member | member
      · exact bare op member
      · obtain ⟨name, requested, rfl⟩ := of_names op member
        exact ⟨name, _, rfl, (inside name requested).1⟩

end Parser

end Metrology
