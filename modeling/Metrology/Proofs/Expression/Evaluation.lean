import Metrology.Parser
import Metrology.Proofs.Registry.Requests

/-!
# Evaluation of unit expressions

`Expression.evaluate` evaluates an expression on a registry, from the left to the right: each unit
is requested when it is reached, and the first request that fails ends the evaluation.  The parser
requests all units of an expression before it computes a value; that comes to the same
(`evaluate_eq`), for a request never changes the unit of a name that has one.
-/

namespace Metrology

namespace Expression

/-- Evaluates an expression from the left to the right. -/
def evaluateM (extend : Bool) : Expression → ExceptT UnitFault (StateM Registry) Quantity
  | .one => return Quantity.one
  | .unit name => fun r => ((r.unit name extend).result, (r.unit name extend).registry)
  | .scaled x e => return (← e.evaluateM extend).scale x
  | .power e n => return (← e.evaluateM extend).power n
  | .product e f => return (← e.evaluateM extend) * (← f.evaluateM extend)
  | .quotient e f => return (← e.evaluateM extend) / (← f.evaluateM extend)

/-- What evaluating an expression on a registry gives, and the registry that is left. -/
def evaluate (e : Expression) (extend : Bool) (r : Registry) :
    Except UnitFault Quantity × Registry :=
  (e.evaluateM extend).run.run r

/-- What a value is after requests for its units. -/
def settled (value : (String → Quantity) → Quantity) :
    Option UnitFault × Registry → Except UnitFault Quantity × Registry
  | (some fault, r) => (.error fault, r)
  | (none, r) => (.ok (value r.quantity), r)

variable {extend : Bool} {r : Registry} {e e' : Expression}

/-- The value of an expression stays as it is once its units are granted. -/
theorem value_requests {r' : Registry} (granted : r.requests extend e.names = (none, r'))
    (names : List String) :
    e.value (r'.requests extend names).2.quantity = e.value r'.quantity := by
  refine value_congr e fun name h => ?_
  obtain ⟨q, known⟩ := Registry.find?_requests_of_mem (by rw [granted]) h
  rw [granted] at known
  rw [Registry.quantity, Registry.quantity, known, Registry.find?_requests known]

theorem bind_run {α β : Type} (x : ExceptT UnitFault (StateM Registry) α)
    (f : α → ExceptT UnitFault (StateM Registry) β) (r : Registry) :
    (x >>= f).run.run r =
      match x.run.run r with
      | (.error fault, r') => (.error fault, r')
      | (.ok a, r') => (f a).run.run r' := by
  change ExceptT.bindCont f (x.run.run r).1 (x.run.run r).2 = _
  rcases x.run.run r with ⟨_ | a, r'⟩ <;> rfl

theorem run_map (f : Quantity → Quantity)
    (h : e.evaluate extend r = settled e.value (r.requests extend e.names)) :
    (do return f (← e.evaluateM extend) : ExceptT UnitFault (StateM Registry) Quantity).run.run r =
      settled (fun unitOf => f (e.value unitOf)) (r.requests extend e.names) := by
  rw [bind_run, ← evaluate, h]
  rcases r.requests extend e.names with ⟨_ | fault, r'⟩ <;> rfl

theorem run_map₂ (f : Quantity → Quantity → Quantity)
    (h : e.evaluate extend r = settled e.value (r.requests extend e.names))
    (h' : ∀ r, e'.evaluate extend r = settled e'.value (r.requests extend e'.names)) :
    (do return f (← e.evaluateM extend) (← e'.evaluateM extend) :
      ExceptT UnitFault (StateM Registry) Quantity).run.run r =
      settled (fun unitOf => f (e.value unitOf) (e'.value unitOf))
        (r.requests extend (e.names ++ e'.names)) := by
  rw [bind_run, ← evaluate, h, Registry.requests_append]
  rcases granted : r.requests extend e.names with ⟨_ | fault, r'⟩
  · have kept := value_requests granted e'.names
    dsimp only [settled]
    rw [bind_run, ← evaluate, h']
    rcases granted' : r'.requests extend e'.names with ⟨_ | fault, r''⟩
    · rw [granted'] at kept
      dsimp only [settled]
      rw [kept]
      rfl
    · rfl
  · rfl

/-- Evaluation requests the units of the expression in order, and gives the value that the
expression has when all of them are granted. -/
theorem evaluate_eq (e : Expression) (extend : Bool) (r : Registry) :
    e.evaluate extend r = settled e.value (r.requests extend e.names) := by
  induction e generalizing r with
  | one => rfl
  | unit name =>
    rw [names, Registry.requests]
    cases h : (r.unit name extend).result with
    | error fault => exact Prod.ext h rfl
    | ok q =>
      have value_eq : (r.unit name extend).registry.quantity name = q := by
        rw [Registry.quantity, Registry.find?_unit_self h, Option.getD_some]
      exact Prod.ext (h.trans (congrArg Except.ok value_eq.symm)) rfl
  | scaled x e ih => exact run_map (·.scale x) (ih r)
  | power e n ih => exact run_map (·.power n) (ih r)
  | product e f ih ih' => exact run_map₂ (· * ·) (ih r) ih'
  | quotient e f ih ih' => exact run_map₂ (· / ·) (ih r) ih'

end Expression

end Metrology
