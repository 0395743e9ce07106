import Metrology.Proofs.Expression.Correspondence
import Metrology.Proofs.Parser.Acceptance

/-!
# How corresponding readings end

Whether a text has a quantity, and where its parse stops, follows from the requests of its reading,
taken on the registry, and from the result of the reading (`Reading.settle`, `Parser.ending`).  So
two readings that correspond end in the same way, if the first one ends within the horizon
(`Pairing.Corresponds.settle_error`, `Pairing.Corresponds.settle_ok`).
-/

namespace Metrology

open Expression

/-! ## Requests with their places -/

namespace Registry

variable {extend : Bool} {r r' : Registry} {fault : UnitFault} {left : Nat}

/-- Requests the units of several names in order: the first fault, with the place of its request,
and the registry that is left behind. -/
def requestsAt (extend : Bool) (r : Registry) :
    List (String × Nat) → Option (UnitFault × Nat) × Registry
  | [] => (none, r)
  | (name, left) :: requests =>
    match (r.unit name extend).result with
    | .error fault => (some (fault, left), (r.unit name extend).registry)
    | .ok _ => requestsAt extend (r.unit name extend).registry requests

/-- Requests that fail decide what becomes of all requests that they are followed by. -/
theorem requestsAt_of_prefix {qs qs' : List (String × Nat)} (isPrefix : qs <+: qs')
    (failed : r.requestsAt extend qs = (some (fault, left), r')) :
    r.requestsAt extend qs' = (some (fault, left), r') := by
  obtain ⟨later, rfl⟩ := isPrefix
  induction qs generalizing r with
  | nil => cases failed
  | cons q qs ih =>
    obtain ⟨name, place⟩ := q
    rw [requestsAt] at failed
    rw [List.cons_append, requestsAt]
    cases answer : (r.unit name extend).result with
    | error fault' =>
      rw [answer] at failed
      exact failed
    | ok q =>
      rw [answer] at failed
      exact ih failed

/-- The request that fails is the last one that counts. -/
theorem exists_prefix_of_failure {qs : List (String × Nat)}
    (failed : r.requestsAt extend qs = (some (fault, left), r')) :
    ∃ before name, before ++ [(name, left)] <+: qs ∧
      r.requestsAt extend (before ++ [(name, left)]) = (some (fault, left), r') := by
  induction qs generalizing r with
  | nil => cases failed
  | cons q qs ih =>
    obtain ⟨name, place⟩ := q
    rw [requestsAt] at failed
    cases answer : (r.unit name extend).result with
    | error fault' =>
      rw [answer] at failed
      cases failed
      exact ⟨[], name, List.prefix_append _ _, by rw [List.nil_append, requestsAt, answer]⟩
    | ok q =>
      rw [answer] at failed
      obtain ⟨before, last, isPrefix, failed⟩ := ih failed
      refine ⟨(name, place) :: before, last, ?_, ?_⟩
      · rwa [List.cons_append, List.prefix_cons_inj]
      · rw [List.cons_append, requestsAt, answer]
        exact failed

/-- Where the requests are made does not count for the answers. -/
theorem requestsAt_map (f : Nat → Nat) (qs : List (String × Nat)) :
    r.requestsAt extend (qs.map (Prod.map id f)) =
      (r.requestsAt extend qs).map (Option.map (Prod.map id f)) id := by
  induction qs generalizing r with
  | nil => rfl
  | cons q qs ih =>
    obtain ⟨name, place⟩ := q
    rw [List.map_cons, requestsAt, Prod.map_fst, id, requestsAt]
    cases (r.unit name extend).result with
    | error fault => rfl
    | ok q => exact ih

end Registry

/-- The failure of the steps of a reading is that of its requests. -/
theorem replay_eq_requestsAt (o : Options) (r : Registry) (steps : List Step) :
    ((replay o r steps).failure, (replay o r steps).registry) =
      r.requestsAt o.extend (steps.filterMap Step.request?) := by
  induction steps generalizing r with
  | nil => rfl
  | cons step steps ih =>
    cases step with
    | note note => exact ih r
    | request name left =>
      change _ = r.requestsAt o.extend ((name, left) :: steps.filterMap Step.request?)
      rw [Registry.requestsAt, replay]
      cases (r.unit name o.extend).result with
      | error fault => rfl
      | ok q => exact ih _

/-! ## Settled readings -/

/-- Why a text has no quantity, the place that this is reported at, and the place where the parse
stops. -/
structure Stop where
  fault : ParseFault
  place : Nat
  left : Nat

namespace Expression

variable {o o' : Options} {α : Type} {s s' : List Char} {extend : Bool} {r r' : Registry}

/-- What becomes of a reading when its requests are made. -/
def Reading.settle (extend : Bool) (r : Registry) (x : Reading α s) : Except Stop α × Registry :=
  match r.requestsAt extend x.requests, x.result with
  | (some (fault, left), r'), _ => (.error ⟨.unit fault, left, left⟩, r')
  | (none, r'), .error e => (.error ⟨.expression e.fault, e.place, e.left⟩, r')
  | (none, r'), .ok (a, _) => (.ok a, r')

section Settle

variable {x : Reading α s} {fault : UnitFault} {left : Nat} {e : SyntaxError} {a : α}
  {t : {t : List Char // t <:+ s}}

theorem settle_of_refused (h : r.requestsAt extend x.requests = (some (fault, left), r')) :
    x.settle extend r = (.error ⟨.unit fault, left, left⟩, r') := by
  rw [Reading.settle, h]

theorem settle_of_error (h : r.requestsAt extend x.requests = (none, r'))
    (h' : x.result = .error e) :
    x.settle extend r = (.error ⟨.expression e.fault, e.place, e.left⟩, r') := by
  rw [Reading.settle, h, h']

theorem settle_of_ok (h : r.requestsAt extend x.requests = (none, r'))
    (h' : x.result = .ok (a, t)) : x.settle extend r = (.ok a, r') := by
  rw [Reading.settle, h, h']

end Settle

/-- Faults of syntax are alike up to counterparts, and faults of units are the same. -/
inductive ParseFaultsAlike (o o' : Options) : ParseFault → ParseFault → Prop
  | expression {fault fault' : SyntaxFault} (h : FaultsAlike o o' fault fault') :
    ParseFaultsAlike o o' (.expression fault) (.expression fault')
  | unit (fault : UnitFault) : ParseFaultsAlike o o' (.unit fault) (.unit fault)

namespace ParseFaultsAlike

variable {fault fault' : ParseFault}

theorem family_eq (h : ParseFaultsAlike o o' fault fault') : fault'.family = fault.family := by
  cases h <;> rfl

theorem code_eq (h : ParseFaultsAlike o o' fault fault') : fault'.code = fault.code := by
  cases h <;> rfl

theorem eq_of_same (h : ParseFaultsAlike o o fault fault') : fault' = fault := by
  cases h with
  | expression h => rw [h.eq_of_same]
  | unit => rfl

end ParseFaultsAlike

namespace Pairing

variable {T : Pairing o o'} {x : Reading α s} {x' : Reading α s'} {fault : UnitFault} {left : Nat}

/-- A request that fails within the horizon fails in the second reading, too. -/
theorem Corresponds.requestsAt_of_refused (h : T.Corresponds x x') (seen : T.horizon ≤ left)
    (refused : r.requestsAt extend x.requests = (some (fault, left), r')) :
    r.requestsAt extend x'.requests = (some (fault, T.moved left), r') := by
  obtain ⟨before, name, isPrefix, failed⟩ := Registry.exists_prefix_of_failure refused
  have moved : (before ++ [(name, left)]).map (Prod.map id T.moved) <+: x'.requests := by
    cases h with
    | whole requests => exact requests ▸ isPrefix.map _
    | part beyond requests => exact requests before (name, left) seen isPrefix
  refine Registry.requestsAt_of_prefix moved ?_
  rw [Registry.requestsAt_map, failed]
  rfl

/-- Where the first reading stops within the horizon, the second one stops at the same place, with a
fault that is alike, and leaves the same registry. -/
theorem Corresponds.settle_error {stop : Stop} (h : T.Corresponds x x')
    (stopped : x.settle extend r = (.error stop, r')) (seen : T.horizon ≤ stop.left) :
    ∃ stop', x'.settle extend r = (.error stop', r') ∧
      ParseFaultsAlike o o' stop.fault stop'.fault ∧ T.SamePlace stop.place stop'.place ∧
      T.SamePlace stop.left stop'.left := by
  rcases answer : r.requestsAt extend x.requests with ⟨_ | ⟨fault, left⟩, r₁⟩
  · rcases result : x.result with e | ⟨a, t⟩
    · cases (settle_of_error answer result).symm.trans stopped
      cases h with
      | whole requests ends =>
        rw [result] at ends
        rcases result' : x'.result with e' | ⟨a', t'⟩ <;> rw [result'] at ends <;> cases ends
        next fault place left =>
        have answer' : r.requestsAt extend x'.requests = (none, r') := by
          rw [requests, Registry.requestsAt_map, answer]
          rfl
        exact ⟨_, settle_of_error answer' result', .expression fault, place, left⟩
      | part beyond =>
        rw [Reading.left, result] at beyond
        exact absurd seen (Nat.not_le.2 beyond)
    · cases (settle_of_ok answer result).symm.trans stopped
  · cases (settle_of_refused answer).symm.trans stopped
    exact ⟨_, settle_of_refused (h.requestsAt_of_refused seen answer), .unit fault,
      T.samePlace_moved seen, T.samePlace_moved seen⟩

/-- Where the first reading has a value and nothing is beyond the horizon, the second one has the
same value and leaves the same registry. -/
theorem Corresponds.settle_ok {a : α} (h : T.Corresponds x x') (all : T.horizon = 0)
    (ok : x.settle extend r = (.ok a, r')) : x'.settle extend r = (.ok a, r') := by
  rcases answer : r.requestsAt extend x.requests with ⟨_ | ⟨fault, left⟩, r₁⟩
  · rcases result : x.result with e | ⟨a, t⟩
    · cases (settle_of_error answer result).symm.trans ok
    · cases (settle_of_ok answer result).symm.trans ok
      cases h with
      | whole requests ends =>
        rw [result] at ends
        rcases result' : x'.result with e' | ⟨a', t'⟩ <;> rw [result'] at ends <;> cases ends
        refine settle_of_ok ?_ result'
        rw [requests, Registry.requestsAt_map, answer]
        rfl
      | part beyond =>
        rw [all] at beyond
        exact absurd beyond (Nat.not_lt_zero _)
  · cases (settle_of_refused answer).symm.trans ok

end Pairing

end Expression

/-! ## Parses -/

namespace Parser

variable {p : Parser} {text : List Char} {r : Registry}

/-- How the parse of a text ends: where and why it stops, or the coefficient and the expression of
the text, and the registry that is left. -/
def ending (p : Parser) (text : List Char) : Except Stop (Option Float × Expression) × Registry :=
  (readWhole p.options text).settle p.options.extend p.registry

theorem taken_eq_requestsAt (p : Parser) (source : String) (text : List Char) :
    ((p.taken source text).failure, (p.taken source text).registry) =
      p.registry.requestsAt p.options.extend (readWhole p.options text).requests := by
  rw [requests_readWhole]
  exact replay_eq_requestsAt p.options p.registry (.note (.start source) :: _)

/-- A parse that stops has an error for the fault. -/
theorem parseText_of_stop {stop : Stop} (source : String) (h : p.ending text = (.error stop, r)) :
    (p.parseText source text).result =
        .error ⟨stop.fault, source, String.ofList text, column text stop.place⟩ ∧
      (p.parseText source text).parser.registry = r ∧
      (p.parseText source text).parser.state.inputPosition = column text stop.left := by
  have run := taken_eq_requestsAt p source text
  have outcome := result_readWhole p.options text
  rcases answer : p.registry.requestsAt p.options.extend (readWhole p.options text).requests with
    ⟨_ | ⟨fault, left⟩, r₁⟩ <;>
    rw [answer] at run <;> obtain ⟨failure, registry⟩ := Prod.mk.inj run
  · rcases result : (readWhole p.options text).result with e | ⟨⟨x, e⟩, t⟩
    · cases (settle_of_error answer result).symm.trans h
      rw [result] at outcome
      rw [parseText_of_error failure outcome]
      exact ⟨rfl, registry, rfl⟩
    · cases (settle_of_ok answer result).symm.trans h
  · cases (settle_of_refused answer).symm.trans h
    rw [parseText_of_refused failure]
    exact ⟨rfl, registry, rfl⟩

/-- What a parse returns and remembers of a text with a coefficient and an expression. -/
structure Returns (text : List Char) (x : Option Float) (e : Expression) (r : Registry)
    (parsed : Parsed) : Prop where
  result : parsed.result = .ok ((e.value r.quantity).scale (x.getD 1))
  registry : parsed.parser.registry = r
  numericalValue : parsed.parser.state.numericalValue = x.getD 1
  prefixFactor : parsed.parser.state.prefixFactor =
    unitMagnitude ((e.value r.quantity).scale (x.getD 1)) (x.getD 1)
  inputPosition : parsed.parser.state.inputPosition = column text 0

theorem parseText_of_value {x : Option Float} {e : Expression} (source : String)
    (h : p.ending text = (.ok (x, e), r)) : Returns text x e r (p.parseText source text) := by
  have run := taken_eq_requestsAt p source text
  have outcome := result_readWhole p.options text
  rcases answer : p.registry.requestsAt p.options.extend (readWhole p.options text).requests with
    ⟨_ | ⟨fault, left⟩, r₁⟩ <;>
    rw [answer] at run <;> obtain ⟨failure, registry⟩ := Prod.mk.inj run
  · rcases result : (readWhole p.options text).result with e | ⟨⟨x, e⟩, t⟩
    · cases (settle_of_error answer result).symm.trans h
    · cases (settle_of_ok answer result).symm.trans h
      rw [result] at outcome
      obtain ⟨rfl, outcome⟩ := outcome
      rw [parseText_eq_completed failure outcome]
      subst registry
      exact ⟨rfl, rfl, rfl, rfl, rfl⟩
  · cases (settle_of_refused answer).symm.trans h

end Parser

end Metrology
