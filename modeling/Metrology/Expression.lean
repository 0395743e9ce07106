import Metrology.Quantity

/-!
# Unit expressions

The tree of a unit expression such as `45 km/h`, and its value once every unit name has a
quantity.
-/

namespace Metrology

/-- Unit expressions. -/
inductive Expression where
  | one
  | unit (name : String)
  /-- A plain number times an expression: the factor of a prefix, or a coefficient. -/
  | scaled (x : Float) (e : Expression)
  | power (e : Expression) (n : Int)
  | product (e f : Expression)
  | quotient (e f : Expression)
deriving DecidableEq, Inhabited

namespace Expression

/-- The expression times a plain number that may be left out. -/
def scaledBy : Option Float → Expression → Expression
  | none, e => e
  | some x, e => .scaled x e

/-- The quantity that an expression denotes, from the left to the right. -/
def value (unitOf : String → Quantity) : Expression → Quantity
  | .one => Quantity.one
  | .unit name => unitOf name
  | .scaled x e => (e.value unitOf).scale x
  | .power e n => (e.value unitOf).power n
  | .product e f => e.value unitOf * f.value unitOf
  | .quotient e f => e.value unitOf / f.value unitOf

/-- The unit names of an expression, from the left to the right. -/
def names : Expression → List String
  | .one => []
  | .unit name => [name]
  | .scaled _ e => e.names
  | .power e _ => e.names
  | .product e f => e.names ++ f.names
  | .quotient e f => e.names ++ f.names

/-- An expression depends on the units that it names alone. -/
theorem value_congr {f g : String → Quantity} (e : Expression)
    (h : ∀ name ∈ e.names, f name = g name) : e.value f = e.value g := by
  induction e with
  | one => rfl
  | unit name => exact h name (by simp [names])
  | scaled x e ih => simp only [value, ih h]
  | power e n ih => simp only [value, ih h]
  | product e e' ih ih' =>
    simp only [names, List.mem_append] at h
    simp only [value, ih fun n hn => h n (.inl hn), ih' fun n hn => h n (.inr hn)]
  | quotient e e' ih ih' =>
    simp only [names, List.mem_append] at h
    simp only [value, ih fun n hn => h n (.inl hn), ih' fun n hn => h n (.inr hn)]

end Expression

end Metrology
