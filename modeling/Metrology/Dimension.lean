import Metrology.Number.Whole

/-!
# Dimensions

A dimension gives a whole exponent to each of the seven SI base dimensions and to each of ten
extension slots, which stay free for units that SI does not know.  Dimensions multiply by adding
exponents; this file has the product, the quotient, powers and exact roots, the constructors from
exponents that may not fit, and the text of a dimension.
-/

namespace Metrology

namespace Dimension

/-- The number of SI base dimensions. -/
abbrev baseCount : Nat := 7

/-- The number of extension slots. -/
abbrev extensionCount : Nat := 10

/-- The number of exponents. -/
abbrev size : Nat := baseCount + extensionCount

end Dimension

/-- Exponents over the SI base dimensions, then over the extension slots. -/
structure Dimension where
  exponents : Vector Int Dimension.size
deriving DecidableEq, Repr

namespace Dimension

/-! ## The group of dimensions -/

instance : One Dimension := ⟨⟨Vector.replicate size 0⟩⟩

instance : Inhabited Dimension := ⟨1⟩

def ofFn (f : Fin size → Int) : Dimension := ⟨Vector.ofFn f⟩

def exponent (d : Dimension) (i : Fin size) : Int := d.exponents[i]

def mul (d e : Dimension) : Dimension := ofFn fun i => d.exponent i + e.exponent i

def div (d e : Dimension) : Dimension := ofFn fun i => d.exponent i - e.exponent i

def inv (d : Dimension) : Dimension := ofFn fun i => -d.exponent i

def pow (d : Dimension) (n : Int) : Dimension := ofFn fun i => d.exponent i * n

instance : Mul Dimension := ⟨mul⟩
instance : Div Dimension := ⟨div⟩
instance : Inv Dimension := ⟨inv⟩
instance : HPow Dimension Int Dimension := ⟨pow⟩

@[ext] theorem ext {d e : Dimension} (h : ∀ i, d.exponent i = e.exponent i) : d = e := by
  cases d; cases e
  exact congrArg mk (Vector.ext fun i hi => h ⟨i, hi⟩)

@[simp] theorem exponent_ofFn (f : Fin size → Int) (i : Fin size) :
    (ofFn f).exponent i = f i := by
  simp [ofFn, exponent]

@[simp] theorem exponent_one (i : Fin size) : (1 : Dimension).exponent i = 0 :=
  Vector.getElem_replicate ..

@[simp] theorem exponent_mul (d e : Dimension) (i : Fin size) :
    (d * e).exponent i = d.exponent i + e.exponent i := exponent_ofFn ..

@[simp] theorem exponent_div (d e : Dimension) (i : Fin size) :
    (d / e).exponent i = d.exponent i - e.exponent i := exponent_ofFn ..

@[simp] theorem exponent_inv (d : Dimension) (i : Fin size) :
    (d⁻¹).exponent i = -d.exponent i := exponent_ofFn ..

@[simp] theorem exponent_pow (d : Dimension) (n : Int) (i : Fin size) :
    (d ^ n).exponent i = d.exponent i * n := exponent_ofFn ..

/-! ## Generators -/

/-- A single exponent, by default one, and zeros elsewhere. -/
def single (i : Fin size) (n : Int := 1) : Dimension := ofFn fun j => if j = i then n else 0

/-- The dimension of the units in an extension slot. -/
def extension (slot : Nat) : Dimension :=
  ofFn fun i => if (i : Nat) = baseCount + slot then 1 else 0

/-- The leading exponents; those that the list leaves out are zero, and further ones are
dropped. -/
def ofList (ns : List Int) : Dimension := ofFn fun i => ns.getD i 0

def toList (d : Dimension) : List Int := d.exponents.toList

/-- The exponents over the SI base dimensions. -/
def base (d : Dimension) : List Int := d.toList.take baseCount

def extensions (d : Dimension) : List Int := d.toList.drop baseCount

/-- The slots whose exponents are not zero, in order. -/
def slots (d : Dimension) : List (Fin size) :=
  (List.finRange size).filter fun i => d.exponent i ≠ 0

/-- The place that an index counts from: a negative one counts from the end, and one outside of
the exponents goes to the nearer end. -/
def place (i : Int) : Nat :=
  if 0 ≤ i then min i.toNat size else (size + i).toNat

/-- The exponents from `start` up to and without `stop`, and zeros elsewhere. -/
def restrict (d : Dimension) (start stop : Int) : Dimension :=
  ofFn fun i => if place start ≤ i ∧ i < place stop then d.exponent i else 0

/-! ## Properties -/

def isDimensionless (d : Dimension) : Bool := d.toList.all (· == 0)

/-- Whether one exponent is one and the others are zero. -/
def isSingle (d : Dimension) : Bool := d.toList.filter (· != 0) == [1]

def isMultipleOf (d : Dimension) (n : Int) : Bool := d.toList.all fun k => k % n == 0

/-- Dimensions are ordered by their exponents, the first difference decides. -/
instance : LT Dimension := ⟨fun d e => d.toList < e.toList⟩

instance : LE Dimension := ⟨fun d e => ¬ e < d⟩

instance (d e : Dimension) : Decidable (d < e) := inferInstanceAs (Decidable (d.toList < e.toList))

instance (d e : Dimension) : Decidable (d ≤ e) := inferInstanceAs (Decidable (¬ e < d))

/-! ## Operations that can fail -/

/-- What is wrong with a dimension that was asked for. -/
inductive Fault where
  /-- A list of exponents does not have the right length. -/
  | wrongSize
  /-- An exponent is not a whole number. -/
  | exponentNotWhole
  | tooManyBases
  | noIndex (i : Int)
  | noSlot (slot : Int)
  | multipleOfZero
deriving DecidableEq, Repr

/-- What is wrong with the order of a power or a root. -/
inductive OrderFault where
  /-- The order of a power is not a whole number. -/
  | powerNotWhole
  /-- The order of a root is not a whole number. -/
  | rootNotWhole
  /-- The order of a root is zero. -/
  | rootOfOrderZero
  /-- An exponent is not a multiple of the order of a root. -/
  | notMultiple
deriving DecidableEq, Repr

/-- The number that stands where a whole number is expected, if it is one. -/
abbrev Whole? := Option Int

/-- Exactly one exponent for each index. -/
def ofExponents? (ns : List Whole?) : Except Fault Dimension :=
  if ns.length ≠ size then .error .wrongSize
  else if ns.all Option.isSome then .ok (ofList (ns.map fun n => n.getD 0))
  else .error .exponentNotWhole

/-- A single exponent at an index that may be out of range. -/
def single? (i : Int) (n : Whole? := some 1) : Except Fault Dimension :=
  if h : 0 ≤ i ∧ i < size then
    match n with
    | some n => .ok (single ⟨i.toNat, by omega⟩ n)
    | none => .error .exponentNotWhole
  else .error (.noIndex i)

/-- The leading exponents over the SI base dimensions. -/
def ofBase? (ns : List Whole?) : Except Fault Dimension :=
  if baseCount < ns.length then .error .tooManyBases
  else if ns.all Option.isSome then .ok (ofList (ns.map fun n => n.getD 0))
  else .error .exponentNotWhole

/-- The dimension of an extension slot that may not exist. -/
def extension? (slot : Int) : Except Fault Dimension :=
  if 0 ≤ slot ∧ slot < extensionCount then .ok (extension slot.toNat)
  else .error (.noSlot slot)

/-- Whether `n` divides every exponent, for `n` other than zero. -/
def isMultipleOf? (d : Dimension) (n : Int) : Except Fault Bool :=
  if n = 0 then .error .multipleOfZero else .ok (d.isMultipleOf n)

/-- The power of an order that may not be whole. -/
def pow? (d : Dimension) : Whole? → Except OrderFault Dimension
  | some n => .ok (d ^ n)
  | none => .error .powerNotWhole

/-- The dimension whose `n`-th power is `d`. -/
def root (d : Dimension) (n : Int) : Except OrderFault Dimension :=
  if n = 0 then .error .rootOfOrderZero
  else if d.isMultipleOf n then .ok (ofFn fun i => d.exponent i / n)
  else .error .notMultiple

/-- The root of an order that may not be whole. -/
def root? (d : Dimension) : Whole? → Except OrderFault Dimension
  | some n => d.root n
  | none => .error .rootNotWhole

/-! ## Text -/

/-- Whether every exponent can be written. -/
def isWritable (d : Dimension) : Bool := d.toList.all Whole.isWritable

/-- The exponents, divided by commas. -/
def text (d : Dimension) : String := ",".intercalate (d.toList.map toString)

/-- The exponents as a key of a table. -/
def keyText (d : Dimension) : String :=
  "Dimension(exponents=(" ++ ", ".intercalate (d.toList.map toString) ++ "))"

end Dimension

end Metrology
