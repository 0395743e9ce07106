import Metrology.Dimension

/-!
# Errors

Every operation that can fail says why with a cause of one of the types here, or with a
`Dimension.Fault`.  `Error` joins the causes; `Error.message` has their wording, and
`Error.family` sorts them into families, the narrower ones within wider ones and most of them
with a stable code.
-/

namespace Metrology

/-- Why a name has no unit. -/
inductive UnitFault where
  | undefined (name : String)
  /-- The name would be a new unit, and all extension slots are taken. -/
  | tableFull (name : String)
deriving DecidableEq, Repr

/-- Why a text cannot be written. -/
inductive TextFault where
  /-- A whole number has more than `Whole.digitLimit` digits. -/
  | tooManyDigits
  /-- The number of digits asked for is above `2 ^ 31 - 1`. -/
  | precisionTooBig
  /-- The number of digits asked for is above `2 ^ 63 - 1`. -/
  | precisionTooLong
  /-- The dimension of a slot has no display name. -/
  | unnamed (d : Dimension)
deriving DecidableEq, Repr

/-- Causes of failure. -/
inductive Error where
  | shape (fault : Dimension.Fault)
  /-- A power or a root has an unfit order. -/
  | order (fault : Dimension.OrderFault)
  /-- The operands of an operator differ in dimension. -/
  | incompatible (operator : String) (lhs rhs : Dimension)
  | unknownPrefix (code : String)
  | unit (fault : UnitFault)
  /-- A quantity that is no plain number is taken for one. -/
  | castOfQuantity (kind : String)
  /-- The operator is not defined on operands of these kinds. -/
  | unsupported
  /-- A whole number is beyond the range of doubles. -/
  | wholeTooLarge
  /-- An infinity has no whole part. -/
  | wholeOfInfinity
  /-- A NaN has no whole part. -/
  | wholeOfNaN
  | text (fault : TextFault)
  /-- A number of significant digits is below one. -/
  | digitsNotPositive
deriving DecidableEq

/-- The error for operands that differ in dimension.  It is made with its message, which fails
where a dimension cannot be written. -/
def Error.ofDimensions (operator : String) (lhs rhs : Dimension) : Error :=
  if lhs.isWritable && rhs.isWritable then .incompatible operator lhs rhs else .text .tooManyDigits

/-! ## Wording -/

def Dimension.Fault.message : Dimension.Fault → String
  | .wrongSize => s!"Dimension must have exactly {Dimension.size} exponents"
  | .exponentNotWhole => "Dimension exponents must be integers"
  | .tooManyBases => s!"at most {Dimension.baseCount} base exponents expected"
  | .noIndex i => s!"dimension index {i} out of range"
  | .noSlot slot => s!"extension slot {slot} out of range"
  | .multipleOfZero => "integer modulo by zero"

def Dimension.OrderFault.message : Dimension.OrderFault → String
  | .powerNotWhole => "quantity: power must be an integer"
  | .rootNotWhole => "quantity: root must be an integer"
  | .rootOfOrderZero => "quantity: root of order zero"
  | .notMultiple => "quantity: dimension should be even multiple"

def UnitFault.name : UnitFault → String
  | .undefined name => name
  | .tableFull name => name

def UnitFault.message : UnitFault → String
  | .undefined name => s!"quantity: undefined unit '{name}'"
  | .tableFull name =>
    s!"quantity: dimension extension table full, while trying to add '{name}'"

def TextFault.message : TextFault → String
  | .tooManyDigits =>
    s!"Exceeds the limit ({Whole.digitLimit} digits) for integer string conversion; " ++
      "use sys.set_int_max_str_digits() to increase the limit"
  | .precisionTooBig => "precision too big"
  | .precisionTooLong => "Too many decimal digits in format string"
  | .unnamed d => d.keyText

def Error.message : Error → String
  | .shape fault => fault.message
  | .order fault => fault.message
  | .incompatible operator lhs rhs =>
    s!"quantity: incompatible dimension in {operator}: lhs:{lhs.text}, rhs:{rhs.text}"
  | .unknownPrefix code => s!"quantity: unrecognized prefix '{code}'"
  | .unit fault => fault.message
  | .castOfQuantity kind =>
    s!"quantity: cast quantity to '{kind}': quantity must be dimensionless"
  | .unsupported => "operation not defined on these operands"
  | .wholeTooLarge => "int too large to convert to float"
  | .wholeOfInfinity => "cannot convert float infinity to integer"
  | .wholeOfNaN => "cannot convert float NaN to integer"
  | .text fault => fault.message
  | .digitsNotPositive => "digits must be at least 1"

/-! ## Families -/

/-- Families of errors. -/
inductive Family where
  /-- Unfit values of any kind. -/
  | value
  /-- Errors of quantities, the widest family that has a code. -/
  | quantity
  | dimension
  | incompatibleDimension
  | unknownPrefix
  | unit
  | badCast
  | expression
  | index
  /-- Keys that a table does not have. -/
  | key
  | overflow
  | zeroDivision
  /-- Operators on operands of the wrong kind. -/
  | operand
deriving DecidableEq, Repr

namespace Family

def parent : Family → Option Family
  | .quantity => some .value
  | .dimension => some .quantity
  | .incompatibleDimension => some .dimension
  | .unknownPrefix => some .quantity
  | .unit => some .quantity
  | .badCast => some .quantity
  | .expression => some .quantity
  | _ => none

/-- The code of the errors of a family that have no code of their own. -/
def code : Family → Option String
  | .quantity => some "E_QUANTITY"
  | .dimension => some "E_DIMENSION"
  | .incompatibleDimension => some "E_DIMENSION_INCOMPATIBLE"
  | .unknownPrefix => some "E_PREFIX_UNKNOWN"
  | .unit => some "E_UNIT_UNKNOWN"
  | .badCast => some "E_BAD_QUANTITY_CAST"
  | .expression => some "E_PARSE"
  | _ => none

/-- The code of an error that was given a code of its own: an empty one counts as none. -/
def codeOr (family : Family) (own : Option String) : Option String :=
  match own with
  | none => family.code
  | some own => if own.isEmpty then family.code else some own

/-- How far a family lies below the widest ones. -/
def depth : Family → Nat
  | .quantity => 1
  | .dimension | .unknownPrefix | .unit | .badCast | .expression => 2
  | .incompatibleDimension => 3
  | _ => 0

theorem depth_parent {f g : Family} (h : f.parent = some g) : g.depth < f.depth := by
  cases f <;> simp [parent] at h <;> subst h <;> decide

/-- A family and the wider families around it, the narrowest first. -/
def chain (f : Family) : List Family :=
  match _h : f.parent with
  | none => [f]
  | some g => f :: g.chain
termination_by f.depth
decreasing_by exact depth_parent _h

end Family

def Dimension.Fault.family : Dimension.Fault → Family
  | .wrongSize | .exponentNotWhole | .tooManyBases => .value
  | .noIndex _ | .noSlot _ => .index
  | .multipleOfZero => .zeroDivision

def TextFault.family : TextFault → Family
  | .tooManyDigits | .precisionTooBig | .precisionTooLong => .value
  | .unnamed _ => .key

def Error.family : Error → Family
  | .shape fault => fault.family
  | .order _ => .dimension
  | .incompatible .. => .incompatibleDimension
  | .unknownPrefix _ => .unknownPrefix
  | .unit _ => .unit
  | .castOfQuantity _ => .badCast
  | .unsupported => .operand
  | .wholeTooLarge | .wholeOfInfinity => .overflow
  | .text fault => fault.family
  | .wholeOfNaN | .digitsNotPositive => .value

/-- The code of a unit fault: a full table has one of its own. -/
def UnitFault.code : UnitFault → String
  | .undefined _ => "E_UNIT_UNKNOWN"
  | .tableFull _ => "E_UNIT_TABLE_FULL"

def Error.code : Error → Option String
  | .unit fault => some fault.code
  | e => e.family.code

end Metrology
