import Mathlib
import Metrology.Catalogue.Dimensions
import Metrology.Proofs.Results
import Metrology.Quantity.Operand

/-!
# Calculations with quantities

A calculation combines quantities and plain numbers by the operators on quantities.  The dimension
that it has, or the obstacle that it meets, is found from the dimensions of its quantities alone
(`Calculation.check`), and its evaluation agrees with that whatever the magnitudes are
(`Calculation.agrees_evaluate`, `Question.agrees_evaluate`).  So two evaluations on quantities of
the same dimensions end alike (`Question.outcome_of_dimensions`).
-/

namespace Metrology

/-! ## Operators -/

/-- Operators on one quantity. -/
inductive UnaryOperator where
  | pos | neg | abs | square | cube
  | power (n : Int)
  | root (n : Int)
  | sqrt

/-- Operators on two quantities. -/
inductive BinaryOperator where
  | add | sub | mul | div

/-- Products and quotients of a quantity and a plain number, on either side. -/
inductive NumberOperator where
  | timesNumber | numberTimes | overNumber | numberOver

def UnaryOperator.apply (q : Quantity) : UnaryOperator → Except Error Quantity
  | .pos => .ok q
  | .neg => .ok q.neg
  | .abs => .ok q.abs
  | .square => .ok q.square
  | .cube => .ok q.cube
  | .power n => Operand.power (.quantity q) (.scalar (.whole n))
  | .root n => Operand.root (.quantity q) (.scalar (.whole n))
  | .sqrt => q.sqrt

def BinaryOperator.apply (p q : Quantity) : BinaryOperator → Except Error Quantity
  | .add => Operand.add "operator+" (.quantity p) (.quantity q)
  | .sub => Operand.sub "operator-" (.quantity p) (.quantity q)
  | .mul => Operand.mul (.quantity p) (.quantity q)
  | .div => Operand.div (.quantity p) (.quantity q)

def NumberOperator.apply (q : Quantity) (x : Scalar) : NumberOperator → Except Error Quantity
  | .timesNumber => Operand.mul (.quantity q) (.scalar x)
  | .numberTimes => Operand.mul (.scalar x) (.quantity q)
  | .overNumber => Operand.div (.quantity q) (.scalar x)
  | .numberOver => Operand.div (.scalar x) (.quantity q)

/-! ## Calculations -/

/-- A quantity that is computed from the quantities of some leaves. -/
inductive Calculation (ι : Type) where
  | leaf (i : ι)
  | unary (op : UnaryOperator) (a : Calculation ι)
  | binary (op : BinaryOperator) (a b : Calculation ι)
  | number (op : NumberOperator) (a : Calculation ι) (x : Scalar)

/-- What is asked: for a quantity, or how two quantities compare. -/
inductive Question (ι : Type) where
  | quantity (a : Calculation ι)
  | comparison (c : Quantity.Comparison) (a b : Calculation ι)

variable {ι : Type}

/-- The quantity of a calculation, computed from the left to the right. -/
def Calculation.evaluate (leaf : ι → Quantity) : Calculation ι → Except Error Quantity
  | .leaf i => .ok (leaf i)
  | .unary op a => do op.apply (← a.evaluate leaf)
  | .binary op a b => do op.apply (← a.evaluate leaf) (← b.evaluate leaf)
  | .number op a x => do op.apply (← a.evaluate leaf) x

/-- The answer to a question: a quantity, or whether a comparison holds. -/
def Question.evaluate (leaf : ι → Quantity) : Question ι → Except Error (Quantity ⊕ Bool)
  | .quantity a => do return .inl (← a.evaluate leaf)
  | .comparison c a b => do
    let q ← a.evaluate leaf
    let q' ← b.evaluate leaf
    return .inr (← Operand.compare c (.quantity q) (.quantity q'))

/-- The plain numbers of a calculation. -/
def Calculation.numbers : Calculation ι → List Scalar
  | .leaf _ => []
  | .unary _ a => a.numbers
  | .binary _ a b => a.numbers ++ b.numbers
  | .number _ a x => x :: a.numbers

def Question.numbers : Question ι → List Scalar
  | .quantity a => a.numbers
  | .comparison _ a b => a.numbers ++ b.numbers

/-! ## Dimensions of calculations -/

/-- What can stop a calculation. -/
inductive Obstacle where
  /-- An operator wants operands of one dimension and has others. -/
  | differ (operator : String) (lhs rhs : Dimension)
  /-- A dimension has no root of the order. -/
  | noRoot (fault : Dimension.OrderFault)
  /-- No double is near to a whole number. -/
  | tooLarge (n : Int)

/-- The error that tells of an obstacle.  Dimensions that differ are shown in it. -/
def Obstacle.error : Obstacle → Error
  | .differ operator lhs rhs => .incompatible operator lhs rhs
  | .noRoot fault => .order fault
  | .tooLarge _ => .wholeTooLarge

/-- The dimensions that the error shows can be written. -/
def Obstacle.IsWritable : Obstacle → Prop
  | .differ _ lhs rhs => lhs.isWritable = true ∧ rhs.isWritable = true
  | .noRoot _ | .tooLarge _ => True

/-- The error that an evaluation ends with at an obstacle. -/
def Obstacle.raised : Obstacle → Error
  | .differ operator lhs rhs => .ofDimensions operator lhs rhs
  | o => o.error

theorem Obstacle.raised_eq_error {o : Obstacle} (h : o.IsWritable) : o.raised = o.error := by
  cases o with
  | differ operator lhs rhs =>
    rw [raised, Error.ofDimensions, h.1, h.2, Bool.and_self, if_pos rfl, error]
  | noRoot | tooLarge => rfl

/-- The dimension of two operands that must have the same. -/
def commonDimension (operator : String) (d e : Dimension) : Except Obstacle Dimension :=
  if d = e then .ok d else .error (.differ operator d e)

def rootDimension (d : Dimension) (n : Int) : Except Obstacle Dimension :=
  (d.root n).mapError .noRoot

/-- Nothing, if a plain number has a double near to it. -/
def Scalar.check : Scalar → Except Obstacle Unit
  | .whole n => if (Binary64.ofWhole? n).isSome then .ok () else .error (.tooLarge n)
  | .real _ => .ok ()

def UnaryOperator.check (d : Dimension) : UnaryOperator → Except Obstacle Dimension
  | .pos | .neg | .abs => .ok d
  | .square => .ok (d ^ (2 : Int))
  | .cube => .ok (d ^ (3 : Int))
  | .power n => .ok (d ^ n)
  | .root n => rootDimension d n
  | .sqrt => rootDimension d 2

def BinaryOperator.check (d e : Dimension) : BinaryOperator → Except Obstacle Dimension
  | .add => commonDimension "operator+" d e
  | .sub => commonDimension "operator-" d e
  | .mul => .ok (d * e)
  | .div => .ok (d / e)

def NumberOperator.check (d : Dimension) (x : Scalar) :
    NumberOperator → Except Obstacle Dimension
  | .timesNumber | .numberTimes | .overNumber => x.check.map fun _ => d
  | .numberOver => x.check.map fun _ => d⁻¹

/-- The dimension of a calculation, or the first obstacle to it. -/
def Calculation.check (leaf : ι → Dimension) : Calculation ι → Except Obstacle Dimension
  | .leaf i => .ok (leaf i)
  | .unary op a => do op.check (← a.check leaf)
  | .binary op a b => do op.check (← a.check leaf) (← b.check leaf)
  | .number op a x => do op.check (← a.check leaf) x

/-- The dimension of the answer to a question, or the first obstacle to it.  Whether a comparison
holds has no dimension. -/
def Question.check (leaf : ι → Dimension) : Question ι → Except Obstacle (Option Dimension)
  | .quantity a => do return some (← a.check leaf)
  | .comparison c a b => do
    let _ ← commonDimension c.operator (← a.check leaf) (← b.check leaf)
    return none

/-! ## Agreement -/

/-- An evaluation comes to what a check finds: the view `f` of its value is found, or it fails at
the obstacle. -/
def Agrees {α β : Type} (f : α → β) (x : Except Error α) (y : Except Obstacle β) : Prop :=
  x.map f = y.mapError Obstacle.raised

namespace Agrees

variable {α β γ δ : Type} {f : α → β} {g : γ → δ} {x : Except Error α} {y : Except Obstacle β}

theorem ok (a : α) : Agrees f (.ok a) (.ok (f a)) := rfl

theorem bind {k : α → Except Error γ} {l : β → Except Obstacle δ} (h : Agrees f x y)
    (h' : ∀ a, Agrees g (k a) (l (f a))) : Agrees g (x >>= k) (y >>= l) := by
  cases x with
  | error e =>
    cases y with
    | error o => exact congrArg Except.error (Except.error.inj h)
    | ok b => cases h
  | ok a =>
    cases y with
    | error o => cases h
    | ok b =>
      have same : f a = b := Except.ok.inj h
      exact same ▸ h' a

theorem map {k : α → γ} {l : β → δ} (h : Agrees f x y) (h' : ∀ a, g (k a) = l (f a)) :
    Agrees g (x.map k) (y.map l) :=
  h.bind fun a => congrArg Except.ok (h' a)

/-- A value that is worked out further agrees with the same check, if its view stays. -/
theorem map_left {g : γ → β} {k : α → γ} (h : Agrees f x y) (h' : ∀ a, g (k a) = f a) :
    Agrees g (x.map k) y := by
  cases x with
  | error e => exact h
  | ok a => exact (congrArg Except.ok (h' a)).trans h

end Agrees

/-! ## Operators agree with their checks -/

variable {p q : Quantity}

theorem agrees_checkDimension (p q : Quantity) (operator : String) :
    Agrees (fun _ => p.dimension) (p.checkDimension q operator)
      (commonDimension operator p.dimension q.dimension) := by
  unfold Quantity.checkDimension Quantity.sameDimension commonDimension
  by_cases same : p.dimension = q.dimension
  · rw [if_pos same, if_pos (decide_eq_true same)]
    rfl
  · rw [if_neg same, if_neg (by rwa [decide_eq_true_eq])]
    rfl

theorem agrees_combine (operator : String) (join : Float → Float → Float) :
    Agrees Quantity.dimension (Quantity.combine operator join p q)
      (commonDimension operator p.dimension q.dimension) :=
  (agrees_checkDimension p q operator).map_left fun _ => rfl

theorem agrees_compare (c : Quantity.Comparison) :
    Agrees (fun _ => p.dimension) (Operand.compare c (.quantity p) (.quantity q))
      (commonDimension c.operator p.dimension q.dimension) :=
  (agrees_checkDimension p q c.operator).map_left fun _ => rfl

theorem agrees_toFloat (x : Scalar) : Agrees (fun _ => ()) x.toFloat x.check := by
  cases x with
  | real x => rfl
  | whole n =>
    unfold Scalar.toFloat Scalar.check
    dsimp only
    cases Binary64.ofWhole? n <;> rfl

theorem agrees_root (n : Int) :
    Agrees Quantity.dimension (q.root n) (rootDimension q.dimension n) := by
  unfold Quantity.root Quantity.rootBy rootDimension
  cases q.dimension.root n <;> rfl

theorem UnaryOperator.agrees_apply (op : UnaryOperator) :
    Agrees Quantity.dimension (op.apply q) (op.check q.dimension) := by
  cases op with
  | pos | neg | abs | power n => exact .ok _
  | square =>
    have twice : q.dimension * q.dimension = q.dimension ^ (2 : Int) := by
      ext i
      rw [Dimension.exponent_mul, Dimension.exponent_pow]
      omega
    exact congrArg Except.ok twice
  | cube =>
    have thrice : q.dimension * q.dimension * q.dimension = q.dimension ^ (3 : Int) := by
      ext i
      rw [Dimension.exponent_mul, Dimension.exponent_mul, Dimension.exponent_pow]
      omega
    exact congrArg Except.ok thrice
  | root n => exact agrees_root n
  | sqrt => exact agrees_root 2

theorem BinaryOperator.agrees_apply (op : BinaryOperator) :
    Agrees Quantity.dimension (op.apply p q) (op.check p.dimension q.dimension) := by
  cases op with
  | add | sub => exact agrees_combine _ _
  | mul | div => exact .ok _

theorem NumberOperator.agrees_apply (op : NumberOperator) (x : Scalar) :
    Agrees Quantity.dimension (op.apply q x) (op.check q.dimension x) := by
  cases op <;> exact (agrees_toFloat x).map fun _ => rfl

/-! ## Calculations agree with their checks -/

/-- The dimension of an answer. -/
def answerDimension : Quantity ⊕ Bool → Option Dimension :=
  Sum.elim (fun q => some q.dimension) fun _ => none

/-- The dimension of a calculation, or how it fails, depends on the dimensions of its leaves. -/
theorem Calculation.agrees_evaluate (a : Calculation ι) (leaf : ι → Quantity) :
    Agrees Quantity.dimension (a.evaluate leaf) (a.check fun i => (leaf i).dimension) := by
  induction a with
  | leaf i => exact .ok _
  | unary op a ih => exact ih.bind fun _ => op.agrees_apply
  | binary op a b ih ih' => exact ih.bind fun _ => ih'.bind fun _ => op.agrees_apply
  | number op a x ih => exact ih.bind fun _ => op.agrees_apply x

theorem Question.agrees_evaluate (a : Question ι) (leaf : ι → Quantity) :
    Agrees answerDimension (a.evaluate leaf) (a.check fun i => (leaf i).dimension) := by
  cases a with
  | quantity a => exact (a.agrees_evaluate leaf).bind fun _ => .ok _
  | comparison c a b =>
    exact (a.agrees_evaluate leaf).bind fun _ => (b.agrees_evaluate leaf).bind fun _ =>
      (agrees_compare c).bind fun _ => .ok _

/-! ## Obstacles -/

/-- What is the case when a calculation with the plain numbers `xs` meets an obstacle. -/
def Obstacle.IsMet (xs : List Scalar) : Obstacle → Prop
  | .differ _ lhs rhs => lhs ≠ rhs
  | .noRoot fault => fault = .rootOfOrderZero ∨ fault = .notMultiple
  | .tooLarge n => .whole n ∈ xs ∧ Binary64.ofWhole? n = none

variable {o : Obstacle} {d e : Dimension} {xs ys : List Scalar}

theorem Obstacle.IsMet.mono (h : o.IsMet xs) (sub : xs ⊆ ys) : o.IsMet ys := by
  cases o with
  | differ | noRoot => exact h
  | tooLarge n => exact ⟨sub h.1, h.2⟩

theorem isMet_of_commonDimension {operator : String}
    (h : commonDimension operator d e = .error o) : o.IsMet xs := by
  unfold commonDimension at h
  split at h
  · cases h
  · next differ =>
    cases h
    exact differ

theorem isMet_of_rootDimension {n : Int} (h : rootDimension d n = .error o) : o.IsMet xs := by
  unfold rootDimension Dimension.root at h
  split at h
  · cases h
    exact .inl rfl
  · split at h
    · cases h
    · cases h
      exact .inr rfl

theorem UnaryOperator.isMet_of_check {op : UnaryOperator} (h : op.check d = .error o) :
    o.IsMet xs := by
  cases op with
  | root n => exact isMet_of_rootDimension h
  | sqrt => exact isMet_of_rootDimension h
  | _ => cases h

theorem BinaryOperator.isMet_of_check {op : BinaryOperator} (h : op.check d e = .error o) :
    o.IsMet xs := by
  cases op with
  | add | sub => exact isMet_of_commonDimension h
  | mul | div => cases h

theorem Scalar.isMet_of_check {x : Scalar} (h : x.check = .error o) : o.IsMet [x] := by
  cases x with
  | real x => cases h
  | whole n =>
    unfold Scalar.check at h
    cases near : Binary64.ofWhole? n with
    | some y => simp [near] at h
    | none =>
      simp only [near, Option.isSome_none, Bool.false_eq_true, if_false] at h
      cases h
      exact ⟨List.mem_singleton.2 rfl, near⟩

theorem NumberOperator.isMet_of_check {op : NumberOperator} {x : Scalar}
    (h : op.check d x = .error o) : o.IsMet [x] := by
  have refused : x.check = .error o := by
    cases checked : x.check with
    | error o' => cases op <;> simpa [check, checked, Except.map] using h
    | ok _ => cases op <;> simp [check, checked, Except.map] at h
  exact Scalar.isMet_of_check refused

theorem Calculation.isMet_of_check {a : Calculation ι} {leaf : ι → Dimension}
    (h : a.check leaf = .error o) : o.IsMet a.numbers := by
  induction a with
  | leaf i => cases h
  | unary op a ih =>
    rcases bind_eq_error h with inner | ⟨d, outer⟩
    · exact ih inner
    · exact op.isMet_of_check outer
  | binary op a b ih ih' =>
    rcases bind_eq_error h with left | ⟨d, rest⟩
    · exact (ih left).mono (List.subset_append_left _ _)
    · rcases bind_eq_error rest with right | ⟨e, outer⟩
      · exact (ih' right).mono (List.subset_append_right _ _)
      · exact op.isMet_of_check outer
  | number op a x ih =>
    rcases bind_eq_error h with inner | ⟨d, outer⟩
    · exact (ih inner).mono (List.subset_cons_self _ _)
    · exact (op.isMet_of_check outer).mono (List.cons_subset_cons _ (List.nil_subset _))

theorem Question.isMet_of_check {a : Question ι} {leaf : ι → Dimension}
    (h : a.check leaf = .error o) : o.IsMet a.numbers := by
  cases a with
  | quantity a =>
    rcases bind_eq_error h with inner | ⟨d, ⟨⟩⟩
    exact Calculation.isMet_of_check inner
  | comparison c a b =>
    rcases bind_eq_error h with left | ⟨d, rest⟩
    · exact (Calculation.isMet_of_check left).mono (List.subset_append_left _ _)
    · rcases bind_eq_error rest with right | ⟨e, rest⟩
      · exact (Calculation.isMet_of_check right).mono (List.subset_append_right _ _)
      · rcases bind_eq_error rest with differ | ⟨_, ⟨⟩⟩
        exact isMet_of_commonDimension differ

/-! ## Magnitudes do not matter -/

theorem Agrees.eq_error {α β : Type} {f : α → β} {x : Except Error α} {y : Except Obstacle β}
    {e : Error} (h : Agrees f x y) (failed : x = .error e) : ∃ o, y = .error o ∧ e = o.raised := by
  subst failed
  cases y with
  | error o => exact ⟨o, rfl, Except.error.inj h⟩
  | ok b => cases h

/-- On leaves of the same dimensions a question is answered in the same dimension or fails with
the same error, whatever the magnitudes are.  It fails only where the check of the dimensions meets
an obstacle, with the error that tells of it, if its dimensions can be written. -/
theorem Question.outcome_of_dimensions (a : Question ι) (dimensionOf : ι → Dimension)
    (x y : ι → Float) :
    (a.evaluate fun i => ⟨dimensionOf i, x i⟩).map answerDimension =
        (a.evaluate fun i => ⟨dimensionOf i, y i⟩).map answerDimension ∧
      ∀ e, (a.evaluate fun i => ⟨dimensionOf i, x i⟩) = .error e →
        ∃ o : Obstacle, a.check dimensionOf = .error o ∧ o.IsMet a.numbers ∧
          (o.IsWritable → e = o.error) := by
  have agrees (z : ι → Float) : Agrees answerDimension
      (a.evaluate fun i => ⟨dimensionOf i, z i⟩) (a.check dimensionOf) := a.agrees_evaluate _
  constructor
  · exact (agrees x).trans (agrees y).symm
  · intro e failed
    obtain ⟨o, met, rfl⟩ := (agrees x).eq_error failed
    exact ⟨o, met, isMet_of_check met, Obstacle.raised_eq_error⟩

theorem evaluate_timesNumber_of_far {n : Int} (far : Binary64.ofWhole? n = none) (i : ι)
    (leaf : ι → Quantity) :
    (Question.quantity (.number .timesNumber (.leaf i) (.whole n))).evaluate leaf =
      .error .wholeTooLarge := by
  have refused : (Scalar.whole n).toFloat = .error .wholeTooLarge := by
    rw [Scalar.toFloat, far]
  change (Scalar.whole n).toFloat.map _ >>= _ = _
  rw [refused]
  rfl

/-- The error of a whole number beyond the doubles is not about dimensions. -/
theorem Question.error_of_far_number :
    (Question.quantity (.number .timesNumber (.leaf ()) (.whole (10 ^ 400)))).evaluate
        (fun _ => ⟨.length, 1⟩) = .error .wholeTooLarge ∧
      Error.wholeTooLarge.family = .overflow := by
  have far : Binary64.ofWhole? (10 ^ 400) = none := by decide +kernel
  exact ⟨evaluate_timesNumber_of_far far () _, rfl⟩

end Metrology
