import Formula.Expression
import Formula.Operation.Apply
import Formula.Text.Lowercase

/-!
# Evaluation

An expression is evaluated from left to right with a stack of values: an operand
puts its value on top, an operation takes as many values as it has arguments and
puts the double that it gives there. One value has to be left at the end.

Before that, the variables get their values: those of their slots, unless a binding
says otherwise. A binding is for the variable that is spelled as it is, or else for
the one spelled as its lower-case form. Bindings are taken in order, so the last of
several for one variable counts. The value of a slot is taken as it is, that of a
binding as a double: an integer is rounded, and one too large for a double is refused.
-/

namespace Formula

/-- The values of variables, by name. -/
abbrev Values := List (Text × Value)

/-- Why an expression has no value. -/
inductive EvaluationFault where
  /-- A binding for no variable of the expression. -/
  | unknownVariable (name : Text)
  /-- A binding with an integer too large for a double. It is not an error of evaluation
  either, and is passed on as `noSlot` is. -/
  | tooLarge
  /-- An operation with fewer values on the stack than it has arguments. -/
  | notEnoughOperands (op : Operation) (got : Nat)
  /-- More or fewer than one value at the end. -/
  | valuesLeft (count : Nat)
  | operation (op : Operation) (fault : OperationFault)
  /-- A mention of a variable that has no slot. It cannot arise in an expression that
  was parsed, and is not an error of evaluation: it is passed on where those are
  reported as results. -/
  | noSlot (name : Text)
  deriving DecidableEq

/-- The text of a fault. -/
def EvaluationFault.message : EvaluationFault → String
  | unknownVariable name => s!"Unknown variable '{String.ofList name}'"
  | tooLarge => "int too large to convert to float"
  | notEnoughOperands op got =>
    s!"Not enough operands for '{op.name}' (expected {op.arity}, got {got})"
  | valuesLeft count => s!"Malformed expression: {count} values left after evaluation"
  | operation op fault => s!"{op.name}: {fault.message}"
  | noSlot name => s!"No variable '{String.ofList name}'"

/-- Whether a fault is reported as the outcome of an evaluation. -/
def EvaluationFault.isReported : EvaluationFault → Bool
  | noSlot _ | tooLarge => false
  | _ => true

/-! ## Values of variables -/

/-- Replaces the value of a name that has one. -/
def Values.set (values : Values) (name : Text) (value : Value) : Values :=
  values.map fun entry => if entry.1 == name then (name, value) else entry

/-- The values of the slots. -/
def Values.ofSlots (slots : List Slot) : Values := slots.map fun slot => (slot.name, slot.value)

/-- Takes one binding in, with its value as a double. -/
def Values.bind (values : Values) (binding : Text × Value) : Except EvaluationFault Values :=
  let key := if (values.lookup binding.1).isSome then binding.1 else Text.lower binding.1
  if (values.lookup key).isSome then
    match binding.2.toFloat? with
    | some x => .ok (values.set key (.float x))
    | none => .error .tooLarge
  else .error (.unknownVariable binding.1)

/-- The values of the variables of an expression under some bindings. -/
def Expression.values (expression : Expression) (bindings : List (Text × Value)) :
    Except EvaluationFault Values :=
  bindings.foldlM Values.bind (Values.ofSlots expression.slots)

/-! ## The stack -/

/-- The value of an operand. -/
def Operand.value (values : Values) : Operand → Except EvaluationFault Value
  | .literal _ value => .ok (.float value)
  | .constant c => .ok (.float c.value)
  | .variable name =>
    match values.lookup name with
    | some value => .ok value
    | none => .error (.noSlot name)

/-- The value of an operation, with the operation named in a fault. -/
def Operation.value (op : Operation) (args : List Value) : Except EvaluationFault Value :=
  (Value.float <$> op.apply args).mapError (.operation op)

/-- Takes one element in. The top of the stack is its head. -/
def Element.run (values : Values) (stack : List Value) :
    Element → Except EvaluationFault (List Value)
  | .operand o => do return (← o.value values) :: stack
  | .operation op =>
    if stack.length < op.arity then .error (.notEnoughOperands op stack.length)
    else do return (← op.value (stack.take op.arity).reverse) :: stack.drop op.arity

theorem Element.run_unary (values : Values) (op : UnaryOperation) (x : Value)
    (stack : List Value) :
    Element.run values (x :: stack) (.operation (.unary op)) =
      (do return (← Operation.value (.unary op) [x]) :: stack) := by
  simp [Element.run, Operation.arity]

theorem Element.run_binary (values : Values) (op : BinaryOperation) (x y : Value)
    (stack : List Value) :
    Element.run values (y :: x :: stack) (.operation (.binary op)) =
      (do return (← Operation.value (.binary op) [x, y]) :: stack) := by
  have h : ¬ stack.length + 1 + 1 < 2 := by omega
  simp [Element.run, Operation.arity, h]

/-- The one value left on the stack. -/
def onlyValue : List Value → Except EvaluationFault Value
  | [value] => .ok value
  | stack => .error (.valuesLeft stack.length)

/-- The value of a row of elements. -/
def evaluateElements (values : Values) (elements : List Element) :
    Except EvaluationFault Value := do
  onlyValue (← elements.foldlM (Element.run values) [])

/-! ## Expressions -/

/-- Turns the faults that are reported into outcomes; the others stay errors. -/
def reported {α : Type} (outcome : Except EvaluationFault α) :
    Except EvaluationFault (Except EvaluationFault α) :=
  match outcome with
  | .ok value => .ok (.ok value)
  | .error fault => if fault.isReported then .ok (.error fault) else .error fault

namespace Expression

/-- The value of an expression. -/
def evaluate (expression : Expression) (bindings : List (Text × Value)) :
    Except EvaluationFault Value := do
  evaluateElements (← expression.values bindings) expression.elements

/-- Whether an expression gives a number other than zero. -/
def evaluateAsBoolean (expression : Expression) (bindings : List (Text × Value)) :
    Except EvaluationFault Bool := do
  return isTrue (← expression.evaluate bindings)

/-- The outcome of an evaluation, a value or a fault. -/
def result (expression : Expression) (bindings : List (Text × Value)) :
    Except EvaluationFault (Except EvaluationFault Value) :=
  reported (expression.evaluate bindings)

/-- The outcome of an evaluation as a truth value. -/
def booleanResult (expression : Expression) (bindings : List (Text × Value)) :
    Except EvaluationFault (Except EvaluationFault Bool) :=
  reported (expression.evaluateAsBoolean bindings)

end Expression

/-- Whether the residual of an equality agrees with its relation. An equation
agrees when the residual is within `tolerance` of zero. -/
def Relation.holds (relation : Relation) (residual tolerance : Value) : Bool :=
  match relation with
  | .equal => residual.abs.atMost tolerance
  | .greater => residual.isPositive
  | .less => residual.isNegative

end Formula
