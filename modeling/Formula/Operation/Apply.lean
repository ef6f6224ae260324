import Formula.Operation
import Formula.Number.Remainder
import Formula.Value

/-!
# Applying operations

Operations act on values and give a finite double or fail. Sums, differences, products
and quotients of two integers are exact before they are rounded, and so are signs,
magnitudes and comparisons; everything else is computed on doubles. Three things can go
wrong besides a wrong number of arguments.

* A division by zero: in `div`, and in `log` when the logarithm of the base is 0.
* An argument outside the domain: the logarithm of zero or of a negative number,
  the square root of a negative number, a circular function of an infinity, a
  remainder by zero or of an infinity, zero to a negative power, a negative number
  to a power that is not whole.
* A result out of range: one that is infinite or not a number, be it by overflow or
  because an argument was; or an integer too large for a double, be it the result or an
  argument that has to be one.

An argument that is not a number is in no domain check's way; it makes the result
not a number, and so out of range, unless the operation gives a number all the same
(a comparison, the sign, a power with exponent 0 or base 1).
-/

namespace Formula

/-- Why an operation gives no value. -/
inductive OperationFault where
  | argumentCount (expected got : Nat)
  | divisionByZero
  | domain
  | range
  deriving DecidableEq

/-- The text of a fault. -/
def OperationFault.message : OperationFault → String
  | argumentCount expected got => s!"expected {expected} argument(s), got {got}"
  | divisionByZero => "division by zero"
  | domain => "math domain error"
  | range => "result out of range"

/-- The number that stands for a truth value. -/
def truth (b : Bool) : Float := if b then 1.0 else 0.0

/-- Whether a value counts as true: every one but zero does. -/
def isTrue (value : Value) : Bool := !value.isZero

/-- A value, unless an argument is outside the domain. -/
def insideDomain (outside : Bool) (value : Float) : Except OperationFault Float :=
  if outside then .error .domain else .ok value

/-- The double of a value. -/
def Value.toFloat (value : Value) : Except OperationFault Float :=
  match value.toFloat? with
  | some x => .ok x
  | none => .error .range

/-- What a function on doubles makes of a value. -/
def Value.through (f : Float → Except OperationFault Float) (value : Value) :
    Except OperationFault Value := do
  return .float (← f (← value.toFloat))

/-- What a function on doubles makes of two values. -/
def Value.through₂ (f : Float → Float → Except OperationFault Float) (first second : Value) :
    Except OperationFault Value := do
  let x ← first.toFloat
  let y ← second.toFloat
  return .float (← f x y)

/-- The logarithm of a value, which zero and negative numbers do not have. That of an
integer too large for a double is the sum of the logarithms of a fraction and of a power
of two. -/
def logarithm (log : Float → Float) : Value → Except OperationFault Float
  | .float x => insideDomain (x <= 0.0) (log x)
  | .int n =>
    insideDomain (n <= 0)
      (match (Value.int n).toFloat? with
      | some x => log x
      | none =>
        let (fraction, exponent) := Number.fractionAndExponent n.natAbs
        log fraction + log 2.0 * Float.ofNat exponent)

namespace UnaryOperation

/-- The value of an operation, in range or not. -/
def compute : UnaryOperation → Value → Except OperationFault Value
  | negate, value => .ok value.neg
  | not, value => .ok (.float (truth value.isZero))
  | sqrt, value => value.through fun x => insideDomain (x < 0.0) x.sqrt
  | abs, value => .ok value.abs
  | sign, value =>
    .ok (if value.isPositive then 1.0 else if value.isNegative then .float (-1.0) else 0.0)
  | sq, .int n => .ok (.int (n * n))
  | sq, .float x => .ok (.float (x * x))
  | exp, value => value.through fun x => .ok x.exp
  | lg, value => .float <$> logarithm Float.log10 value
  | ln, value => .float <$> logarithm Float.log value
  | sin, value => value.through fun x => insideDomain x.isInf x.sin
  | cos, value => value.through fun x => insideDomain x.isInf x.cos
  | tan, value => value.through fun x => insideDomain x.isInf x.tan
  | sinh, value => value.through fun x => .ok x.sinh
  | cosh, value => value.through fun x => .ok x.cosh
  | tanh, value => value.through fun x => .ok x.tanh

end UnaryOperation

/-- A quotient, which a zero divisor does not have. -/
def quotient (x y : Float) : Except OperationFault Float :=
  if y == 0.0 then .error .divisionByZero else .ok (x / y)

/-- An operation that is exact on two integers, and otherwise computed on doubles. -/
def Value.arithmetic (ints : Int → Int → Except OperationFault Value)
    (floats : Float → Float → Except OperationFault Float) :
    Value → Value → Except OperationFault Value
  | .int m, .int n => ints m n
  | first, second => first.through₂ floats second

namespace BinaryOperation

/-- The quotient of two integers, rounded once. -/
def integerQuotient (m n : Int) : Except OperationFault Value :=
  if n = 0 then .error .divisionByZero
  else .ok (.float (Number.ofFraction (decide (m < 0) != decide (n < 0)) m.natAbs n.natAbs))

/-- The remainder of `x` by `y`, which has no value when `x` is infinite or `y` is
zero. An argument that is not a number goes before that, as in a sum. -/
def modulo (x y : Float) : Except OperationFault Float :=
  if x.isNaN || y.isNaN then .ok (x + y)
  else insideDomain (x.isInf || y == 0.0) (Number.remainder x y)

/-- The power of `x` to `y`. Finite arguments are outside the domain when the power
is not a number, or infinite because `x` is zero. -/
def power (x y : Float) : Except OperationFault Float :=
  let value := x.pow y
  insideDomain (x.isFinite && y.isFinite && (value.isNaN || value.isInf && x == 0.0)) value

/-- The logarithm of a value to a base: both have to have a logarithm, that of the base
is looked at last. -/
def logarithm (value base : Value) : Except OperationFault Float := do
  let ofValue ← Formula.logarithm Float.log value
  let ofBase ← Formula.logarithm Float.log base
  quotient ofValue ofBase

/-- The value of an operation, in range or not. -/
def compute : BinaryOperation → Value → Value → Except OperationFault Value
  | add => Value.arithmetic (fun m n => .ok (.int (m + n))) (fun x y => .ok (x + y))
  | sub => Value.arithmetic (fun m n => .ok (.int (m - n))) (fun x y => .ok (x - y))
  | mul => Value.arithmetic (fun m n => .ok (.int (m * n))) (fun x y => .ok (x * y))
  | div => Value.arithmetic integerQuotient quotient
  | mod => Value.through₂ modulo
  | pow => Value.through₂ power
  | greater => fun first second => .ok (.float (truth (second.less first)))
  | less => fun first second => .ok (.float (truth (first.less second)))
  | equal => fun first second => .ok (.float (truth (first.equals second)))
  | and => fun first second => .ok (.float (truth (isTrue first && isTrue second)))
  | log => fun value base => .float <$> logarithm value base

end BinaryOperation

/-- Refuses a double that is infinite or not a number. -/
def inRange (value : Float) : Except OperationFault Float :=
  if value.isFinite then .ok value else .error .range

/-- The double that a value is rounded to, if it is in range. -/
def Value.settle (value : Value) : Except OperationFault Float := value.toFloat >>= inRange

/-- The value of an operation on one argument. -/
def UnaryOperation.apply (op : UnaryOperation) (value : Value) : Except OperationFault Float :=
  op.compute value >>= Value.settle

/-- The value of an operation on two arguments. -/
def BinaryOperation.apply (op : BinaryOperation) (first second : Value) :
    Except OperationFault Float :=
  op.compute first second >>= Value.settle

/-- The value of an operation on a list of arguments, the leftmost first. -/
def Operation.apply : Operation → List Value → Except OperationFault Float
  | .unary op, [value] => op.apply value
  | .binary op, [first, second] => op.apply first second
  | op, args => .error (.argumentCount op.arity args.length)

theorem isFinite_of_inRange {value result : Float} (h : inRange value = .ok result) :
    result.isFinite = true := by
  unfold inRange at h
  split at h
  · rename_i hfinite
    cases h
    exact hfinite
  · cases h

end Formula
