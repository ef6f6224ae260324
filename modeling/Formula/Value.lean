import Formula.Number.Fraction

/-!
# Values

What is computed is a double.  What is given may also be an integer, of any size: a slot
keeps an integer as it is, and a binding turns it into the double nearest to it, which an
integer that is too large does not have.

An integer and a double are compared exactly, as the numbers that they are.
-/

namespace Formula

/-- A number: a double, or an integer of any size. -/
inductive Value where
  | int (n : Int)
  | float (x : Float)
  deriving DecidableEq

/-- A numeral with a point is a double. -/
instance : OfScientific Value where
  ofScientific digits isNegative exponent :=
    .float (OfScientific.ofScientific digits isNegative exponent)

namespace Value

/-- The double that a value is, or that is nearest to it; `none` if the value is too large
an integer. -/
def toFloat? : Value → Option Float
  | int n => if (Float.ofInt n).isFinite then some (Float.ofInt n) else none
  | float x => some x

/-- Whether there is a double that a value is, or that is nearest to it. -/
def fits (value : Value) : Bool := value.toFloat?.isSome

/-- A value as a double, if there is one; an integer that is too large stays as it is. -/
def rounded (value : Value) : Value := (value.toFloat?.map Value.float).getD value

@[simp] theorem toFloat?_float (x : Float) : (float x).toFloat? = some x := rfl

@[simp] theorem fits_float (x : Float) : (float x).fits = true := rfl

@[simp] theorem rounded_float (x : Float) : (float x).rounded = .float x := rfl

theorem toFloat?_eq_none_iff {value : Value} : value.toFloat? = none ↔ value.fits = false := by
  rw [fits, Option.isSome_eq_false_iff, Option.isNone_iff_eq_none]

/-- What has a double becomes that double. -/
theorem exists_of_fits {value : Value} (h : value.fits = true) :
    ∃ x, value.toFloat? = some x ∧ value.rounded = .float x := by
  obtain ⟨x, hx⟩ := Option.isSome_iff_exists.1 h
  exact ⟨x, hx, by rw [rounded, hx]; rfl⟩

/-- Whether a value is finite.  Every integer is. -/
def isFinite : Value → Bool
  | int _ => true
  | float x => x.isFinite

/-- Rounding keeps a value finite. -/
theorem isFinite_rounded {value : Value} (h : value.isFinite = true) :
    value.rounded.isFinite = true := by
  unfold rounded
  cases value with
  | float x => exact h
  | int n =>
      rw [toFloat?]
      split
      · assumption
      · rfl

/-! ## Signs -/

/-- Whether a value is zero. -/
def isZero : Value → Bool
  | int n => n == 0
  | float x => x == 0.0

/-- Whether a value is greater than zero. -/
def isPositive : Value → Bool
  | int n => n > 0
  | float x => x > 0.0

/-- Whether a value is less than zero. -/
def isNegative : Value → Bool
  | int n => n < 0
  | float x => x < 0.0

/-- The value with the other sign. -/
def neg : Value → Value
  | int n => .int (-n)
  | float x => .float (-x)

/-- The magnitude of a value. -/
def abs : Value → Value
  | int n => .int n.natAbs
  | float x => .float x.abs

/-! ## Comparisons -/

/-- How an integer compares with a double, in units; `none` if the double is not a number. -/
def order? (n : Int) (x : Float) : Option Ordering :=
  if x.isNaN then none
  else if x.isInf then some (if Number.isSigned x then .gt else .lt)
  else some (compare (n * Number.unitsPerOne) (Number.signedUnits x))

/-- Compares two values: two doubles as `floats` says, and others by the orders that
`admits`. -/
def compares (floats : Float → Float → Bool) (admits : Ordering → Bool) : Value → Value → Bool
  | int m, int n => admits (compare m n)
  | int m, float y => (order? m y).any admits
  | float x, int n => (order? n x).any fun order => admits order.swap
  | float x, float y => floats x y

/-- Whether two values are equal. -/
def equals : Value → Value → Bool := compares (· == ·) (· == .eq)

/-- Whether a value is less than another. -/
def less : Value → Value → Bool := compares (· < ·) (· == .lt)

/-- Whether a value is at most another. -/
def atMost : Value → Value → Bool := compares (· <= ·) Ordering.isLE

end Value

end Formula
