import Formula.Number.Units

/-!
# The remainder of two doubles

The remainder of `x` by `y` is what is left of `x` after the greatest whole
multiple of `y` not beyond it has been taken away, and it has the sign of `x`. It
is always a double, so it is computed exactly, on units.
-/

namespace Formula.Number

/-- The remainder of a finite `x` by a finite `y` other than zero, or by an
infinite one, which leaves `x` as it is. -/
def remainder (x y : Float) : Float :=
  if y.isInf then x else ofUnits (isSigned x) (units x % units y)

end Formula.Number
