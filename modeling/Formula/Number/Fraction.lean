import Formula.Number.Units

/-!
# The double nearest to a fraction

A fraction of natural numbers is rounded once, in units: to as many bits as a double
has, or to a whole unit if the fraction is that small. Of two doubles as near the one
with the even last bit counts.
-/

namespace Formula.Number

/-- The whole number nearest to `m / n`; of two as near the even one. -/
def roundedQuotient (m n : Nat) : Nat :=
  let quotient := m / n
  let twice := 2 * (m % n)
  if twice < n ∨ twice = n ∧ quotient % 2 = 0 then quotient else quotient + 1

/-- The number of units at which doubles end. The double of so many is infinite. -/
def unitsBeyond : Nat := 1 <<< 2098

/-- The double nearest to `m / n`, with the given sign; infinite if no finite one is
near. -/
def ofFraction (signed : Bool) (m n : Nat) : Float :=
  let units := m * unitsPerOne
  let surplus := (units / n).log2 - fractionBits
  ofUnits signed (min (roundedQuotient units (n <<< surplus) <<< surplus) unitsBeyond)

/-- A positive whole number as a fraction from a half up, but below one, of a power of
two, and the exponent of that power. The fraction is rounded. -/
def fractionAndExponent (n : Nat) : Float × Nat :=
  let exponent := n.log2 + 1
  let fraction := ofFraction false n (1 <<< exponent)
  if fraction == 1.0 then (0.5, exponent + 1) else (fraction, exponent)

end Formula.Number
