/-!
# Decimals

A decimal is a whole number of tenths, hundredths and so on, or of tens, hundreds
and so on. It is read as the double nearest to it.
-/

namespace Formula.Number

/-- The number `digits * 10 ^ exponent`. -/
structure Decimal where
  digits : Nat
  exponent : Int

/-- The double nearest to a decimal; infinite if no finite one is near. Exponents at
which the outcome is certain, zero or infinite, are cut down to the first of their
kind, so that no power of ten is ever longer than the digits call for. -/
def Decimal.toFloat (d : Decimal) : Float :=
  let least : Int := -(400 + (Nat.toDigits 10 d.digits).length)
  let exponent := max least (min 400 d.exponent)
  Float.ofScientific d.digits (exponent < 0) exponent.natAbs

end Formula.Number
