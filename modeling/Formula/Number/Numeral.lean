import Formula.Text

/-!
# Numerals

A numeral is a row of ASCII digits with at most one point: `3`, `3.`, `3.25`,
`.25`. A point alone is none, and there is neither sign nor exponent. Its value is
the double nearest to the decimal it spells; a numeral too large for any finite
double has an infinite value.
-/

namespace Formula.Number

/-- The number that a row of decimal digits spells. -/
def digitsValue (digits : Text) : Nat :=
  digits.foldl (fun n c => 10 * n + (c.toNat - 48)) 0

/-- The digits before and after the point of a numeral; `none` if `text` is none. -/
def splitNumeral? (text : Text) : Option (Text × Text) :=
  let whole := text.takeWhile Char.isDigit
  match text.dropWhile Char.isDigit with
  | [] => if whole.isEmpty then none else some (whole, [])
  | c :: places =>
    if c = '.' ∧ places.all Char.isDigit ∧ (whole ≠ [] ∨ places ≠ []) then
      some (whole, places)
    else none

/-- The value of a numeral; `none` if `text` is none. -/
def numeral? (text : Text) : Option Float :=
  (splitNumeral? text).map fun (whole, places) =>
    Float.ofScientific (digitsValue (whole ++ places)) true places.length

end Formula.Number
