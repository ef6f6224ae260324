import Formula.Text
import Formula.Number.Decimal
import Formula.Number.Units

/-!
# The shortest decimal text of a double

A finite double is written with the fewest significant digits that read back as
the same double, and of those as the decimal nearest to its exact value.

For a number of digits, the decimals with that many form a grid around the value.
Only the two neighbours of the value on the grid have to be looked at: if any
decimal of the grid reads back, one of them does. Seventeen digits always suffice.

The digits are set out positionally when the decimal exponent is at least -4 and
below 16, with a point in every case, and otherwise with one digit before the point
and an exponent of at least two digits and a sign.
-/

namespace Formula.Number

/-- The exponent of the highest decimal digit of `n` units, which is not zero. -/
def leadingExponent (n : Nat) : Int :=
  let whole := n / unitsPerOne
  if whole ≠ 0 then ((Nat.toDigits 10 whole).length : Int) - 1
  else
    match (List.range 330).find? (fun k => unitsPerOne ≤ n * Nat.pow 10 k) with
    | some k => -(k : Int)
    | none => 0

/-- `n` units in steps of `10 ^ exponent`, as a fraction of natural numbers. -/
def stepsOf (n : Nat) (exponent : Int) : Nat × Nat :=
  if exponent < 0 then (n * Nat.pow 10 exponent.natAbs, unitsPerOne)
  else (n, unitsPerOne * Nat.pow 10 exponent.natAbs)

/-- The decimal of `count` significant digits that reads back as the double of `n`
units, if there is one; the nearer of two, and of two as near the even one. -/
def decimalOf? (n count : Nat) : Option Decimal :=
  let exponent := leadingExponent n + 1 - count
  let (steps, per) := stepsOf n exponent
  let below : Decimal := ⟨steps / per, exponent⟩
  let above : Decimal := ⟨steps / per + 1, exponent⟩
  let readsBack (d : Decimal) : Bool := magnitudeBits d.toFloat == bitsOfUnits n
  let twice := 2 * (steps % per)
  let nearer := if twice < per ∨ twice = per ∧ below.digits % 2 = 0 then below else above
  let farther := if nearer.digits = below.digits then above else below
  if readsBack nearer then some nearer else if readsBack farther then some farther else none

/-- The shortest decimal of `n` units. -/
def shortest (n : Nat) : Decimal :=
  ((List.range 17).findSome? fun k => decimalOf? n (k + 1)).getD ⟨0, 0⟩

/-- Drops the zeros at the end of a row of digits. -/
def trimZeros (digits : Text) : Text := (digits.reverse.dropWhile (· == '0')).reverse

/-- The text of a positive number with the significant digits `digits`, the first
of which has the decimal exponent `leading`. -/
def layOut (digits : Text) (leading : Int) : Text :=
  let zeros (k : Nat) : Text := List.replicate k '0'
  if leading < -4 ∨ 16 ≤ leading then
    let head := digits.take 1
    let tail := digits.drop 1
    let places := Nat.toDigits 10 leading.natAbs
    head ++ (if tail.isEmpty then [] else '.' :: tail)
      ++ ['e', if leading < 0 then '-' else '+'] ++ zeros (2 - places.length) ++ places
  else if leading < 0 then
    '0' :: '.' :: zeros (leading.natAbs - 1) ++ digits
  else
    let whole := leading.natAbs + 1
    let tail := digits.drop whole
    let places := if tail.isEmpty then ['0'] else tail
    digits.take whole ++ zeros (whole - digits.length) ++ '.' :: places

/-- The shortest text of a double. -/
def shortestText (x : Float) : Text :=
  if x.isNaN then ['n', 'a', 'n']
  else
    let magnitude : Text :=
      if x.isInf then ['i', 'n', 'f']
      else if units x = 0 then ['0', '.', '0']
      else
        let digits := Nat.toDigits 10 (shortest (units x)).digits
        layOut (trimZeros digits) ((shortest (units x)).exponent + digits.length - 1)
    if isSigned x then '-' :: magnitude else magnitude

end Formula.Number
