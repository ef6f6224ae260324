/-!
# Ranges of code points

A property of characters is given as a list of code point ranges, both ends
included, disjoint and in increasing order. Membership walks the list and stops
at the first range that begins above the code point.
-/

namespace Formula.Text

/-- Whether `n` lies in one of the ranges, which are in increasing order. -/
def inRanges : List (Nat × Nat) → Nat → Bool
  | [], _ => false
  | (first, last) :: later, n =>
    if n < first then false else n ≤ last || inRanges later n

end Formula.Text
