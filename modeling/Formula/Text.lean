/-!
# Text

Sources, names and literals are lists of code points. A position in a source is a
number of code points, so a list makes positions, lengths and the splitting of a
source plain list arithmetic; `String` is kept for messages.
-/

namespace Formula

/-- A sequence of code points, none of which is half of a surrogate pair: such a half is
no character. A document may still hold some, as the numbers that they are. -/
abbrev Text := List Char

/-- Texts in a row, with a comma and a space between any two. -/
def Text.commaSeparated (parts : List Text) : Text := [',', ' '].intercalate parts

/-- Whether a text stands before another in an alphabetical list, by code points, or
is equal to it. -/
def Text.precedes : Text → Text → Bool
  | [], _ => true
  | _ :: _, [] => false
  | c :: s, d :: t => c.toNat < d.toNat || c == d && Text.precedes s t

end Formula
