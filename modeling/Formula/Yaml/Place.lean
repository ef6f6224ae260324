import Formula.Text

/-!
# Places in a YAML text

A place is what is left of a text, with the number of characters, lines and columns
before it. Indentation is told from columns, so a place has to know them.

The line breaks of YAML are the line feed and three rarer characters; carriage
returns have been turned into line feeds before. A byte order mark takes no column.
-/

namespace Formula.Yaml

/-- Whether a character ends a line. -/
def isBreak (c : Char) : Bool := [0x0A, 0x85, 0x2028, 0x2029].contains c.toNat

/-- Whether a character separates words within a line. -/
def isSpacing (c : Char) : Bool := c == ' ' || c == '\t'

/-- What a line break leaves in a scalar: a next-line character becomes a line feed. -/
def breakText (c : Char) : Text := if c.toNat = 0x85 then ['\n'] else [c]

/-- Whether a word ends before `next`, which is `none` at the end of the text. -/
def endsWord : Option Char → Bool
  | none => true
  | some c => isSpacing c || isBreak c

/-- What is left of a text, and what has gone before. -/
structure Place where
  rest : Text
  index : Nat := 0
  line : Nat := 0
  column : Nat := 0

namespace Place

/-- The place one character further on. -/
def next (place : Place) : Place :=
  match place.rest with
  | [] => place
  | c :: rest =>
    { rest
      index := place.index + 1
      line := if isBreak c then place.line + 1 else place.line
      column :=
        if isBreak c then 0
        else if c.toNat = 0xFEFF then place.column
        else place.column + 1 }

/-- The place some characters further on. -/
def skip : Nat → Place → Place
  | 0, place => place
  | count + 1, place => skip count place.next

/-- The place behind the characters that satisfy a test. -/
def skipWhile (test : Char → Bool) (place : Place) : Place :=
  skip (place.rest.takeWhile test).length place

/-- Whether three times the character `c` stands here, as a word. -/
def atTriple (c : Char) (place : Place) : Bool :=
  place.rest.take 3 == [c, c, c] && endsWord (place.rest.drop 3).head?

/-- Whether a mark of the beginning or the end of a document stands here. -/
def atMark (place : Place) : Bool := place.atTriple '-' || place.atTriple '.'

end Place

end Formula.Yaml
