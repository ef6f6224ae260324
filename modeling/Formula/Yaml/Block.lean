import Formula.Yaml.Lexeme

/-!
# Block scalars

A block scalar is a run of lines that are indented deeper than what stands around
them. Its first line holds the indicator, and then a sign and a digit in either order.
The digit gives the indentation, which otherwise is that of the deepest line of spaces
up to and including the first line with text. The sign says what becomes of the line
breaks at the end: none is kept under a minus, all are under a plus, and one without a
sign.

In a literal scalar all other line breaks are kept. In a folded one a break between two
lines of text that both begin at the indentation becomes a space, or is dropped where
empty lines follow it.
-/

namespace Formula.Yaml

/-- Whether a line, or a word on it, ends before `next`. A tab ends no word here. -/
def endsPart : Option Char → Bool
  | none => true
  | some c => c == ' ' || isBreak c

/-- What the first line of a block scalar says. -/
structure BlockHeader where
  /-- Whether the line breaks at the end are all kept or all dropped. -/
  keep : Option Bool := none
  /-- The depth of the lines below what stands around them. -/
  depth : Option Nat := none

/-- What a sign says about the line breaks at the end. -/
def keepOf : Char → Option Bool
  | '+' => some true
  | '-' => some false
  | _ => none

/-- Reads a sign, if there is one. -/
def takeKeep (place : Place) : Option Bool × Place :=
  match place.rest.head?.bind keepOf with
  | some keep => (some keep, place.next)
  | none => (none, place)

/-- Reads a digit, if there is one. It may not be zero. -/
def takeDepth (place : Place) : Except Fault (Option Nat × Place) :=
  match place.rest with
  | [] => .ok (none, place)
  | c :: _ =>
    if !c.isDigit then .ok (none, place)
    else if c = '0' then .error .unexpectedCharacter
    else .ok (some (c.toNat - 48), place.next)

/-- Reads the sign and the digit behind the indicator. -/
def takeHeader (place : Place) : Except Fault (BlockHeader × Place) := do
  let (first, place) := takeKeep place
  let (depth, place) ← takeDepth place
  let (second, place) := if first.isNone && depth.isSome then takeKeep place else (none, place)
  if endsPart place.rest.head? then return ({ keep := first <|> second, depth }, place)
  else .error .unexpectedCharacter

/-- Goes to the next line, past spaces and a comment only. -/
def finishLine (place : Place) : Except Fault Place :=
  let place := place.skipWhile (· == ' ')
  let place := if place.rest.head? = some '#' then place.skipWhile (!isBreak ·) else place
  match place.rest with
  | [] => .ok place
  | c :: _ => if isBreak c then .ok place.next else .error .unexpectedCharacter

/-- Skips spaces up to a column. -/
def skipToColumn (column : Nat) (place : Place) : Place :=
  place.skip ((place.rest.takeWhile (· == ' ')).take (column - place.column)).length

/-- The breaks of the empty lines at a place, and the place at the column on the line
behind them. -/
def emptyLines (column : Nat) : Nat → Place → Text × Place
  | 0, place => ([], place)
  | fuel + 1, place =>
    let place := skipToColumn column place
    match place.rest with
    | [] => ([], place)
    | c :: _ =>
      if isBreak c then
        let (breaks, behind) := emptyLines column fuel place.next
        (breakText c ++ breaks, behind)
      else ([], place)

/-- The breaks of the lines of spaces at a place, the deepest column that their spaces
reach, and the place behind them. -/
def leadingLines : Nat → Place → Text × Nat × Place
  | 0, place => ([], 0, place)
  | fuel + 1, place =>
    let behind := place.skipWhile (· == ' ')
    let reached := if behind.index = place.index then 0 else behind.column
    match behind.rest with
    | [] => ([], reached, behind)
    | c :: _ =>
      if isBreak c then
        let (breaks, deepest, last) := leadingLines fuel behind.next
        (breakText c ++ breaks, max reached deepest, last)
      else ([], reached, behind)

/-- The text of a block scalar without its end, and what stands at the end. -/
structure BlockText where
  text : Text
  /-- The break behind the last line with text. -/
  lastBreak : Text
  /-- The breaks of the empty lines behind it. -/
  breaks : Text
  place : Place

/-- What stands for the break `ended` between a line and the next one with text, apart
from the `breaks` of the empty lines between them. -/
def joint (folded startsWithText : Bool) (ended breaks : Text) (next : Option Char) : Text :=
  if folded && ended == ['\n'] && startsWithText && !next.any isSpacing then
    if breaks.isEmpty then [' '] else []
  else ended

/-- The lines from a place on, `breaks` being those of the empty lines before it. -/
def blockLines (folded : Bool) (column : Nat) : Nat → Text → Place → BlockText
  | 0, breaks, place => ⟨[], [], breaks, place⟩
  | fuel + 1, breaks, place =>
    if place.column ≠ column ∨ place.rest.isEmpty then ⟨[], [], breaks, place⟩
    else
      let line := place.rest.takeWhile (!isBreak ·)
      let behind := place.skip line.length
      let ended := (behind.rest.head?.map breakText).getD []
      let (later, next) := emptyLines column behind.rest.length behind.next
      if next.column = column ∧ !next.rest.isEmpty then
        let more := blockLines folded column fuel later next
        let between :=
          joint folded (!place.rest.head?.any isSpacing) ended later next.rest.head?
        { more with text := breaks ++ line ++ between ++ more.text }
      else ⟨breaks ++ line, ended, later, next⟩

/-- The block scalar at a place, which is at its indicator; the innermost block around
it is at the column `indent`. -/
def blockScalar (folded : Bool) (indent : Int) (place : Place) : Except Fault Lexed := do
  let (header, place) ← takeHeader place.next
  let place ← finishLine place
  let least := max 1 (indent + 1).toNat
  let fuel := place.rest.length + 1
  let (column, breaks, place) :=
    match header.depth with
    | some depth =>
      let column := least + depth - 1
      (column, emptyLines column fuel place)
    | none =>
      let (breaks, deepest, place) := leadingLines fuel place
      (max least deepest, breaks, place)
  let block := blockLines folded column fuel breaks place
  let text :=
    match header.keep with
    | some false => block.text
    | none => block.text ++ block.lastBreak
    | some true => block.text ++ block.lastBreak ++ block.breaks
  return ⟨text, block.place, true⟩

end Formula.Yaml
