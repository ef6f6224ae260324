import Formula.Document
import Formula.Number.Numeral

/-!
# Timestamps

A timestamp is a date of three numbers with dashes between, `2001-02-03`, and behind it
there may be a time of day and an offset, `2001-02-03T04:05:06.7+08:30`. Blanks may
stand in place of the `T`, and before the offset. Of the fraction of a second six
digits count.

The numbers are ASCII digits: four for the year, two for minutes and seconds, and one
or two for the others. Without a tag a date alone has two digits for month and day.
-/

namespace Formula.Yaml

/-- The numbers of a timestamp. -/
structure Timestamp where
  year : Nat
  month : Nat
  day : Nat
  /-- Hour, minute, second and microsecond. -/
  time : Option (Nat × Nat × Nat × Nat) := none
  /-- The offset in minutes. -/
  offset : Option Int := none

namespace Timestamp

/-- Takes `least` to `most` digits off, as many as there are. -/
def takeNumber (least most : Nat) (text : Text) : Option (Nat × Text) :=
  let digits := (text.takeWhile Char.isDigit).take most
  if digits.length < least then none else some (Number.digitsValue digits, text.drop digits.length)

/-- Takes a character off. -/
def takeMark (mark : Char) : Text → Option Text
  | [] => none
  | c :: rest => if c = mark then some rest else none

/-- Whether a character is a blank in a timestamp. -/
def isBlank (c : Char) : Bool := c == ' ' || c == '\t'

/-- The offset that a text is, blanks before it included; the text may be empty. -/
def offset? (text : Text) : Option (Option Int) :=
  match text, text.dropWhile isBlank with
  | [], _ => some none
  | _, ['Z'] => some (some 0)
  | _, sign :: rest => do
    if sign ≠ '+' ∧ sign ≠ '-' then none
    let (hours, rest) ← takeNumber 1 2 rest
    let minutes ←
      match rest with
      | [] => some 0
      | rest => do
        let (minutes, rest) ← takeNumber 2 2 (← takeMark ':' rest)
        if rest.isEmpty then some minutes else none
    let total : Int := (60 * hours + minutes : Nat)
    return some (if sign = '-' then -total else total)
  | _, [] => none

/-- The microseconds that the fraction of a second is, and what is left of the text. -/
def takeFraction : Text → Nat × Text
  | '.' :: rest =>
    let digits := rest.takeWhile Char.isDigit
    (Number.digitsValue ((digits ++ List.replicate 6 '0').take 6), rest.drop digits.length)
  | text => (0, text)

/-- The time of day and the offset that a text is. -/
def time? (text : Text) : Option ((Nat × Nat × Nat × Nat) × Option Int) := do
  let (hour, rest) ← takeNumber 1 2 text
  let (minute, rest) ← takeNumber 2 2 (← takeMark ':' rest)
  let (second, rest) ← takeNumber 2 2 (← takeMark ':' rest)
  let (microsecond, rest) := takeFraction rest
  return ((hour, minute, second, microsecond), ← offset? rest)

/-- The timestamp that a text is. -/
def ofText? (text : Text) : Option Timestamp := do
  let (year, rest) ← takeNumber 4 4 text
  let (month, rest) ← takeNumber 1 2 (← takeMark '-' rest)
  let (day, rest) ← takeNumber 1 2 (← takeMark '-' rest)
  match rest with
  | [] => return { year, month, day }
  | c :: more =>
    let body := if c = 'T' ∨ c = 't' then more else rest.dropWhile isBlank
    if body.length = rest.length then none
    else do
      let (time, offset) ← time? body
      return { year, month, day, time := some time, offset }

/-- Whether a text is a timestamp without a tag saying so. -/
def isPlain (text : Text) : Bool :=
  match ofText? text with
  | some stamp => stamp.time.isSome || text.length == 10
  | none => false

/-- The date or moment of a timestamp. -/
def toScalar (stamp : Timestamp) : Except CalendarFault Scalar :=
  match stamp.time with
  | none => (Date.ofParts stamp.year stamp.month stamp.day).map .date
  | some (hour, minute, second, microsecond) =>
    (Moment.ofParts stamp.year stamp.month stamp.day hour minute second microsecond
      stamp.offset).map .moment

end Timestamp

end Formula.Yaml
