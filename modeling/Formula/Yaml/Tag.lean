import Formula.Number.Numeral
import Formula.Yaml.Block

/-!
# Names, tags and directives

A node may have a name, by which it is referred to later, and a tag, which says what
kind of value it is. A tag is written between angle brackets, or as a handle with a
rest; directives before the document say what the handles stand for. In a tag a percent
sign and two hexadecimal digits spell an octet of a character.

Of the tags only those of the standard kinds of value mean anything here.
-/

namespace Formula.Yaml

/-- The kind of value that a node is. -/
inductive Tag where
  | null | bool | int | float | timestamp | octets | text
  | sequence | mapping | set | orderedMapping | pairs
  /-- The key of a merge. -/
  | merge
  /-- The key of the main value of a mapping. -/
  | value
  | unknown
  deriving DecidableEq

/-- What the tags of the standard kinds begin with. -/
def standardTags : Text := "tag:yaml.org,2002:".toList

/-- The kinds by the last part of their tags. -/
def tagNames : List (Text × Tag) :=
  [("null", .null), ("bool", .bool), ("int", .int), ("float", .float),
    ("timestamp", .timestamp), ("binary", .octets), ("str", .text), ("seq", .sequence),
    ("map", .mapping), ("set", .set), ("omap", .orderedMapping), ("pairs", .pairs),
    ("merge", .merge), ("value", .value)].map fun (name, tag) => (name.toList, tag)

/-- The kind that a whole tag names. -/
def Tag.ofName (name : Text) : Tag :=
  if standardTags.isPrefixOf name then
    (tagNames.lookup (name.drop standardTags.length)).getD .unknown
  else .unknown

/-! ## Names -/

/-- Whether a character may stand in the name of an anchor or of a directive. -/
def isNameChar (c : Char) : Bool := c.isAlphanum || c == '-' || c == '_'

/-- Reads a name, which is not empty. -/
def takeName (place : Place) : Except Fault (Text × Place) :=
  let name := place.rest.takeWhile isNameChar
  if name.isEmpty then .error .unexpectedCharacter else .ok (name, place.skip name.length)

/-- Reads the name of an anchor or alias; the place is at its indicator. -/
def takeAnchor (place : Place) : Except Fault (Text × Place) := do
  let (name, place) ← takeName place.next
  if endsWord place.rest.head? || place.rest.head?.any "?:,]\x7d%@\x60".toList.contains then
    return (name, place)
  else .error .unexpectedCharacter

/-! ## Tags -/

/-- Whether a character may stand in a tag. -/
def isTagChar (c : Char) : Bool :=
  c.isAlphanum || "-;/?:@&=+$,_.!~*()[]%".toList.contains c || c.toNat = 0x27

/-- The octets that the characters of a tag spell. -/
def tagOctets : Text → Except Fault (List UInt8)
  | [] => .ok []
  | '%' :: a :: b :: rest =>
    match hexDigit? a, hexDigit? b with
    | some high, some low => (tagOctets rest).map (UInt8.ofNat (16 * high + low) :: ·)
    | _, _ => .error .badEscape
  | c :: rest =>
    if c = '%' then .error .badEscape else (tagOctets rest).map (UInt8.ofNat c.toNat :: ·)

/-- Reads the rest of a tag, which is not empty. -/
def takeTagRest (place : Place) : Except Fault (Text × Place) := do
  let spelled := place.rest.takeWhile isTagChar
  if spelled.isEmpty then .error .unexpectedCharacter
  else
    match String.fromUTF8? ⟨(← tagOctets spelled).toArray⟩ with
    | some text => return (text.toList, place.skip spelled.length)
    | none => .error .badEscape

/-- Reads a handle: an exclamation mark, or a name between two of them. A space behind
the first ends the handle. -/
def takeHandle (place : Place) : Except Fault (Text × Place) :=
  match place.rest with
  | '!' :: rest =>
    if rest.head? = some ' ' then .ok (['!'], place.next)
    else
      let name := rest.takeWhile isNameChar
      if (rest.drop name.length).head? = some '!' then
        .ok ('!' :: name ++ ['!'], place.skip (name.length + 2))
      else .error .unexpectedCharacter
  | _ => .error .unexpectedCharacter

/-- A tag as it is written: with or without a handle. -/
structure WrittenTag where
  handle : Option Text
  rest : Text
  deriving DecidableEq

/-- The tag that leaves the kind of value open. -/
def WrittenTag.isOpen (tag : WrittenTag) : Bool := tag.handle.isNone && tag.rest == ['!']

/-- Reads what stands behind the exclamation mark of a tag at a place. -/
def takeTagParts (place : Place) : Except Fault (WrittenTag × Place) :=
  match place.rest.drop 1 with
  | '<' :: _ => do
    let (rest, place) ← takeTagRest (place.skip 2)
    if place.rest.head? = some '>' then return (⟨none, rest⟩, place.next)
    else .error .unexpectedCharacter
  | rest =>
    if endsWord rest.head? then .ok (⟨none, ['!']⟩, place.next)
    else do
      let (handle, place) ←
        if (rest.takeWhile fun c => !endsPart (some c)).contains '!' then takeHandle place
        else .ok (['!'], place.next)
      let (rest, place) ← takeTagRest place
      return (⟨some handle, rest⟩, place)

/-- Reads the tag at a place. -/
def takeTag (place : Place) : Except Fault (WrittenTag × Place) := do
  let (tag, place) ← takeTagParts place
  if endsPart place.rest.head? then return (tag, place) else .error .unexpectedCharacter

/-! ## Directives -/

/-- A line that says how a document is read. -/
inductive Directive where
  /-- The version of YAML. Only its first number counts. -/
  | version (major : Nat)
  /-- What a handle stands for. -/
  | handle (name : Text) (meaning : Text)
  | other
  deriving DecidableEq

/-- Reads a number of decimal digits. -/
def takeDigits (place : Place) : Except Fault (Nat × Place) :=
  let digits := place.rest.takeWhile Char.isDigit
  if digits.isEmpty then .error .unexpectedCharacter
  else .ok (Number.digitsValue digits, place.skip digits.length)

/-- Reads a version. -/
def takeVersion (place : Place) : Except Fault (Directive × Place) := do
  let (major, place) ← takeDigits (place.skipWhile (· == ' '))
  if place.rest.head? ≠ some '.' then .error .unexpectedCharacter
  else
    let (_, place) ← takeDigits place.next
    if endsPart place.rest.head? then return (.version major, place)
    else .error .unexpectedCharacter

/-- Reads a handle and what it stands for. -/
def takeMeaning (place : Place) : Except Fault (Directive × Place) := do
  let (name, place) ← takeHandle (place.skipWhile (· == ' '))
  if place.rest.head? ≠ some ' ' then .error .unexpectedCharacter
  else
    let (meaning, place) ← takeTagRest (place.skipWhile (· == ' '))
    if endsPart place.rest.head? then return (.handle name meaning, place)
    else .error .unexpectedCharacter

/-- Reads the directive at a place, which is at its percent sign. -/
def takeDirective (place : Place) : Except Fault (Directive × Place) := do
  let (name, place) ← takeName place.next
  if !endsPart place.rest.head? then .error .unexpectedCharacter
  else
    let (directive, place) ←
      if name = "YAML".toList then takeVersion place
      else if name = "TAG".toList then takeMeaning place
      else .ok (.other, place.skipWhile (!isBreak ·))
    return (directive, ← finishLine place)

end Formula.Yaml
