import Formula.Yaml.Fault
import Formula.Yaml.Place

/-!
# Scalars as they are spelled

A scalar is spelled plainly or between quotes, and may go over several lines. A
single line break in it becomes a space, and of several the first is dropped.

A plain scalar ends before a comment, before a colon that ends a word, in a flow
collection before an indicator, and outside of one at a line that is indented no
deeper than its surroundings. Between single quotes a quote is written twice;
between double quotes a backslash begins an escape. An escape may name half of a
surrogate pair, so what stands between quotes is a row of code points, and a text only
if all of them are characters.
-/

namespace Formula.Yaml

/-- The characters that end a plain scalar within a flow collection. -/
def flowIndicators : List Char := ",[]\x7b\x7d".toList

/-- A scalar that has been read, and the place behind it. -/
structure Lexed where
  text : Text
  place : Place
  /-- Whether the last thing read was a line break. -/
  atLineStart : Bool := false

/-! ## Folding of line breaks -/

/-- What the line break `c` leaves when `breaks` follow it. -/
def foldBreaks (c : Char) (breaks : Text) : Text :=
  if breakText c ≠ ['\n'] then breakText c ++ breaks
  else if breaks.isEmpty then [' ']
  else breaks

/-! ## Plain scalars -/

/-- Whether a colon before `next` ends a plain scalar. -/
def endsKey (inFlow : Bool) (next : Option Char) : Bool :=
  endsWord next || inFlow && next.any flowIndicators.contains

/-- The part of a plain scalar that a text begins with, up to the next space. -/
def plainRun (inFlow : Bool) : Text → Text
  | [] => []
  | c :: rest =>
    if isSpacing c || isBreak c || c == ':' && endsKey inFlow rest.head?
        || inFlow && (c == '?' || flowIndicators.contains c) then []
    else c :: plainRun inFlow rest

/-- Line breaks and spaces up to the next word; `none` if a mark of a document
stands at the beginning of a line. -/
def plainBreaks : Nat → Place → Option Text × Place
  | 0, place => (some [], place)
  | fuel + 1, place =>
    match place.rest with
    | [] => (some [], place)
    | c :: _ =>
      if c = ' ' then plainBreaks fuel place.next
      else if isBreak c then
        if place.next.atMark then (none, place.next)
        else
          let (breaks, behind) := plainBreaks fuel place.next
          (breaks.map (breakText c ++ ·), behind)
      else (some [], place)

/-- What stands between two parts of a plain scalar. The text is empty where the
scalar ends for certain. -/
def plainGap (place : Place) : Lexed :=
  let spaces := place.rest.takeWhile (· == ' ')
  let behind := place.skip spaces.length
  match behind.rest with
  | [] => ⟨spaces, behind, false⟩
  | c :: _ =>
    if !isBreak c then ⟨spaces, behind, false⟩
    else if behind.next.atMark then ⟨[], behind.next, true⟩
    else
      match plainBreaks behind.rest.length behind.next with
      | (none, place) => ⟨[], place, true⟩
      | (some breaks, place) => ⟨foldBreaks c breaks, place, true⟩

/-- A plain scalar whose later lines are indented by `indent` at least. -/
def plainFrom (inFlow : Bool) (indent : Int) : Nat → Place → Lexed
  | 0, place => ⟨[], place, false⟩
  | fuel + 1, place =>
    let run := if place.rest.head? = some '#' then [] else plainRun inFlow place.rest
    if run.isEmpty then ⟨[], place, false⟩
    else
      let gap := plainGap (place.skip run.length)
      if gap.text.isEmpty || gap.place.rest.head? == some '#'
          || !inFlow && gap.place.column < indent then
        { gap with text := run }
      else
        let more := plainFrom inFlow indent fuel gap.place
        if more.text.isEmpty then { gap with text := run }
        else { more with text := run ++ gap.text ++ more.text }

/-- The plain scalar at a place. -/
def plain (inFlow : Bool) (indent : Int) (place : Place) : Lexed :=
  plainFrom inFlow indent (place.rest.length + 1) place

/-! ## Quoted scalars -/

/-- The characters with an escape of one letter. -/
def shortEscapes : List (Char × Nat) :=
  [('0', 0x00), ('a', 0x07), ('b', 0x08), ('t', 0x09), ('\t', 0x09), ('n', 0x0A), ('v', 0x0B),
    ('f', 0x0C), ('r', 0x0D), ('e', 0x1B), (' ', 0x20), ('"', 0x22), ('/', 0x2F), ('\\', 0x5C),
    ('N', 0x85), ('_', 0xA0), ('L', 0x2028), ('P', 0x2029)]

/-- The number of hexadecimal digits behind the letter of an escape. -/
def escapeWidth? : Char → Option Nat
  | 'x' => some 2
  | 'u' => some 4
  | 'U' => some 8
  | _ => none

/-- The value of a hexadecimal digit. -/
def hexDigit? (c : Char) : Option Nat :=
  if c.isDigit then some (c.toNat - 48)
  else if 'a' ≤ c ∧ c ≤ 'f' then some (c.toNat - 87)
  else if 'A' ≤ c ∧ c ≤ 'F' then some (c.toNat - 55)
  else none

/-- The code point that `width` hexadecimal digits at the beginning of a text name. -/
def hexCode (width : Nat) (text : Text) : Except Fault Nat :=
  let digits := text.take width
  match digits.mapM hexDigit? with
  | some values =>
    let code := values.foldl (fun n d => 16 * n + d) 0
    if digits.length < width then .error .badEscape
    else if 0x110000 ≤ code then .error (.value (.noCharacter code))
    else .ok code
  | none => .error .badEscape

/-- Line breaks within quotes, with the spaces around them dropped. -/
def quotedBreaks : Nat → Place → Except Fault (Text × Place)
  | 0, place => .ok ([], place)
  | fuel + 1, place =>
    if place.atMark then .error .openQuote
    else
      let behind := place.skipWhile isSpacing
      match behind.rest with
      | [] => .ok ([], behind)
      | c :: _ =>
        if isBreak c then do
          let (breaks, place) ← quotedBreaks fuel behind.next
          return (breakText c ++ breaks, place)
        else .ok ([], behind)

/-- Spaces and line breaks within quotes. -/
def quotedGap (place : Place) : Except Fault (Text × Place) :=
  let spaces := place.rest.takeWhile isSpacing
  let behind := place.skip spaces.length
  match behind.rest with
  | [] => .error .openQuote
  | c :: _ =>
    if isBreak c then do
      let (breaks, place) ← quotedBreaks behind.rest.length behind.next
      return (foldBreaks c breaks, place)
    else .ok (spaces, behind)

/-- The code points of a text. -/
def codesOf (text : Text) : List Nat := text.map Char.toNat

/-- The text of code points that are all characters. -/
def textOf? (codes : List Nat) : Option Text :=
  if codes.all Nat.isValidChar then some (codes.map Char.ofNat) else none

/-- What an escape stands for; `place` is behind the backslash. An escaped line
break stands for nothing. -/
def escaped (place : Place) : Except Fault (List Nat × Place) :=
  match place.rest with
  | [] => .error .badEscape
  | c :: rest =>
    match shortEscapes.lookup c, escapeWidth? c with
    | some code, _ => .ok ([code], place.next)
    | none, some width => do
      let code ← hexCode width rest
      return ([code], place.skip (1 + width))
    | none, none =>
      if isBreak c then do
        let (breaks, behind) ← quotedBreaks place.rest.length place.next
        return (codesOf breaks, behind)
      else .error .badEscape

/-- The rest of a quoted scalar; the place is behind the opening quote. -/
def quotedFrom (quote : Char) : Nat → Place → Except Fault (List Nat × Place)
  | 0, _ => .error .openQuote
  | fuel + 1, place =>
    match place.rest with
    | [] => .error .openQuote
    | c :: rest =>
      if c = quote ∧ quote.toNat = 0x27 ∧ rest.head? = some quote then do
        let (more, behind) ← quotedFrom quote fuel (place.skip 2)
        return (quote.toNat :: more, behind)
      else if c = quote then .ok ([], place.next)
      else do
        let (part, behind) ←
          if isSpacing c || isBreak c then do
            let (gap, behind) ← quotedGap place
            pure (codesOf gap, behind)
          else if c = '\\' ∧ quote.toNat = 0x22 then escaped place.next
          else .ok ([c.toNat], place.next)
        let (more, behind) ← quotedFrom quote fuel behind
        return (part ++ more, behind)

/-- The code points of the quoted scalar at a place, which is at its opening quote. -/
def quotedScalar (quote : Char) (place : Place) : Except Fault (List Nat × Place) :=
  quotedFrom quote (place.rest.length + 1) place.next

end Formula.Yaml
