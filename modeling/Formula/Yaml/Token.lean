import Formula.Yaml.Tag

/-!
# Tokens of YAML

The layout of a text is turned into brackets: a deeper indentation opens a block
sequence or a block mapping, and a shallower one closes it. So the tokens can be
read without columns.

Whether a scalar or a flow collection is a key shows only at the colon behind it.
Each flow level therefore remembers the last token that could be one, its
*candidate*; a colon puts the key bracket in front of it. A candidate has to be on
the line of the colon and at most 1024 characters before it. One that stands at the
indentation of a block mapping must become a key, for nothing else may stand there.

A text may go wrong behind tokens that already show that it is no document. So the
tokens before a fault are given together with it; a candidate that the fault leaves
undecided, and all behind it, are not among them.
-/

namespace Formula.Yaml

/-- A token. -/
inductive Token where
  | documentStart | documentEnd
  | blockSequence | blockMapping | blockEnd
  | flowSequence | flowSequenceEnd | flowMapping | flowMappingEnd
  | entry | flowEntry | key | value
  | anchor (name : Text)
  | alias (name : Text)
  | tag (tag : WrittenTag)
  | directive (directive : Directive)
  | scalar (text : Text) (isPlain : Bool)
  /-- A quoted scalar that is no text. -/
  | codes (ns : List Nat)
  deriving DecidableEq

/-- The token of a quoted scalar. -/
def Token.ofQuoted (ns : List Nat) : Token :=
  match textOf? ns with
  | some text => .scalar text false
  | none => .codes ns

/-- A token that may turn out to be the beginning of a key. -/
structure Candidate where
  /-- The number of tokens before it. -/
  token : Nat
  index : Nat
  line : Nat
  column : Nat
  /-- Whether it has to be a key. -/
  required : Bool

/-- The state of the reading of tokens. -/
structure Layout where
  place : Place
  tokens : List Token := []
  /-- The column of the innermost block; -1 outside of all blocks. -/
  indent : Int := -1
  /-- The columns of the blocks around it, from the inside out. -/
  outer : List Int := []
  /-- The candidate of each flow level, from the inside out. -/
  candidates : List (Option Candidate) := [none]
  /-- Whether a key may begin here. -/
  keyAllowed : Bool := true

namespace Layout

/-- Whether the place is within a flow collection. -/
def inFlow (layout : Layout) : Bool := 1 < layout.candidates.length

/-- Puts tokens out. -/
def put (layout : Layout) (tokens : List Token) : Layout :=
  { layout with tokens := layout.tokens ++ tokens }

/-- Puts tokens in front of the one with `count` tokens before it. -/
def putAt (layout : Layout) (count : Nat) (tokens : List Token) : Layout :=
  { layout with tokens := layout.tokens.take count ++ tokens ++ layout.tokens.drop count }

/-- Goes on by some characters. -/
def skip (layout : Layout) (count : Nat) : Layout :=
  { layout with place := layout.place.skip count }

/-- Says whether a key may begin at the next token. -/
def allowKey (layout : Layout) (keyAllowed : Bool) : Layout := { layout with keyAllowed }

/-! ## Blocks -/

/-- Opens a block at a column, if it is deeper than the innermost one. -/
def openBlock (layout : Layout) (column : Nat) : Layout × Bool :=
  if layout.indent < column then
    ({ layout with indent := column, outer := layout.indent :: layout.outer }, true)
  else (layout, false)

/-- The block that is left when those deeper than a column are closed, and their
number. -/
def closing (column : Int) (indent : Int) : List Int → Nat × Int × List Int
  | [] => (0, indent, [])
  | around :: outer =>
    if column < indent then
      let (count, left) := closing column around outer
      (count + 1, left)
    else (0, indent, around :: outer)

/-- Closes the blocks deeper than a column, outside of flow collections. -/
def closeBlocks (layout : Layout) (column : Int) : Layout :=
  if layout.inFlow then layout
  else
    let (count, indent, outer) := closing column layout.indent layout.outer
    { layout.put (List.replicate count .blockEnd) with indent, outer }

/-! ## Candidates -/

/-- The candidate of the innermost flow level. -/
def candidate? (layout : Layout) : Option Candidate := layout.candidates.head?.join

/-- Sets the candidate of the innermost flow level. -/
def setCandidate (layout : Layout) (candidate : Option Candidate) : Layout :=
  { layout with candidates := candidate :: layout.candidates.tail }

/-- Gives the candidate of the innermost flow level up. -/
def dropCandidate (layout : Layout) : Except Fault Layout :=
  if layout.candidate?.any (·.required) then .error .missingColon
  else .ok (layout.setCandidate none)

/-- Makes the next token the candidate, where a key may begin. -/
def saveCandidate (layout : Layout) : Except Fault Layout := do
  if layout.keyAllowed then
    let layout ← layout.dropCandidate
    return layout.setCandidate (some {
      token := layout.tokens.length
      index := layout.place.index
      line := layout.place.line
      column := layout.place.column
      required := !layout.inFlow && layout.indent == layout.place.column })
  else return layout

/-- Gives the candidates up that the place has left too far behind. -/
def dropStale (layout : Layout) : Except Fault Layout := do
  let candidates ← layout.candidates.mapM fun
    | none => .ok none
    | some candidate =>
      if candidate.line = layout.place.line ∧ layout.place.index ≤ candidate.index + 1024 then
        .ok (some candidate)
      else if candidate.required then .error .missingColon
      else .ok none
  return { layout with candidates }

/-! ## Tokens -/

/-- Skips spaces, comments and line ends. A key may begin on a new line outside of
flow collections. -/
def skipBlanks : Nat → Layout → Layout
  | 0, layout => layout
  | fuel + 1, layout =>
    let place := layout.place.skipWhile (· == ' ')
    let place :=
      if place.rest.head? = some '#' then place.skipWhile (!isBreak ·) else place
    match place.rest with
    | [] => { layout with place }
    | c :: _ =>
      if isBreak c then
        skipBlanks fuel
          { layout with place := place.next, keyAllowed := layout.keyAllowed || !layout.inFlow }
      else { layout with place }

/-- Goes to the next token. A byte order mark may begin the text. -/
def toToken (layout : Layout) : Layout :=
  let layout :=
    if layout.place.index = 0 ∧ (layout.place.rest.head?.any (·.toNat = 0xFEFF)) then
      layout.skip 1
    else layout
  skipBlanks (layout.place.rest.length + 1) layout

/-- A mark of the beginning or the end of a document. -/
def takeMark (layout : Layout) (token : Token) : Except Fault Layout := do
  let layout ← (layout.closeBlocks (-1)).dropCandidate
  return ((layout.allowKey false).skip 3).put [token]

/-- The beginning of a flow collection. -/
def takeOpening (layout : Layout) (token : Token) : Except Fault Layout := do
  let layout ← layout.saveCandidate
  return (({ layout with candidates := none :: layout.candidates }.allowKey true).skip 1).put
    [token]

/-- The end of a flow collection. -/
def takeClosing (layout : Layout) (token : Token) : Except Fault Layout := do
  let layout ← layout.dropCandidate
  if layout.inFlow then
    return (({ layout with candidates := layout.candidates.tail }.allowKey false).skip 1).put
      [token]
  else .error .unexpectedToken

/-- The comma of a flow collection. -/
def takeComma (layout : Layout) : Except Fault Layout := do
  let layout ← layout.dropCandidate
  return ((layout.allowKey true).skip 1).put [.flowEntry]

/-- Opens a block at the place, with a bracket, where a block may begin. -/
def beginBlock (layout : Layout) (bracket : Token) : Except Fault Layout :=
  if layout.inFlow then .ok layout
  else if !layout.keyAllowed then .error .misplaced
  else
    match layout.openBlock layout.place.column with
    | (layout, true) => .ok (layout.put [bracket])
    | (layout, false) => .ok layout

/-- The dash of an entry of a block sequence. -/
def takeEntry (layout : Layout) : Except Fault Layout := do
  let layout ← layout.beginBlock .blockSequence
  let layout ← (layout.allowKey true).dropCandidate
  return (layout.skip 1).put [.entry]

/-- The question mark of a key. -/
def takeKey (layout : Layout) : Except Fault Layout := do
  let layout ← layout.beginBlock .blockMapping
  let layout ← (layout.allowKey (!layout.inFlow)).dropCandidate
  return (layout.skip 1).put [.key]

/-- The colon of a value: it makes the candidate a key. -/
def takeValue (layout : Layout) : Except Fault Layout := do
  match layout.candidate? with
  | some candidate =>
    let layout := (layout.setCandidate none).putAt candidate.token [.key]
    let layout :=
      if layout.inFlow then layout
      else
        match layout.openBlock candidate.column with
        | (layout, true) => layout.putAt candidate.token [.blockMapping]
        | (layout, false) => layout
    return ((layout.allowKey false).skip 1).put [.value]
  | none =>
    let layout ← layout.beginBlock .blockMapping
    let layout ← (layout.allowKey (!layout.inFlow)).dropCandidate
    return (layout.skip 1).put [.value]

/-- A plain scalar. -/
def takePlain (layout : Layout) : Except Fault Layout := do
  let layout ← layout.saveCandidate
  let lexed := plain layout.inFlow (layout.indent + 1) layout.place
  return { layout.put [.scalar lexed.text true] with
    place := lexed.place
    keyAllowed := lexed.atLineStart }

/-- A quoted scalar. -/
def takeQuoted (layout : Layout) (quote : Char) : Except Fault Layout := do
  let layout ← layout.saveCandidate
  let (ns, place) ← quotedScalar quote layout.place
  return { layout.put [.ofQuoted ns] with place, keyAllowed := false }

/-- A block scalar. -/
def takeBlock (layout : Layout) (folded : Bool) : Except Fault Layout := do
  let layout ← layout.dropCandidate
  let lexed ← blockScalar folded layout.indent layout.place
  return { layout.put [.scalar lexed.text false] with place := lexed.place, keyAllowed := true }

/-- A part of a node before its value. -/
def takeProperty {α : Type} (layout : Layout) (read : Place → Except Fault (α × Place))
    (token : α → Token) : Except Fault Layout := do
  let layout ← layout.saveCandidate
  let (part, place) ← read layout.place
  return { layout.put [token part] with place, keyAllowed := false }

/-- A directive. -/
def takeDirectiveLine (layout : Layout) : Except Fault Layout := do
  let layout ← (layout.closeBlocks (-1)).dropCandidate
  let (directive, place) ← takeDirective layout.place
  return { layout.put [.directive directive] with place, keyAllowed := false }

/-- Whether a plain scalar can begin with `c`, before `next`. -/
def beginsPlain (inFlow : Bool) (c : Char) (next : Option Char) : Bool :=
  !endsWord (some c) && !"-?:,[]\x7b\x7d#&*!|>'\"%@\x60".toList.contains c
    || !endsWord next && (c == '-' || !inFlow && (c == '?' || c == ':'))

/-- Takes the token that begins with `c` at the place. -/
def take (layout : Layout) (c : Char) (next : Option Char) : Except Fault Layout :=
  let column := layout.place.column
  if c = '%' ∧ column = 0 then layout.takeDirectiveLine
  else if column = 0 ∧ layout.place.atTriple '-' then layout.takeMark .documentStart
  else if column = 0 ∧ layout.place.atTriple '.' then layout.takeMark .documentEnd
  else if c = '[' then layout.takeOpening .flowSequence
  else if c.toNat = 0x7B then layout.takeOpening .flowMapping
  else if c = ']' then layout.takeClosing .flowSequenceEnd
  else if c.toNat = 0x7D then layout.takeClosing .flowMappingEnd
  else if c = ',' then layout.takeComma
  else if c = '-' ∧ endsWord next then layout.takeEntry
  else if c = '?' ∧ (layout.inFlow ∨ endsWord next) then layout.takeKey
  else if c = ':' ∧ (layout.inFlow ∨ endsWord next) then layout.takeValue
  else if c = '*' then layout.takeProperty takeAnchor .alias
  else if c = '&' then layout.takeProperty takeAnchor .anchor
  else if c = '!' then layout.takeProperty takeTag .tag
  else if (c = '|' ∨ c = '>') ∧ !layout.inFlow then layout.takeBlock (c == '>')
  else if c.toNat = 0x27 ∨ c.toNat = 0x22 then layout.takeQuoted c
  else if beginsPlain layout.inFlow c next then layout.takePlain
  else .error .unexpectedCharacter

/-- Goes one token further; the second part says whether the text has ended. -/
def step (layout : Layout) : Except Fault (Layout × Bool) := do
  let layout ← layout.toToken.dropStale
  let layout := layout.closeBlocks layout.place.column
  match layout.place.rest with
  | [] => return (← (layout.closeBlocks (-1)).dropCandidate, true)
  | c :: rest => return (← layout.take c rest.head?, false)

/-- The tokens in front of all candidates that may still become keys. -/
def settled (layout : Layout) : List Token :=
  match layout.dropStale with
  | .error _ => layout.tokens
  | .ok layout =>
    let candidates := layout.candidates.filterMap (·.map (·.token))
    layout.tokens.take (candidates.foldl min layout.tokens.length)

/-- The tokens up to the end of the text, or the settled ones up to a fault. -/
def takeAll : Nat → Layout → List Token × Option Fault
  | 0, layout => (layout.settled, some .unexpectedCharacter)
  | fuel + 1, layout =>
    match layout.step with
    | .error fault => (layout.settled, some fault)
    | .ok (layout, true) => (layout.tokens, none)
    | .ok (layout, false) => takeAll fuel layout

end Layout

/-- The tokens of a text, and the fault that ends them. Each takes at least one
character, so there are no more of them than characters. -/
def Token.ofText (text : Text) : List Token × Option Fault :=
  Layout.takeAll (text.length + 1) { place := { rest := text } }

end Formula.Yaml
