import Formula.Yaml.Scalar
import Formula.Yaml.Token

/-!
# Nodes of YAML

A node is a scalar as it is spelled, a sequence of nodes, or a mapping of nodes to
nodes, each with its kind of value; or it is an alias, which stands for the node with
the anchor of its name. Where a key or a value is left out, a plain scalar without
text stands for it.

An alias may stand within the node that it stands for. So sequences and mappings are
numbered, to tell them apart, and the nodes of a text make a graph: one node, and a
list of those with an anchor.

The reader follows the brackets of the tokens. It is given more fuel than it needs:
no token is reached by more than four nested calls of its own.
-/

namespace Formula.Yaml

/-- A value of YAML, before its scalars are read. -/
inductive Node where
  | scalar (tag : Tag) (text : Text)
  /-- A text that is none, for it has half of a surrogate pair. -/
  | codes (tag : Tag) (ns : List Nat)
  | sequence (number : Nat) (tag : Tag) (items : List Node)
  | mapping (number : Nat) (tag : Tag) (entries : List (Node × Node))
  | alias (name : Text)

/-- What stands for a node that is left out. -/
def Node.empty : Node := .scalar .null []

/-- The node of a document, and those with an anchor. -/
structure Graph where
  root : Node
  anchors : List (Text × Node)
  /-- The number of sequences and mappings. -/
  size : Nat

/-! ## The state of the reading -/

/-- The state of the reading of nodes. -/
structure Reading where
  tokens : List Token
  /-- The fault behind the tokens. -/
  fault : Option Fault
  /-- What handles stand for. -/
  handles : List (Text × Text) := []
  /-- The names of the anchors so far. -/
  names : List Text := []
  /-- The nodes with an anchor that have been read to their end. -/
  anchors : List (Text × Node) := []
  /-- The number of sequences and mappings so far. -/
  size : Nat := 0

/-- A step of the reading. -/
abbrev Read := StateT Reading (Except Fault)

namespace Read

/-- The next token, if there is one. -/
def peek : Read (Option Token) := do
  let reading ← get
  match reading.tokens, reading.fault with
  | token :: _, _ => return some token
  | [], none => return none
  | [], some fault => throw fault

/-- Goes past the next token. -/
def drop : Read Unit := modify fun reading => { reading with tokens := reading.tokens.tail }

/-- Whether the next token is in a list. -/
def isNext (expected : List Token) : Read Bool := do return (← peek).any expected.contains

/-- Goes past the next token, which has to be a given one. -/
def expect (token : Token) : Read Unit := do
  if ← isNext [token] then drop else throw .unexpectedToken

/-- A number for a sequence or a mapping. -/
def number : Read Nat := do
  modify fun reading => { reading with size := reading.size + 1 }
  return (← get).size

/-! ## The parts of a node before its value -/

/-- Reads an anchor, if there is one. -/
def anchor? : Read (Option Text) := do
  match ← peek with
  | some (.anchor name) => do
    drop
    return some name
  | _ => return none

/-- Reads a tag, if there is one. -/
def tag? : Read (Option WrittenTag) := do
  match ← peek with
  | some (.tag tag) => do
    drop
    return some tag
  | _ => return none

/-- Reads an anchor and a tag, in either order. -/
def properties : Read (Option Text × Option WrittenTag) := do
  match ← anchor? with
  | some name => return (some name, ← tag?)
  | none =>
    match ← tag? with
    | some tag => return (← anchor?, some tag)
    | none => return (none, none)

/-- The kind that a written tag names; `none` if it leaves the kind open. -/
def kindOf (tag : WrittenTag) : Read (Option Tag) := do
  match tag.handle with
  | none => return if tag.isOpen then none else some (Tag.ofName tag.rest)
  | some handle =>
    match (← get).handles.lookup handle with
    | some meaning => return some (Tag.ofName (meaning ++ tag.rest))
    | none => throw .unknownHandle

/-- Takes a name for an anchor. -/
def reserve (name : Text) : Read Unit := do
  if (← get).names.contains name then throw .repeatedAnchor
  else modify fun reading => { reading with names := name :: reading.names }

/-- Keeps the node with an anchor. -/
def keep (anchor : Option Text) (node : Node) : Read Node := do
  match anchor with
  | none => return node
  | some name =>
    modify fun reading => { reading with anchors := (name, node) :: reading.anchors }
    return node

/-- The kind of a scalar between quotes: a text, unless a tag says otherwise, and as
plain under a tag that leaves the kind open. -/
def kindOfScalar (isPlain : Bool) (tag : Option WrittenTag) (kind : Option Tag) (text : Text) :
    Tag :=
  kind.getD (if isPlain || tag.isSome then Tag.ofPlain text else .text)

end Read

/-! ## Nodes -/

open Read

mutual

/-- Reads a node. Blocks are read only where `block` says so, and a sequence without
brackets of its own where `indentless` does. -/
def readNode (block indentless : Bool) : Nat → Read Node
  | 0 => throw .unexpectedToken
  | fuel + 1 => do
    match ← peek with
    | some (.alias name) => do
      drop
      if (← get).names.contains name then return .alias name else throw .unknownAnchor
    | _ => do
      let (anchor, tag) ← properties
      let kind ← (tag.mapM kindOf).map Option.join
      let next ← peek
      if let some name := anchor then reserve name
      let node ← readContent block indentless anchor tag kind next fuel
      keep anchor node

/-- Reads what follows the anchor and the tag of a node. -/
def readContent (block indentless : Bool) (anchor : Option Text) (tag : Option WrittenTag)
    (kind : Option Tag) (next : Option Token) : Nat → Read Node
  | 0 => throw .unexpectedToken
  | fuel + 1 => do
    match next, block, indentless with
    | some .entry, _, true => do
      return .sequence (← number) (kind.getD .sequence) (← readBareItems fuel)
    | some (.scalar text isPlain), _, _ => do
      drop
      return .scalar (kindOfScalar isPlain tag kind text) text
    | some (.codes ns), _, _ => do
      drop
      return .codes (kind.getD .text) ns
    | some .flowSequence, _, _ => do
      drop
      return .sequence (← number) (kind.getD .sequence) (← readFlowItems true fuel)
    | some .flowMapping, _, _ => do
      drop
      return .mapping (← number) (kind.getD .mapping) (← readFlowEntries true fuel)
    | some .blockSequence, true, _ => do
      drop
      return .sequence (← number) (kind.getD .sequence) (← readItems fuel)
    | some .blockMapping, true, _ => do
      drop
      return .mapping (← number) (kind.getD .mapping) (← readEntries fuel)
    | _, _, _ =>
      if anchor.isSome || tag.isSome then return .scalar (kind.getD .null) []
      else throw .unexpectedToken

/-- Reads a node, or none where one of `absent` follows. -/
def readOptional (absent : List Token) (block : Bool) : Nat → Read Node
  | 0 => throw .unexpectedToken
  | fuel + 1 => do
    if ← isNext absent then return .empty else readNode block block fuel

/-- Reads the value of an entry, if there is one. -/
def readValue (absent : List Token) (block : Bool) : Nat → Read Node
  | 0 => throw .unexpectedToken
  | fuel + 1 => do
    if ← isNext [.value] then do
      drop
      readOptional absent block fuel
    else return .empty

/-- Reads the items of a block sequence. -/
def readItems : Nat → Read (List Node)
  | 0 => throw .unexpectedToken
  | fuel + 1 => do
    if ← isNext [.entry] then do
      drop
      let item ←
        if ← isNext [.entry, .blockEnd] then pure .empty else readNode true false fuel
      return item :: (← readItems fuel)
    else do
      expect .blockEnd
      return []

/-- Reads the items of a sequence that has no brackets of its own. -/
def readBareItems : Nat → Read (List Node)
  | 0 => throw .unexpectedToken
  | fuel + 1 => do
    if ← isNext [.entry] then do
      drop
      let item ←
        if ← isNext [.entry, .key, .value, .blockEnd] then pure .empty
        else readNode true false fuel
      return item :: (← readBareItems fuel)
    else return []

/-- Reads the entries of a block mapping. -/
def readEntries : Nat → Read (List (Node × Node))
  | 0 => throw .unexpectedToken
  | fuel + 1 => do
    if ← isNext [.key] then do
      drop
      let key ← readOptional [.key, .value, .blockEnd] true fuel
      let value ← readValue [.key, .value, .blockEnd] true fuel
      return (key, value) :: (← readEntries fuel)
    else do
      expect .blockEnd
      return []

/-- Reads the items of a flow sequence. An item with a key is a mapping of one entry. -/
def readFlowItems (isFirst : Bool) : Nat → Read (List Node)
  | 0 => throw .unexpectedToken
  | fuel + 1 => do
    if ← isNext [.flowSequenceEnd] then do
      drop
      return []
    else do
      if !isFirst then expect .flowEntry
      if ← isNext [.key] then do
        drop
        let number ← number
        let key ← readOptional [.value, .flowEntry, .flowSequenceEnd] false fuel
        let value ← readValue [.flowEntry, .flowSequenceEnd] false fuel
        return .mapping number .mapping [(key, value)] :: (← readFlowItems false fuel)
      else if ← isNext [.flowSequenceEnd] then do
        drop
        return []
      else do
        let item ← readNode false false fuel
        return item :: (← readFlowItems false fuel)

/-- Reads the entries of a flow mapping. -/
def readFlowEntries (isFirst : Bool) : Nat → Read (List (Node × Node))
  | 0 => throw .unexpectedToken
  | fuel + 1 => do
    if ← isNext [.flowMappingEnd] then do
      drop
      return []
    else do
      if !isFirst then expect .flowEntry
      if ← isNext [.key] then do
        drop
        let key ← readOptional [.value, .flowEntry, .flowMappingEnd] false fuel
        let value ← readValue [.flowEntry, .flowMappingEnd] false fuel
        return (key, value) :: (← readFlowEntries false fuel)
      else if ← isNext [.flowMappingEnd] then do
        drop
        return []
      else do
        let key ← readNode false false fuel
        return (key, .empty) :: (← readFlowEntries false fuel)

end

/-! ## Documents -/

/-- What the handles without a directive stand for. -/
def standardHandles : List (Text × Text) := [("!".toList, "!".toList), ("!!".toList, standardTags)]

/-- Reads the directives before a document: at most one version, which has to be of the
first kind, and no handle twice. -/
def readDirectives (hasVersion : Bool) : Nat → Read Unit
  | 0 => throw .unexpectedToken
  | fuel + 1 => do
    match ← peek with
    | some (.directive directive) => do
      drop
      match directive with
      | .version major =>
        if hasVersion || major ≠ 1 then throw .badDirective else readDirectives true fuel
      | .handle name meaning =>
        if ((← get).handles.lookup name).isSome then throw .badDirective
        else do
          modify fun reading => { reading with handles := (name, meaning) :: reading.handles }
          readDirectives hasVersion fuel
      | .other => readDirectives hasVersion fuel
    | _ => return ()

/-- Whether a document has a node of its own behind its mark. -/
def hasNode : Read Bool := do
  match ← peek with
  | none | some (.directive _) | some .documentStart | some .documentEnd => return false
  | _ => return true

/-- Reads the one node of a text, if there is any token. A mark may stand before the
node, directives before the mark, and any number of end marks behind the node. -/
def readRoot (fuel : Nat) : Read (Option Node) := do
  let standard : Read Unit :=
    modify fun reading => { reading with handles := reading.handles ++ standardHandles }
  match ← peek with
  | none => return none
  | some (.directive _) | some .documentStart => do
    readDirectives false fuel
    standard
    expect .documentStart
    if ← hasNode then return some (← readNode true false fuel) else return some .empty
  | _ => do
    standard
    return some (← readNode true false fuel)

/-- Goes to the end of a text, past end marks only. -/
def readEnd : Nat → Read Unit
  | 0 => throw .unexpectedToken
  | fuel + 1 => do
    match ← peek with
    | none => return ()
    | some .documentEnd => do
      drop
      readEnd fuel
    | _ => throw .unexpectedToken

/-- The nodes of a text; `none` for a text without any token. -/
def Graph.ofText (text : Text) : Except Fault (Option Graph) := do
  let (tokens, fault) := Token.ofText text
  let fuel := 5 * tokens.length + 5
  let read : Read (Option Node) := do
    let root ← readRoot fuel
    readEnd fuel
    return root
  let (root, reading) ← read.run { tokens, fault }
  return root.map fun root => { root, anchors := reading.anchors, size := reading.size }

end Formula.Yaml
