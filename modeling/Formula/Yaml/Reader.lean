import Formula.Yaml.Merge

/-!
# Documents in YAML

A text of YAML spells at most one document. Line ends of any kind are read as line
feeds, and a text that holds a character without visible form, other than spacing,
is refused as a whole. Where a mapping has a key twice, the later value counts.

Scalars are read level by level from the root. So of several values with a fault the
one nearest to the root is reported, and of those as near the first in the text.

A node that contains itself has no finite document. Its value is followed down to where
a node comes again, and there a mark says so. The values of the first two levels are
documents of their own, which are shown one by one; so what comes again is told only
from the second level on.

What is said of loading a configuration holds of any reader of documents. This is the one
that is run.
-/

namespace Formula.Yaml

/-- Reads carriage returns, alone or before a line feed, as line feeds. -/
def normalizeLineEnds : Text → Text
  | [] => []
  | '\r' :: '\n' :: rest => '\n' :: normalizeLineEnds rest
  | '\r' :: rest => '\n' :: normalizeLineEnds rest
  | c :: rest => c :: normalizeLineEnds rest

/-- Whether a text of YAML may hold a character. -/
def isAllowed (c : Char) : Bool :=
  let n := c.toNat
  n = 0x9 || n = 0xA || n = 0xD || 0x20 ≤ n && n ≤ 0x7E || n = 0x85
    || 0xA0 ≤ n && n ≤ 0xD7FF || 0xE000 ≤ n && n ≤ 0xFFFD || 0x10000 ≤ n

/-! ## Values with faults -/

/-- A value, or a fault with the level at which it is. -/
abbrev Outcome (α : Type) := Except (Nat × Fault) α

/-- Two values. Of two faults that of the lower level counts, or the first. -/
def both {α β : Type} (x : Outcome α) (y : Outcome β) : Outcome (α × β) :=
  match x, y with
  | .ok a, .ok b => .ok (a, b)
  | .ok _, .error fault => .error fault
  | .error fault, .ok _ => .error fault
  | .error first, .error second => .error (if second.1 < first.1 then second else first)

/-- Values in a row, with the fault that counts among all. -/
def together {α : Type} : List (Outcome α) → Outcome (List α)
  | [] => .ok []
  | x :: xs => (both x (together xs)).map fun (a, as) => a :: as

/-- A value whose fault is at a level. -/
def atLevel {α : Type} (level : Nat) (x : Except Fault α) : Outcome α :=
  x.mapError fun fault => (level, fault)

/-! ## Documents of nodes -/

/-- Puts the entries of a mapping together, later values of a key over earlier ones. -/
def collect (entries : List (Scalar × Document)) : List (Scalar × Document) :=
  entries.foldl (fun sofar (key, value) => Document.insert sofar key value) []

/-- The document that a node at a level spells. The numbers of the collections around it
are `around`, from the second level on. -/
def Graph.document (graph : Graph) : Nat → List Nat → Nat → Node → Outcome Document
  | 0, _, level, _ => .error (level, .wrongKind)
  | fuel + 1, around, level, node =>
    let inside (number : Nat) : List Nat := if level < 2 then [] else number :: around
    let part (number : Nat) : Node → Outcome Document :=
      graph.document fuel (inside number) (level + 1)
    let entries (number : Nat) (entries : List (Node × Node)) :
        Outcome (List (Scalar × Document)) := do
      let entries ← atLevel (level + 1) (graph.allEntries number entries)
      (together (entries.map fun (key, value) =>
        both (atLevel (level + 1) (graph.key key)) (part number value))).map collect
    match graph.scalar? node, graph.tagOf node, graph.follow node with
    | some outcome, _, _ => atLevel level (outcome.map .scalar)
    | none, .sequence, .sequence number _ items =>
      if around.contains number then .ok (.surrounding true)
      else (together (items.map (part number))).map .list
    | none, .mapping, .mapping number _ nodes =>
      if around.contains number then .ok (.surrounding false)
      else (entries number nodes).map .mapping
    | none, .set, .mapping number _ nodes =>
      (entries number nodes).map fun entries => .set (entries.map (·.1))
    | none, .orderedMapping, .sequence number _ items
    | none, .pairs, .sequence number _ items =>
      if around.contains number then .ok (.surrounding true)
      else
        let pair (item : Node) : Outcome Document :=
          match graph.follow item with
          | .mapping _ _ [(key, value)] =>
            (both (part number key) (part number value)).map fun (k, v) => .pair k v
          | _ => .error (level + 1, .wrongKind)
        (together (items.map pair)).map .list
    | none, _, _ => .error (level + 1, .wrongKind)

/-- The document that a text spells; `none` for a text without any. -/
def read (text : Text) : Except Fault (Option Document) := do
  let text := normalizeLineEnds text
  if !text.all isAllowed then .error .unprintable
  else
    match ← Graph.ofText text with
    | none => return none
    | some graph =>
      let document := graph.document (graph.size + 5) [] 0 graph.root
      return some (← document.mapError (·.2))

/-- The value that a text spells: its document, or the absent value. -/
def load (text : Text) : Except Fault Document :=
  (read text).map (·.getD (.scalar .null))

end Formula.Yaml
