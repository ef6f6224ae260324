import Formula.Yaml.Node

/-!
# Aliases and merges

An alias is followed to the node with its anchor. A mapping may have merge keys, whose
values are mappings or sequences of mappings: their entries come before its own, so that
its own count more. Of a sequence the first mapping comes last and so counts most.

A mapping that is merged into itself gives its own entries only, so the merging ends.
-/

namespace Formula.Yaml

namespace Graph

/-- The node that a node stands for. -/
def follow (graph : Graph) : Node → Node
  | .alias name => (graph.anchors.lookup name).getD .empty
  | node => node

/-- The kind of value of a node. -/
def tagOf (graph : Graph) (node : Node) : Tag :=
  match graph.follow node with
  | .scalar tag _ | .codes tag _ | .sequence _ tag _ | .mapping _ tag _ => tag
  | .alias _ => .unknown

/-- The entries of the mapping of a number, those merged into it included; `within` are
the numbers of the mappings that it is being merged into. -/
def entriesOf (graph : Graph) : Nat → List Nat → Nat → List (Node × Node) →
    Except Fault (List (Node × Node))
  | 0, _, _, _ => .error .badMerge
  | fuel + 1, within, number, entries => do
    let (merges, own) := entries.partition fun (key, _) => graph.tagOf key = .merge
    let merged (node : Node) : Except Fault (List (Node × Node)) :=
      match graph.follow node with
      | .mapping inner _ entries => graph.entriesOf fuel (number :: within) inner entries
      | _ => .error .badMerge
    if within.contains number then return own
    else
      let parts ← merges.mapM fun (_, value) =>
        match graph.follow value with
        | .sequence _ _ items => do
          let parts ← items.mapM merged
          return parts.reverse.flatten
        | node => merged node
      return parts.flatten ++ own

/-- The entries of a mapping of the graph, those merged into it included. -/
def allEntries (graph : Graph) (number : Nat) (entries : List (Node × Node)) :
    Except Fault (List (Node × Node)) :=
  graph.entriesOf (graph.size + 1) [] number entries

/-- The text of a node as a scalar. A mapping may have its main value under an equals
sign. -/
def textOf (graph : Graph) : Nat → Node → Except Fault Text
  | 0, _ => .error .wrongKind
  | fuel + 1, node =>
    match graph.follow node with
    | .scalar _ text => .ok text
    | .mapping _ _ entries =>
      match entries.find? fun (key, _) => graph.tagOf key = .value with
      | some (_, value) => graph.textOf fuel value
      | none => .error .wrongKind
    | _ => .error .wrongKind

/-- The scalar that a node is; `none` if its tag is that of a collection. -/
def scalar? (graph : Graph) (node : Node) : Option (Except Fault Scalar) :=
  let tag := graph.tagOf node
  if tag.isCollection then none
  else
    match graph.follow node with
    | .codes _ ns => some (tag.scalarOfCodes ns)
    | node => some do tag.scalar (← graph.textOf (graph.size + 1) node)

/-- The key that a node is. An equals sign is a text as a key. -/
def key (graph : Graph) (node : Node) : Except Fault Scalar :=
  match graph.follow node, graph.scalar? node with
  | .scalar .value text, _ => .ok (.text text)
  | _, some outcome => outcome
  | _, none => .error .collectionKey

end Graph

end Formula.Yaml
