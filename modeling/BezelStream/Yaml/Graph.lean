import BezelStream.Yaml.Resolution
import BezelStream.Yaml.Tree

/-! # From a tree to a graph of nodes

In the graph every node has a number and a tag, and an alias has become a second
use of the number of its node. A node may so be reached in several ways, also
from within itself.
-/

namespace BezelStream.Yaml

/-- A node with its tag; other nodes are given by number. -/
inductive Node where
  | scalar (tag : Tag) (text : CodePoints)
  | sequence (tag : Tag) (items : List Nat)
  | mapping (tag : Tag) (entries : List (Nat × Nat))
  deriving Repr, DecidableEq, Inhabited

namespace Node

def tag : Node → Tag
  | .scalar tag _ | .sequence tag _ | .mapping tag _ => tag

/-- The entries of a mapping; other nodes have none. -/
def entries : Node → List (Nat × Nat)
  | .mapping _ entries => entries
  | .scalar .. | .sequence .. => []

/-- Whether the text of a timestamp is left to the value under a value key. Such a text can be
    found, but no timestamp is read from it. -/
def isDeferredMoment : Node → Bool
  | .mapping .timestamp _ => true
  | _ => false

def withTag (tag : Tag) : Node → Node
  | .scalar _ text => .scalar tag text
  | .sequence _ items => .sequence tag items
  | .mapping _ entries => .mapping tag entries

end Node

abbrev Graph := Array Node

namespace Graph

/-- A graph in the making. -/
structure Draft where
  nodes : Graph := #[]
  anchors : List (String × Nat) := []

abbrev Drafting := StateT Draft (Except Flaw)

/-- The tag of a node with properties, where `own` is what it is without a tag. -/
def tagFor (props : Properties) (own : Tag) : Tag :=
  match props.tag with
  | none | some "!" => own
  | some text => .ofText text

/-- The tag of a scalar without a meaningful tag: plain ones by their look. The tag of a
    single exclamation mark makes every scalar count as plain. -/
def scalarTag (props : Properties) (text : CodePoints) (plain : Bool) : Tag :=
  tagFor props (if plain || props.tag = some "!" then tagByLook text else .str)

/-- Adds a node and lets its anchor refer to it. An anchor must be new. -/
def addNode (props : Properties) (node : Node) : Drafting Nat := do
  let draft ← get
  let id := draft.nodes.size
  match props.anchor with
  | none => set { draft with nodes := draft.nodes.push node }
  | some name =>
    if (draft.anchors.lookup name).isSome then throw .malformed
    else set { nodes := draft.nodes.push node, anchors := (name, id) :: draft.anchors : Draft }
  return id

def setNode (id : Nat) (node : Node) : Drafting Unit :=
  modify fun draft => { draft with nodes := draft.nodes.setIfInBounds id node }

mutual

/-- Adds the nodes of a tree and gives the number of its root. A collection is added
    before its parts, so that they may refer to it. -/
def addTree : Tree → Drafting Nat
  | .alias name => do
    match (← get).anchors.lookup name with
    | some id => return id
    | none => throw .malformed
  | .scalar props text plain => addNode props (.scalar (scalarTag props text plain) text)
  | .sequence props items => do
    let tag := tagFor props .seq
    let id ← addNode props (.sequence tag [])
    setNode id (.sequence tag (← addTrees items))
    return id
  | .mapping props entries => do
    let tag := tagFor props .map
    let id ← addNode props (.mapping tag [])
    setNode id (.mapping tag (← addEntries entries))
    return id

def addTrees : List Tree → Drafting (List Nat)
  | [] => return []
  | tree :: rest => do
    let id ← addTree tree
    return id :: (← addTrees rest)

/-- Adds the entries of a mapping in order, each key before its value. -/
def addEntries : List (Tree × Tree) → Drafting (List (Nat × Nat))
  | [] => return []
  | (key, value) :: rest => do
    let k ← addTree key
    let v ← addTree value
    return (k, v) :: (← addEntries rest)

end

/-- The graph of a tree and the number of its root. -/
def ofTree (tree : Tree) : Except Flaw (Graph × Nat) := do
  let (root, draft) ← (addTree tree).run {}
  return (draft.nodes, root)

end Graph

end BezelStream.Yaml
