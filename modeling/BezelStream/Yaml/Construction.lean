import BezelStream.Yaml.Graph
import BezelStream.Yaml.ScalarValue

/-! # From a graph to a value

`valueOf` builds the value of a graph. Mappings are built at once, from the inside
out, and a mapping that needs itself is refused. Sequences and sets begin empty and
are filled later in the order in which they were met, so they may hold themselves.
Every node is built once; the shape of a built node refers to its parts by number,
and only the last step unfolds the shapes into a value.
-/

namespace BezelStream.Yaml

/-- A built scalar. Not a number is equal to nothing, so as a key it is known by the object that it
    is: its word stands for one, and every other text makes a new one of its node. -/
inductive Key where
  | scalar (s : Scalar)
  | nan (node : Nat)
  deriving Repr, DecidableEq

namespace Key

/-- What a node with this text is built as. -/
def ofNode (id : Nat) (text : CodePoints) (s : Scalar) : Key :=
  if s = .float .nan ∧ isNanWord text = false then .nan id else .scalar s

def value : Key → Scalar
  | .scalar s => s
  | .nan _ => .float .nan

/-- Whether two keys are the same. -/
def same : Key → Key → Bool
  | .scalar a, .scalar b => a.same b
  | .nan a, .nan b => a == b
  | .scalar _, .nan _ | .nan _, .scalar _ => false

end Key

/-- A built node, whose parts are given by number. -/
inductive Shape where
  | scalar (key : Key)
  | list (items : List Nat)
  | map (entries : List (Key × Nat))
  | set (members : List Key)
  | pairs (entries : List (Nat × Nat))
  deriving Repr, DecidableEq

/-- A value in the making. -/
structure Site where
  nodes : Graph
  /-- The shapes built so far, by the number of their nodes. -/
  shapes : Array (Option Shape)
  active : List Nat := []
  /-- The nodes that wait to be filled, in order. -/
  queue : List Nat := []

abbrev Building := StateT Site (Except Flaw)

namespace Building

def nodeAt (id : Nat) : Building Node := do
  match (← get).nodes[id]? with
  | some node => return node
  | none => throw .malformed

/-- The shape of a node, if it is built. -/
def shapeAt? (id : Nat) : Building (Option Shape) := do
  return ((← get).shapes[id]?).join

def setShape (id : Nat) (shape : Shape) : Building Unit :=
  modify fun site => { site with shapes := site.shapes.setIfInBounds id (some shape) }

def setNode (id : Nat) (node : Node) : Building Unit :=
  modify fun site => { site with nodes := site.nodes.setIfInBounds id node }

/-- Stores an empty shape and leaves the node to be filled later. -/
def postpone (id : Nat) (shape : Shape) : Building Unit := do
  setShape id shape
  modify fun site => { site with queue := site.queue ++ [id] }

/-- The text of a node that a scalar is wanted of. A mapping stands for the value under
    its value key. -/
def scalarText : (fuel : Nat) → Nat → Building CodePoints
  | 0, _ => throw (.mismatch .tooDeep)
  | fuel + 1, id => do
    match ← nodeAt id with
    | .scalar _ text => return text
    | .sequence .. => throw .malformed
    | .mapping _ entries =>
      let nodes := (← get).nodes
      let isValueKey (entry : Nat × Nat) : Bool := match nodes[entry.1]? with
        | some node => node.tag = .value
        | none => false
      match entries.find? isValueKey with
      | some (_, value) => scalarText fuel value
      | none => throw .malformed

/-- What a node with this text is built as where it is built as a scalar. -/
def scalarOf (node : Node) (text : CodePoints) : Except Flaw Scalar :=
  if node.isDeferredMoment then .error (.mismatch .wrongKind) else readScalar node.tag text

/-- The scalar of a built key, if it is one. -/
def keyOf? (id : Nat) : Building (Option Key) := do
  match ← shapeAt? id with
  | some (.scalar key) => return some key
  | _ => return none

/-- Builds the entries of a mapping, given which keys clash and how a node is built. A key must be
    a scalar that clashes with no key before it. -/
def mapEntries (clash : Key → Key → Bool) (build : Nat → Building Unit) :
    List (Nat × Nat) → (done : List (Key × Nat)) → Building (List (Key × Nat))
  | [], done => return done
  | (k, v) :: rest, done => do
    build k
    match ← keyOf? k with
    | none => throw (.mismatch .wrongKind)
    | some key =>
      if done.any fun (old, _) => clash old key then throw (.duplicateKey key.value)
      else
        build v
        mapEntries clash build rest (done ++ [(key, v)])

/-- Builds a node unless it is built. -/
def build (clash : Key → Key → Bool) : (fuel : Nat) → Nat → Building Unit
  | 0, _ => throw (.mismatch .tooDeep)
  | fuel + 1, id => do
    if (← shapeAt? id).isSome then return
    if (← get).active.contains id then throw .malformed
    modify fun site => { site with active := id :: site.active }
    let node ← nodeAt id
    match node.tag with
    | .seq => postpone id (.list [])
    | .omap | .pairs => postpone id (.pairs [])
    | .set => postpone id (.set [])
    | .map =>
      match node with
      | .mapping _ entries => setShape id (.map (← mapEntries clash (build clash fuel) entries []))
      | .scalar _ text =>
        if text.isEmpty then setShape id (.map []) else throw (.mismatch .badValue)
      | .sequence _ items =>
        if items.isEmpty then setShape id (.map []) else throw (.mismatch .wrongKind)
    | .merge | .value | .unknown => throw .malformed
    | _ =>
      let text ← scalarText ((← get).nodes.size + 1) id
      setShape id (.scalar (.ofNode id text (← liftM (scalarOf node text))))
    modify fun site => { site with active := site.active.erase id }

/-! ## Filling -/

def entriesAt (id : Nat) : Building (List (Nat × Nat)) := do
  match ← nodeAt id with
  | .mapping _ entries => return entries
  | _ => throw .malformed

/-- Whether the key of an entry takes over other mappings. -/
def isMerge (nodes : Graph) (entry : Nat × Nat) : Bool :=
  match nodes[entry.1]? with
  | some key => key.tag = .merge
  | none => false

/-- The number of merge keys in a graph. -/
def mergeCount (nodes : Graph) : Nat :=
  (nodes.toList.flatMap Node.entries).countP (isMerge nodes)

def setEntries (id : Nat) (entries : List (Nat × Nat)) : Building Unit := do
  setNode id (.mapping (← nodeAt id).tag entries)

/-- The nodes that a merge key names by the node under it. -/
def mergedNodes (id : Nat) : Building (List Nat) := do
  match ← nodeAt id with
  | .mapping .. => return [id]
  | .sequence _ items => return items
  | .scalar .. => throw .malformed

/-- Makes a value key an ordinary text. -/
def spellOut (id : Nat) : Building Unit := do
  let key ← nodeAt id
  if key.tag = .value then setNode id (key.withTag .str)

mutual

/-- Takes the merge keys out of a mapping and gives the entries that they stand for. A key is
    gone before the mappings under it are looked at, so a mapping may be merged into itself.
    The number of merge keys bounds the recursion. -/
def takeMerges : (fuel : Nat) → Nat → Building (List (Nat × Nat))
  | 0, _ => throw (.mismatch .tooDeep)
  | fuel + 1, id => do
    let nodes := (← get).nodes
    match (← entriesAt id).span fun entry => !isMerge nodes entry with
    | (_, []) => return []
    | (before, (_, value) :: after) =>
      setEntries id (before ++ after)
      let parts ← (← mergedNodes value).mapM fun part => do
        flatten fuel part
        entriesAt part
      return parts.reverse.flatten ++ (← takeMerges fuel id)

/-- Replaces the merge keys of a mapping by the entries of the mappings under them, which
    come first, and makes its value keys ordinary texts. -/
def flatten : (fuel : Nat) → Nat → Building Unit
  | 0, _ => throw (.mismatch .tooDeep)
  | fuel + 1, id => do
    let merged ← takeMerges fuel id
    let entries ← entriesAt id
    entries.forM fun entry => spellOut entry.1
    setEntries id (merged ++ entries)

end

/-- Builds the members of a set: the keys of its mapping, each once. -/
def setMembers (build : Nat → Building Unit) :
    List (Nat × Nat) → (done : List Key) → Building (List Key)
  | [], done => return done
  | (k, v) :: rest, done => do
    build k
    match ← keyOf? k with
    | none => throw .malformed
    | some key =>
      build v
      setMembers build rest (if done.any (·.same key) then done else done ++ [key])

/-- Builds the parts of a list of pairs, each written as a mapping with one entry. -/
def pairEntries (build : Nat → Building Unit) : List Nat → Building (List (Nat × Nat))
  | [] => return []
  | id :: rest => do
    match ← entriesAt id with
    | [(k, v)] =>
      build k
      build v
      return (k, v) :: (← pairEntries build rest)
    | _ => throw .malformed

def itemsAt (id : Nat) : Building (List Nat) := do
  match ← nodeAt id with
  | .sequence _ items => return items
  | _ => throw .malformed

/-- Fills a waiting node, given how a node is built. -/
def fill (build : Nat → Building Unit) (id : Nat) : Building Unit := do
  match (← nodeAt id).tag with
  | .seq =>
    let items ← itemsAt id
    items.forM build
    setShape id (.list items)
  | .set =>
    flatten (2 * mergeCount (← get).nodes + 2) id
    setShape id (.set (← setMembers build (← entriesAt id) []))
  | _ => setShape id (.pairs (← pairEntries build (← itemsAt id)))

/-- Fills the waiting nodes, and those that come to wait on the way. -/
def fillAll (build : Nat → Building Unit) : (fuel : Nat) → Building Unit
  | 0 => return
  | fuel + 1 => do
    match (← get).queue with
    | [] => return
    | id :: rest =>
      modify fun site => { site with queue := rest }
      fill build id
      fillAll build fuel

end Building

/-! ## Unfolding -/

/-- The value of a node, given the containers around it. A container inside itself is
    not unfolded again. -/
def unfold (shapes : Array (Option Shape)) : (fuel : Nat) → (around : List Nat) → Nat → Value
  | 0, _, _ => .scalar .null
  | fuel + 1, around, id =>
    match (shapes[id]?).join with
    | none => .scalar .null
    | some (.scalar key) => .scalar key.value
    | some (.set members) => .set (members.map Key.value)
    | some (.list items) =>
      if around.contains id then .again .list
      else .list (items.map (unfold shapes fuel (id :: around)))
    | some (.pairs entries) =>
      if around.contains id then .again .list
      else .list (entries.map fun (a, b) =>
        .pair (unfold shapes fuel (id :: around) a) (unfold shapes fuel (id :: around) b))
    | some (.map entries) =>
      if around.contains id then .again .map
      else .map (entries.map fun (k, v) => (k.value, unfold shapes fuel (id :: around) v))

/-- The site of a graph whose nodes are built and filled, given which keys clash. -/
def construct (clash : Key → Key → Bool) (graph : Graph) (root : Nat) : Except Flaw Site := do
  let depth := graph.size + 2
  let build := Building.build clash depth
  let step : Building Unit := do
    build root
    Building.fillAll build depth
  let (_, site) ← step.run { nodes := graph, shapes := Array.replicate graph.size none }
  return site

def valueOf (graph : Graph) (root : Nat) : Except Flaw Value := do
  let site ← construct Key.same graph root
  return unfold site.shapes (graph.size + 2) [] root

end BezelStream.Yaml
