import BezelStream.Proofs.Yaml.Filling

/-! # What the value of a graph says of its nodes

The value of a graph follows the graph node by node, from the root through lists and mappings. A
mapping has one entry for each pair of nodes of which it is built, in their order, and no two of
its keys are equal. The nodes around a node are different ones, so there is fuel to follow them all.
-/

namespace BezelStream.Yaml

variable {graph : Graph} {site : Site} {id root fuel : Nat} {around : List Nat}

/-- The kind of container that a node with the tag is built as. -/
def Tag.container? : Tag → Option Container
  | .seq | .omap | .pairs => some .list
  | .map => some .map
  | _ => none

/-- A scalar that is the key made of a node. -/
def Graph.KeyIs (graph : Graph) (id : Nat) (scalar : Scalar) : Prop :=
  ∃ key, graph.ReadsAs id key ∧ scalar = key.value

/-- What a value says of a node, within the containers around it. -/
inductive Graph.Denotes (graph : Graph) : (around : List Nat) → Nat → Value → Prop where
  | scalar {around : List Nat} {id : Nat} {s : Scalar} (is : graph.KeyIs id s) :
      Denotes graph around id (.scalar s)
  /-- A list has a value for each item of its sequence, in order. -/
  | list {around : List Nat} {id : Nat} {items : List Nat} {value : Nat → Value}
      (stands : graph[id]? = some (.sequence .seq items)) (outside : id ∉ around)
      (each : ∀ item ∈ items, Denotes graph (id :: around) item (value item)) :
      Denotes graph around id (.list (items.map value))
  /-- A list of pairs has a pair for each item of its sequence, in order. -/
  | pairs {around : List Nat} {id : Nat} {tag : Tag} {items : List Nat} {pairs : List (Nat × Nat)}
      {value : Nat → Value} (stands : graph[id]? = some (.sequence tag items))
      (tagged : tag = .omap ∨ tag = .pairs) (outside : id ∉ around)
      (single : List.Forall₂ graph.IsPair items pairs)
      (first : ∀ pair ∈ pairs, Denotes graph (id :: around) pair.1 (value pair.1))
      (second : ∀ pair ∈ pairs, Denotes graph (id :: around) pair.2 (value pair.2)) :
      Denotes graph around id (.list (pairs.map fun pair => .pair (value pair.1) (value pair.2)))
  | set {around : List Nat} {id : Nat} {own : List (Nat × Nat)} {members : List Scalar}
      (stands : graph[id]? = some (.mapping .set own)) : Denotes graph around id (.set members)
  /-- A mapping has an entry for each pair of which it is built, in order, and no two of them have
      equal keys. -/
  | map {around : List Nat} {id : Nat} {own pairs : List (Nat × Nat)} {key : Nat → Scalar}
      {value : Nat → Value} (stands : graph[id]? = some (.mapping .map own))
      (outside : id ∉ around) (spreads : graph.Spreads id own pairs)
      (keys : ∀ pair ∈ pairs, graph.KeyIs pair.1 (key pair.1))
      (values : ∀ pair ∈ pairs, Denotes graph (id :: around) pair.2 (value pair.2))
      (keyed : Keyed (pairs.map fun pair => (key pair.1, value pair.2))) :
      Denotes graph around id (.map (pairs.map fun pair => (key pair.1, value pair.2)))
  | empty {around : List Nat} {id : Nat} {node : Node} (stands : graph[id]? = some node)
      (tagged : node.tag = .map) (hollow : node.isHollow = true) :
      Denotes graph around id (.map [])
  /-- A container inside itself is not followed again. -/
  | again {around : List Nat} {id : Nat} {node : Node} {container : Container}
      (stands : graph[id]? = some node) (tagged : node.tag.container? = some container)
      (inside : id ∈ around) : Denotes graph around id (.again container)

/-- Keys that do not clash have values that are not equal. -/
theorem Unclashed.keyed {α : Type} {entries : List (Key × Nat)}
    (unclashed : Unclashed Key.same entries) (f : Key × Nat → α) :
    Keyed (entries.map fun entry => (entry.1.value, f entry)) := by
  refine List.pairwise_map.mpr (unclashed.imp fun {earlier later} differs => ?_)
  generalize earlier.1 = a at differs ⊢
  generalize later.1 = b at differs ⊢
  cases a with
  | nan => simp [Scalar.equals, Key.value]
  | scalar s =>
      cases b with
      | scalar t => exact Bool.and_eq_false_iff.mpr (.inl differs)
      | nan => exact Scalar.equals_nan s

namespace Site

/-- The scalar that is built of a node. -/
def scalarAt (site : Site) (id : Nat) : Scalar :=
  match site.shape? id with
  | some (.scalar key) => key.value
  | _ => .null

theorem scalarAt_eq {key : Key} (given : site.shape? id = some (.scalar key)) :
    site.scalarAt id = key.value := by
  rw [scalarAt, given]

/-- Entries are what the pairs say of which they were made. -/
theorem map_makes {α : Type} {pairs : List (Nat × Nat)} {entries : List (Key × Nat)}
    (makes : List.Forall₂ site.Makes pairs entries) (f : Nat → α) :
    (entries.map fun entry => (entry.1.value, f entry.2)) =
      pairs.map fun pair => (site.scalarAt pair.1, f pair.2) := by
  induction makes with
  | nil => rfl
  | cons made _ ih => rw [List.map_cons, List.map_cons, ih, scalarAt_eq made.key, made.value]

namespace Finished

variable {clash : Key → Key → Bool}

/-- Nothing that is built waits. -/
theorem not_waits (finished : site.Finished clash graph root) : ¬ (id ∈ [] ∨ id ∈ site.queue) := by
  rw [finished.done]
  rintro (waits | waits) <;> cases waits

/-- With fuel for all nodes that are not around it, what a node is built as says what it denotes. -/
theorem denotes (finished : site.Finished Key.same graph root) (once : around.Nodup)
    (within : ∀ other ∈ around, other < graph.size) (enough : graph.size < fuel + around.length)
    (built : (site.shape? id).isSome) :
    graph.Denotes around id (unfold site.shapes fuel around id) := by
  induction fuel generalizing around id with
  | zero =>
      have few := Building.length_le_of_nodup once within
      omega
  | succ fuel ih =>
      obtain ⟨shape, given⟩ := Option.isSome_iff_exists.mp built
      have inside : id < graph.size := finished.sound.lt_size given
      have parts (outside : ¬ around.contains id = true) {part : Nat}
          (there : (site.shape? part).isSome) :
          graph.Denotes (id :: around) part (unfold site.shapes fuel (id :: around) part) := by
        have outside := mt List.contains_iff_mem.mpr outside
        refine ih (List.nodup_cons.mpr ⟨outside, once⟩)
          (List.forall_mem_cons.mpr ⟨inside, within⟩) ?_ there
        rw [List.length_cons]
        omega
      have shapes := finished.sound.built id shape given
      rw [unfold, show (site.shapes[id]?).join = some shape from given]
      cases shapes with
      | scalar reads => exact .scalar ⟨_, reads, rfl⟩
      | waiting _ _ waits => exact absurd waits finished.not_waits
      | set stands => exact .set stands
      | list stands there =>
          dsimp only
          split
          next again => exact .again stands rfl (List.contains_iff_mem.mp again)
          next outside =>
            exact .list stands (mt List.contains_iff_mem.mpr outside) fun item member =>
              parts outside (there item member)
      | pairs stands tagged single there =>
          dsimp only
          split
          next again =>
            refine .again stands ?_ (List.contains_iff_mem.mp again)
            rcases tagged with rfl | rfl <;> rfl
          next outside =>
            exact .pairs stands tagged (mt List.contains_iff_mem.mpr outside) single
              (fun pair member => parts outside (there pair member).1)
              fun pair member => parts outside (there pair member).2
      | @map _ _ entries stands spreads makes unclashed =>
          dsimp only
          split
          next again => exact .again stands rfl (List.contains_iff_mem.mp again)
          next outside =>
            let value := unfold site.shapes fuel (id :: around)
            have keyed := unclashed.keyed fun entry => value entry.2
            change graph.Denotes around id
              (.map (entries.map fun entry => (entry.1.value, value entry.2)))
            rw [map_makes makes value] at keyed ⊢
            refine .map stands (mt List.contains_iff_mem.mpr outside) spreads ?_ ?_ keyed
            · intro pair member
              obtain ⟨entry, -, made⟩ := exists_entry makes pair member
              exact ⟨entry.1, finished.sound.reads made.key, scalarAt_eq made.key⟩
            · intro pair member
              obtain ⟨entry, -, made⟩ := exists_entry makes pair member
              exact parts outside made.built
      | empty stands tagged hollow =>
          dsimp only
          split
          next again => exact .again stands (tagged ▸ rfl) (List.contains_iff_mem.mp again)
          next => exact .empty stands tagged hollow

end Finished

end Site

/-- The value of a graph says what its root denotes, or it has none because the text is malformed,
    a key stands twice or a node does not fit. -/
theorem valueOf_gives (graph : Graph) (root : Nat) :
    GivesOrFails (graph.Denotes [] root) (graph.Fails Key.same) (valueOf graph root) :=
  (construct_gives Key.same graph root).bind fun _ finished =>
    finished.denotes List.nodup_nil nofun (Nat.lt_add_of_pos_right Nat.two_pos) finished.root

/-- No two keys of a mapping are equal. -/
theorem Graph.Denotes.isKeyed {value : Value} (denotes : graph.Denotes around id value) :
    value.IsKeyed := by
  cases denotes with
  | map _ _ _ _ _ keyed =>
      rintro _ ⟨⟩
      exact keyed
  | empty =>
      rintro _ ⟨⟩
      exact .nil
  | scalar | list | pairs | set | again => exact nofun

end BezelStream.Yaml
