import BezelStream.Proofs.Value.Keys
import BezelStream.Proofs.Yaml.Merging
import Mathlib.Data.List.Forall2

/-! # What the nodes of a graph are built as

A node that is built has a shape of its kind. A mapping is built of its entries, one by one and in
order, and no two of their keys clash. A sequence or a set waits, empty, until it is filled. Every
step of the building keeps this, and it takes nothing back: what is built stays built, and a scalar
stays what it is.
-/

namespace BezelStream.Yaml

variable {clash : Key → Key → Bool}

/-- The tags of nodes that are built empty and filled later. -/
def Tag.isFilled : Tag → Bool
  | .omap | .pairs | .set | .seq => true
  | _ => false

/-- Whether a node that is no mapping has nothing in it. -/
def Node.isHollow : Node → Bool
  | .scalar _ text => text.isEmpty
  | .sequence _ items => items.isEmpty
  | .mapping .. => false

/-- The shapes of nodes that are filled. -/
def Shape.isFilled : Shape → Bool
  | .list _ | .pairs _ | .set _ => true
  | .scalar _ | .map _ => false

namespace Graph

variable (graph : Graph)

/-- Where a scalar is wanted, a mapping defers to what is under a value key. -/
def Defers (id other : Nat) : Prop :=
  ∃ entry key, graph.Offers id entry ∧ graph[entry.1]? = some key ∧ key.tag = .value ∧
    entry.2 = other

/-- What a node spells where a scalar is wanted. -/
inductive Spells : Nat → CodePoints → Prop where
  | scalar {id : Nat} {tag : Tag} {text : CodePoints}
      (stands : graph[id]? = some (.scalar tag text)) : Spells id text
  | deferred {id other : Nat} {text : CodePoints} (defers : graph.Defers id other)
      (spells : Spells other text) : Spells id text

/-- What a node is built as where it is built as a scalar: what it spells, read under its tag. A
    timestamp has to spell it itself. -/
inductive ReadsAs (id : Nat) : Key → Prop where
  | read {node : Node} {tag : Tag} {text : CodePoints} {s : Scalar}
      (stands : graph[id]? = some node) (becomes : node.tag.Becomes tag)
      (own : node.isDeferredMoment = false) (spells : graph.Spells id text)
      (reads : readScalar tag text = .ok s) : ReadsAs id (.ofNode id text s)

/-- The entries of which a mapping is built: its own. If there are merge keys among these, the
    others, after entries that the mapping takes over. -/
inductive Spreads (id : Nat) (own : List (Nat × Nat)) : List (Nat × Nat) → Prop where
  | whole (plain : ∀ entry ∈ own, Building.isMerge graph entry = false) : Spreads id own own
  | merged {merge : Nat × Nat} {merged : List (Nat × Nat)} (listed : merge ∈ own)
      (tagged : Building.isMerge graph merge = true)
      (taken : ∀ entry ∈ merged, graph.TakesOver id entry) :
      Spreads id own (merged ++ graph.ordinary own)

/-- A mapping with one entry. -/
inductive IsPair (id : Nat) (pair : Nat × Nat) : Prop where
  | single {tag : Tag} {own : List (Nat × Nat)} (stands : graph[id]? = some (.mapping tag own))
      (spreads : graph.Spreads id own [pair])

/-- Whether a node is built empty and filled later. -/
def Awaits (id : Nat) : Prop :=
  ∃ node, graph[id]? = some node ∧ node.tag.isFilled = true

end Graph

namespace Site

/-- The shape of a node, if it is built. -/
def shape? (site : Site) (id : Nat) : Option Shape :=
  (site.shapes[id]?).join

/-- An entry that is built of a pair of nodes. -/
structure Makes (site : Site) (pair : Nat × Nat) (entry : Key × Nat) : Prop where
  key : site.shape? pair.1 = some (.scalar entry.1)
  value : entry.2 = pair.2
  built : (site.shape? pair.2).isSome

end Site

/-- What is related one by one has a counterpart each. -/
theorem exists_of_related {α β : Type} {R : α → β → Prop} {as : List α} {bs : List β}
    (related : List.Forall₂ R as bs) : ∀ b ∈ bs, ∃ a ∈ as, R a b := by
  induction related with
  | nil => exact nofun
  | cons one _ ih =>
      refine List.forall_mem_cons.mpr ⟨⟨_, List.mem_cons_self, one⟩, fun b member => ?_⟩
      obtain ⟨a, among, related⟩ := ih b member
      exact ⟨a, List.mem_cons_of_mem _ among, related⟩

/-- Of every pair one of the entries was made. -/
theorem Site.exists_entry {site : Site} {pairs : List (Nat × Nat)} {entries : List (Key × Nat)}
    (made : List.Forall₂ site.Makes pairs entries) :
    ∀ pair ∈ pairs, ∃ entry ∈ entries, site.Makes pair entry :=
  exists_of_related (R := flip site.Makes) made.flip

/-- No two entries have keys that clash. -/
def Unclashed (clash : Key → Key → Bool) (entries : List (Key × Nat)) : Prop :=
  entries.Pairwise fun earlier later => clash earlier.1 later.1 = false

namespace Unclashed

variable {entries : List (Key × Nat)}

theorem concat (unclashed : Unclashed clash entries) {key : Key} (value : Nat)
    (fresh : ∀ entry ∈ entries, clash entry.1 key = false) :
    Unclashed clash (entries ++ [(key, value)]) := by
  refine List.pairwise_append.mpr ⟨unclashed, List.pairwise_singleton _ _, ?_⟩
  intro entry member last single
  obtain rfl := List.mem_singleton.mp single
  exact fresh entry member

end Unclashed

/-- What may be built of a node while others wait to be filled, one of which may be in the making. -/
inductive Site.Shapes (clash : Key → Key → Bool) (graph : Graph) (filling : List Nat) (site : Site)
    (id : Nat) : Shape → Prop where
  | scalar {key : Key} (reads : graph.ReadsAs id key) : Shapes clash graph filling site id (.scalar key)
  | waiting {shape : Shape} (filled : shape.isFilled = true) (awaits : graph.Awaits id)
      (waits : id ∈ filling ∨ id ∈ site.queue) : Shapes clash graph filling site id shape
  | list {items : List Nat} (stands : graph[id]? = some (.sequence .seq items))
      (built : ∀ item ∈ items, (site.shape? item).isSome) :
      Shapes clash graph filling site id (.list items)
  | pairs {tag : Tag} {items : List Nat} {pairs : List (Nat × Nat)}
      (stands : graph[id]? = some (.sequence tag items)) (tagged : tag = .omap ∨ tag = .pairs)
      (single : List.Forall₂ graph.IsPair items pairs)
      (built : ∀ pair ∈ pairs, (site.shape? pair.1).isSome ∧ (site.shape? pair.2).isSome) :
      Shapes clash graph filling site id (.pairs pairs)
  | set {own : List (Nat × Nat)} {members : List Key}
      (stands : graph[id]? = some (.mapping .set own)) :
      Shapes clash graph filling site id (.set members)
  | map {own pairs : List (Nat × Nat)} {entries : List (Key × Nat)}
      (stands : graph[id]? = some (.mapping .map own)) (spreads : graph.Spreads id own pairs)
      (makes : List.Forall₂ site.Makes pairs entries) (unclashed : Unclashed clash entries) :
      Shapes clash graph filling site id (.map entries)
  | empty {node : Node} (stands : graph[id]? = some node) (tagged : node.tag = .map)
      (hollow : node.isHollow = true) : Shapes clash graph filling site id (.map [])

variable {graph : Graph} {site after : Site} {filling : List Nat} {id : Nat}

namespace Graph

theorem Reshapes.spreads {tag : Tag} {own entries : List (Nat × Nat)}
    (reshapes : graph.Reshapes id own entries) (stands : graph[id]? = some (.mapping tag own)) :
    graph.Spreads id own (graph.ordinary entries) := by
  obtain ⟨merged, taken, spread⟩ := reshapes.spread
  rw [spread]
  by_cases plain : ∀ entry ∈ own, Building.isMerge graph entry = false
  · have none : merged = [] := List.eq_nil_iff_forall_not_mem.mpr fun entry member => by
      cases taken entry member with
      | merged found listed tagged =>
          cases stands.symm.trans found
          rw [plain _ listed] at tagged
          cases tagged
    rw [none, ordinary_eq_self.mpr plain]
    exact .whole plain
  · simp only [not_forall, Bool.not_eq_false] at plain
    obtain ⟨merge, listed, tagged⟩ := plain
    exact .merged listed tagged taken

/-- Tags under which a scalar can be read are those of neither parts nor merge keys. -/
theorem readScalar_tag {tag : Tag} {text : CodePoints} {s : Scalar}
    (reads : readScalar tag text = .ok s) : tag.hasParts = false ∧ tag ≠ .merge := by
  cases tag with
  | null | bool | int | float | binary | timestamp | str => exact ⟨rfl, nofun⟩
  | omap | pairs | set | seq | map | merge | value | unknown => cases reads

theorem ReadsAs.tag {key : Key} (reads : graph.ReadsAs id key) {node : Node}
    (stands : graph[id]? = some node) : node.tag.hasParts = false ∧ node.tag ≠ .merge := by
  cases reads with
  | read found becomes _ _ reads =>
      cases stands.symm.trans found
      rcases becomes with rfl | ⟨value, -⟩
      · exact readScalar_tag reads
      · exact value ▸ ⟨rfl, nofun⟩

theorem Awaits.hasParts (awaits : graph.Awaits id) : graph.HasParts id := by
  obtain ⟨node, stands, filled⟩ := awaits
  refine ⟨node, stands, ?_⟩
  generalize node.tag = tag at filled
  cases tag with
  | omap | pairs | set | seq => rfl
  | _ => cases filled

theorem HasParts.not_readsAs (parts : graph.HasParts id) (key : Key) : ¬ graph.ReadsAs id key := by
  intro reads
  obtain ⟨node, stands, tagged⟩ := parts
  rw [(reads.tag stands).1] at tagged
  cases tagged

theorem HasParts.tag_ne_merge (parts : graph.HasParts id) {node : Node}
    (stands : graph[id]? = some node) : node.tag ≠ .merge := by
  obtain ⟨_, found, tagged⟩ := parts
  cases stands.symm.trans found
  intro merge
  rw [merge] at tagged
  cases tagged

end Graph

namespace Site

theorem shape?_set (id other : Nat) (shape : Shape) :
    shape? { site with shapes := site.shapes.setIfInBounds id (some shape) } other =
      if id = other ∧ id < site.shapes.size then some shape else site.shape? other := by
  simp only [shape?, Array.getElem?_setIfInBounds]
  by_cases same : id = other
  · subst same
    by_cases inside : id < site.shapes.size <;> simp [inside]
  · simp [same]

namespace Shapes

variable {shape : Shape}

/-- What is no scalar was meant to have parts. -/
theorem cases_parts (shapes : site.Shapes clash graph filling id shape) :
    (∃ key, shape = .scalar key ∧ graph.ReadsAs id key) ∨
      graph.HasParts id ∧ ∀ key, shape ≠ .scalar key := by
  cases shapes with
  | scalar reads => exact .inl ⟨_, rfl, reads⟩
  | waiting filled awaits => exact .inr ⟨awaits.hasParts, by rintro _ rfl; cases filled⟩
  | list stands | set stands | map stands => exact .inr ⟨⟨_, stands, rfl⟩, nofun⟩
  | pairs stands tagged => exact .inr ⟨⟨_, stands, by rcases tagged with rfl | rfl <;> rfl⟩, nofun⟩
  | empty stands tagged => exact .inr ⟨⟨_, stands, tagged ▸ rfl⟩, nofun⟩

/-- What is built is no merge key. -/
theorem plain (shapes : site.Shapes clash graph filling id shape) (value : Nat) :
    Building.isMerge graph (id, value) = false := by
  unfold Building.isMerge
  split
  next key stands =>
    have ordinary : key.tag ≠ .merge := by
      rcases shapes.cases_parts with ⟨_, -, reads⟩ | ⟨parts, -⟩
      · exact (reads.tag stands).2
      · exact parts.tag_ne_merge stands
    exact decide_eq_false ordinary
  next => rfl

end Shapes

/-! ## What the building takes nothing of -/

/-- The number of nodes that are not built or wait to be filled. -/
def unfinished (site : Site) : Nat :=
  site.shapes.toList.countP Option.isNone + site.queue.length

/-- What is built of a site stays, and no more is left to be done. -/
structure Grows (site after : Site) : Prop where
  keys : ∀ id key, site.shape? id = some (.scalar key) → after.shape? id = some (.scalar key)
  built : ∀ id, (site.shape? id).isSome → (after.shape? id).isSome
  fewer : after.unfinished ≤ site.unfinished

/-- Only the shapes count, and how many nodes wait. -/
theorem Grows.of_shapes (same : after.shapes = site.shapes)
    (fewer : after.queue.length ≤ site.queue.length) : site.Grows after where
  keys id key given := by rwa [shape?, same]
  built id built := by rwa [shape?, same]
  fewer := by
    rw [unfinished, unfinished, same]
    exact Nat.add_le_add_left fewer _

theorem Grows.trans {middle : Site} (first : site.Grows middle) (rest : middle.Grows after) :
    site.Grows after :=
  ⟨fun id key given => rest.keys id key (first.keys id key given),
    fun id built => rest.built id (first.built id built), rest.fewer.trans first.fewer⟩

theorem Makes.mono {pair : Nat × Nat} {entry : Key × Nat} (makes : site.Makes pair entry)
    (grows : site.Grows after) : after.Makes pair entry :=
  ⟨grows.keys _ _ makes.key, makes.value, grows.built _ makes.built⟩

theorem Shapes.mono {shape : Shape} (shapes : site.Shapes clash graph filling id shape)
    (grows : site.Grows after) {later : List Nat}
    (waits : id ∈ filling ∨ id ∈ site.queue → id ∈ later ∨ id ∈ after.queue) :
    after.Shapes clash graph later id shape := by
  cases shapes with
  | scalar reads => exact .scalar reads
  | waiting filled awaits before => exact .waiting filled awaits (waits before)
  | list stands built => exact .list stands fun item member => grows.built item (built item member)
  | pairs stands tagged single built =>
      exact .pairs stands tagged single fun pair member =>
        ⟨grows.built _ (built pair member).1, grows.built _ (built pair member).2⟩
  | set stands => exact .set stands
  | map stands spreads makes unclashed =>
      exact .map stands spreads (makes.imp fun _ _ made => made.mono grows) unclashed
  | empty stands tagged hollow => exact .empty stands tagged hollow

/-- A shape takes the place of whatever was no scalar. -/
theorem grows_set (shape : Shape) (free : ∀ key, site.shape? id ≠ some (.scalar key)) :
    site.Grows { site with shapes := site.shapes.setIfInBounds id (some shape) } where
  keys other key given := by
    rw [shape?_set, if_neg]
    · exact given
    · rintro ⟨rfl, -⟩
      exact free key given
  built other built := by
    rw [shape?_set]
    split
    · rfl
    · exact built
  fewer := by
    refine Nat.add_le_add_right ?_ _
    dsimp only
    rw [Array.toList_setIfInBounds]
    by_cases inside : id < site.shapes.toList.length
    · rw [List.countP_set inside]
      simp
    · rw [List.set_eq_of_length_le (Nat.le_of_not_lt inside)]

/-- A node that was not built comes to wait instead. -/
theorem grows_postpone (shape : Shape) (inside : id < site.shapes.size)
    (unbuilt : site.shape? id = none) :
    site.Grows { site with shapes := site.shapes.setIfInBounds id (some shape),
                           queue := site.queue ++ [id] } where
  keys := (grows_set shape fun key given => by rw [unbuilt] at given; cases given).keys
  built := (grows_set shape fun key given => by rw [unbuilt] at given; cases given).built
  fewer := by
    have none : site.shapes.toList[id] = none := by
      rw [shape?, Array.getElem?_eq_getElem inside] at unbuilt
      simpa using unbuilt
    have some : 0 < site.shapes.toList.countP Option.isNone :=
      List.countP_pos_iff.mpr ⟨_, List.getElem_mem inside, by rw [none]; rfl⟩
    simp only [unfinished, Array.toList_setIfInBounds, List.length_append, List.length_singleton]
    rw [List.countP_set inside, none]
    simp only [Option.isNone_none, Option.isNone_some, Bool.false_eq_true, ↓reduceIte]
    omega

end Site

/-- What is known of a site while the value of a graph is built. -/
structure Site.Sound (clash : Key → Key → Bool) (graph : Graph) (filling : List Nat) (site : Site) :
    Prop where
  stems : site.Stems graph
  size : site.shapes.size = graph.size
  built : ∀ id shape, site.shape? id = some shape → site.Shapes clash graph filling id shape
  queue : ∀ id ∈ site.queue, graph.Awaits id

namespace Site.Sound

theorem start (clash : Key → Key → Bool) (graph : Graph) :
    Sound clash graph [] { nodes := graph, shapes := Array.replicate graph.size none } where
  stems := .start graph _
  size := Array.size_replicate
  built id shape given := by
    simp only [shape?, Array.getElem?_replicate] at given
    split at given <;> cases given
  queue := nofun

theorem withActive (sound : site.Sound clash graph filling) (active : List Nat) :
    Sound clash graph filling { site with active } where
  stems := ⟨sound.stems.nodes⟩
  size := sound.size
  built id shape given := by
    have grows : site.Grows { site with active } := .of_shapes rfl (Nat.le_refl _)
    exact (sound.built id shape given).mono grows (·)
  queue := sound.queue

theorem lt_size (sound : site.Sound clash graph filling) {shape : Shape}
    (given : site.shape? id = some shape) : id < graph.size := by
  refine sound.size ▸ Nat.lt_of_not_le fun outside => ?_
  rw [shape?, Array.getElem?_eq_none outside] at given
  cases given

theorem reads (sound : site.Sound clash graph filling) {key : Key}
    (given : site.shape? id = some (.scalar key)) : graph.ReadsAs id key := by
  rcases (sound.built id _ given).cases_parts with ⟨_, same, reads⟩ | ⟨-, other⟩
  · cases same
    exact reads
  · exact absurd rfl (other key)

/-- A node with parts is not built as a scalar. -/
theorem free (sound : site.Sound clash graph filling) (parts : graph.HasParts id) (key : Key) :
    site.shape? id ≠ some (.scalar key) :=
  fun given => parts.not_readsAs key (sound.reads given)

/-- What is built is no merge key. -/
theorem plain (sound : site.Sound clash graph filling) {shape : Shape} {pair : Nat × Nat}
    (given : site.shape? pair.1 = some shape) : Building.isMerge graph pair = false :=
  (sound.built _ shape given).plain pair.2

/-- A change of nodes leaves everything else as it is. -/
theorem changes (sound : site.Sound clash graph filling) (changes : Building.Changes graph site after) :
    after.Sound clash graph filling ∧ site.Grows after ∧ after.active = site.active ∧
      after.queue = site.queue := by
  obtain ⟨stems, rest⟩ := changes
  generalize after.nodes = nodes at rest
  subst rest
  have grows : site.Grows { site with nodes } := .of_shapes rfl (Nat.le_refl _)
  refine ⟨⟨stems, sound.size, fun id shape given => ?_, sound.queue⟩, grows, rfl, rfl⟩
  exact (sound.built id shape given).mono grows (·)

/-- A shape takes the place of whatever was no scalar, and its node waits no longer. -/
theorem setShape (sound : site.Sound clash graph filling) {shape : Shape} {later : List Nat}
    (free : ∀ key, site.shape? id ≠ some (.scalar key))
    (shapes : site.Shapes clash graph later id shape)
    (rest : ∀ other ∈ filling, other = id ∨ other ∈ later) :
    Sound clash graph later { site with shapes := site.shapes.setIfInBounds id (some shape) } where
  stems := ⟨sound.stems.nodes⟩
  size := by rw [Array.size_setIfInBounds, sound.size]
  built other built given := by
    rw [shape?_set] at given
    have grows := grows_set shape free
    split at given
    next here =>
      obtain ⟨rfl, -⟩ := here
      cases given
      exact shapes.mono grows fun waits => waits
    next elsewhere =>
      refine (sound.built other built given).mono grows fun waits => waits.imp_left fun member => ?_
      rcases rest other member with rfl | later
      · exact absurd ⟨rfl, sound.size ▸ sound.lt_size given⟩ elsewhere
      · exact later
  queue := sound.queue

theorem postpone (sound : site.Sound clash graph filling) {shape : Shape}
    (unbuilt : site.shape? id = none) (filled : shape.isFilled = true) (awaits : graph.Awaits id)
    (inside : id < graph.size) :
    Sound clash graph filling { site with shapes := site.shapes.setIfInBounds id (some shape),
                                          queue := site.queue ++ [id] } where
  stems := ⟨sound.stems.nodes⟩
  size := by rw [Array.size_setIfInBounds, sound.size]
  built other built given := by
    change shape? { site with shapes := site.shapes.setIfInBounds id (some shape) } other = _ at given
    rw [shape?_set] at given
    split at given
    next here =>
      obtain ⟨rfl, -⟩ := here
      cases given
      exact .waiting filled awaits (.inr (List.mem_append_right _ List.mem_cons_self))
    next =>
      have grows := grows_postpone shape (sound.size ▸ inside) unbuilt
      exact (sound.built other built given).mono grows fun waits =>
        waits.imp_right (List.mem_append_left _)
  queue := List.forall_mem_append.mpr ⟨sound.queue, List.forall_mem_singleton.mpr awaits⟩

/-- The first of the waiting nodes is taken to be filled. -/
theorem take (sound : site.Sound clash graph []) {rest : List Nat} (waits : site.queue = id :: rest) :
    Sound clash graph [id] { site with queue := rest } where
  stems := ⟨sound.stems.nodes⟩
  size := sound.size
  built other shape given := by
    have grows : site.Grows { site with queue := rest } := .of_shapes rfl (by simp [waits])
    refine (sound.built other shape given).mono grows ?_
    rintro (none | member)
    · cases none
    · rw [waits] at member
      rcases List.mem_cons.mp member with rfl | later
      · exact .inl List.mem_cons_self
      · exact .inr later
  queue other member := sound.queue other (waits ▸ List.mem_cons_of_mem _ member)

end Site.Sound

end BezelStream.Yaml
