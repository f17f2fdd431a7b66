import BezelStream.Yaml.Construction
import BezelStream.Proofs.Yaml.Outcome

/-! # What a site keeps of its graph

While a value is built, merging changes the entries of mappings and spells value keys out. A node
keeps its kind, its text and its items all the same. A mapping keeps its ordinary entries in their
order, and before them it gets none but entries of the mappings that its merge keys name.
-/

namespace BezelStream.Yaml

/-- The tags of nodes that have other nodes as parts. -/
def Tag.hasParts : Tag → Bool
  | .omap | .pairs | .set | .seq | .map => true
  | _ => false

/-- What a tag may have become: a value key may have been made a text. -/
def Tag.Becomes (was tag : Tag) : Prop :=
  tag = was ∨ was = .value ∧ tag = .str

namespace Graph

variable (graph : Graph)

/-- Whether a node is one with parts. -/
def HasParts (id : Nat) : Prop :=
  ∃ node, graph[id]? = some node ∧ node.tag.hasParts = true

/-- The mappings that a merge key with this node under it names. -/
def Names (id part : Nat) : Prop :=
  (∃ tag entries, graph[id]? = some (.mapping tag entries)) ∧ part = id ∨
    ∃ tag items, graph[id]? = some (.sequence tag items) ∧ part ∈ items

/-- The entries that a mapping may come to have: its own, and those of what its merge keys name. -/
inductive Offers : Nat → Nat × Nat → Prop where
  | own {id : Nat} {tag : Tag} {entries : List (Nat × Nat)} {entry : Nat × Nat}
      (stands : graph[id]? = some (.mapping tag entries)) (listed : entry ∈ entries) :
      Offers id entry
  | merged {id part : Nat} {merge entry : Nat × Nat} (key : Offers id merge)
      (tagged : Building.isMerge graph merge = true) (names : graph.Names merge.2 part)
      (offers : Offers part entry) : Offers id entry

/-- The entries that are no merge keys. -/
def ordinary (entries : List (Nat × Nat)) : List (Nat × Nat) :=
  entries.filter fun entry => !Building.isMerge graph entry

/-- An ordinary entry that a mapping takes over, because one of its merge keys names a mapping that
    offers it. -/
inductive TakesOver (id : Nat) (entry : Nat × Nat) : Prop where
  | merged {tag : Tag} {own : List (Nat × Nat)} {merge : Nat × Nat} {part : Nat}
      (stands : graph[id]? = some (.mapping tag own)) (listed : merge ∈ own)
      (tagged : Building.isMerge graph merge = true) (names : graph.Names merge.2 part)
      (offers : graph.Offers part entry) (plain : Building.isMerge graph entry = false)

/-- The entries of a mapping as they may have become: merge keys may be gone, and what the mapping
    takes over may stand before its ordinary entries. -/
structure Reshapes (id : Nat) (own entries : List (Nat × Nat)) : Prop where
  merges : ∀ entry ∈ entries, Building.isMerge graph entry = true → entry ∈ own
  spread : ∃ merged, (∀ entry ∈ merged, graph.TakesOver id entry) ∧
    graph.ordinary entries = merged ++ graph.ordinary own

end Graph

/-- What a node of a graph may have become. -/
inductive Node.Becomes (graph : Graph) (id : Nat) : Node → Node → Prop where
  | scalar {was tag : Tag} (tags : was.Becomes tag) (text : CodePoints) :
      Becomes graph id (.scalar was text) (.scalar tag text)
  | sequence {was tag : Tag} (tags : was.Becomes tag) (items : List Nat) :
      Becomes graph id (.sequence was items) (.sequence tag items)
  | mapping {was tag : Tag} (tags : was.Becomes tag) (old : List (Nat × Nat))
      {entries : List (Nat × Nat)} (reshapes : graph.Reshapes id old entries) :
      Becomes graph id (.mapping was old) (.mapping tag entries)

theorem Node.isDeferredMoment_mapping {tag : Tag} {entries : List (Nat × Nat)} :
    (Node.mapping tag entries).isDeferredMoment = true ↔ tag = .timestamp := by
  cases tag <;> simp [isDeferredMoment]

theorem Node.mapping_of_isDeferredMoment (node : Node) (deferred : node.isDeferredMoment = true) :
    ∃ entries, node = .mapping .timestamp entries := by
  cases node with
  | scalar | sequence => cases deferred
  | mapping tag entries => exact ⟨entries, by rw [Node.isDeferredMoment_mapping.mp deferred]⟩

namespace Tag.Becomes

variable {was tag : Tag}

theorem refl (tag : Tag) : tag.Becomes tag :=
  .inl rfl

/-- Only a text may have been another tag. -/
theorem eq_of_ne_str (becomes : was.Becomes tag) (other : tag ≠ .str) : was = tag := by
  rcases becomes with rfl | ⟨-, rfl⟩
  · rfl
  · exact absurd rfl other

theorem merge_iff (becomes : was.Becomes tag) : tag = .merge ↔ was = .merge := by
  rcases becomes with rfl | ⟨rfl, rfl⟩
  · rfl
  · decide

theorem spellOut (becomes : was.Becomes tag) (value : tag = .value) : was.Becomes .str := by
  obtain rfl := becomes.eq_of_ne_str (by rw [value]; nofun)
  exact .inr ⟨value, rfl⟩

end Tag.Becomes

namespace Graph

variable {graph : Graph} {id : Nat} {tag : Tag} {own entries : List (Nat × Nat)}

theorem mem_ordinary {entry : Nat × Nat} :
    entry ∈ graph.ordinary entries ↔ entry ∈ entries ∧ Building.isMerge graph entry = false := by
  rw [ordinary, List.mem_filter, Bool.not_eq_true']

theorem ordinary_append (left right : List (Nat × Nat)) :
    graph.ordinary (left ++ right) = graph.ordinary left ++ graph.ordinary right :=
  List.filter_append _ _

theorem ordinary_eq_self : graph.ordinary entries = entries ↔
    ∀ entry ∈ entries, Building.isMerge graph entry = false := by
  rw [ordinary, List.filter_eq_self]
  simp only [Bool.not_eq_true']

theorem TakesOver.plain {entry : Nat × Nat} (takes : graph.TakesOver id entry) :
    Building.isMerge graph entry = false := by
  cases takes with
  | merged _ _ _ _ _ plain => exact plain

namespace Reshapes

theorem refl (graph : Graph) (id : Nat) (own : List (Nat × Nat)) : graph.Reshapes id own own :=
  ⟨fun _ member _ => member, [], nofun, rfl⟩

theorem offered (reshapes : graph.Reshapes id own entries)
    (stands : graph[id]? = some (.mapping tag own)) :
    ∀ entry ∈ entries, graph.Offers id entry := by
  intro entry member
  cases plain : Building.isMerge graph entry with
  | true => exact .own stands (reshapes.merges entry member plain)
  | false =>
      obtain ⟨merged, taken, spread⟩ := reshapes.spread
      have kept : entry ∈ merged ++ graph.ordinary own := spread ▸ mem_ordinary.mpr ⟨member, plain⟩
      rcases List.mem_append.mp kept with new | old
      · cases taken entry new with
        | merged stands listed tagged names offers => exact .merged (.own stands listed) tagged names offers
      · exact .own stands (mem_ordinary.mp old).1

/-- A merge key is taken out. -/
theorem drop {before after : List (Nat × Nat)} {merge : Nat × Nat}
    (reshapes : graph.Reshapes id own (before ++ merge :: after))
    (tagged : Building.isMerge graph merge = true) : graph.Reshapes id own (before ++ after) := by
  refine ⟨fun entry member => reshapes.merges entry ?_, ?_⟩
  · rcases List.mem_append.mp member with earlier | later
    · exact List.mem_append_left _ earlier
    · exact List.mem_append_right _ (List.mem_cons_of_mem _ later)
  · have gone : graph.ordinary (merge :: after) = graph.ordinary after :=
      List.filter_cons_of_neg (by simp [tagged])
    have spread := reshapes.spread
    rwa [ordinary_append, gone, ← ordinary_append] at spread

/-- What is taken over is put before the other entries. -/
theorem prepend {taken : List (Nat × Nat)} (reshapes : graph.Reshapes id own entries)
    (takes : ∀ entry ∈ taken, graph.TakesOver id entry) :
    graph.Reshapes id own (taken ++ entries) := by
  have plain : ∀ entry ∈ taken, Building.isMerge graph entry = false :=
    fun entry member => (takes entry member).plain
  refine ⟨fun entry member tagged => ?_, ?_⟩
  · rcases List.mem_append.mp member with new | old
    · exact absurd tagged (by simp [plain entry new])
    · exact reshapes.merges entry old tagged
  · obtain ⟨merged, before, spread⟩ := reshapes.spread
    refine ⟨taken ++ merged, ?_, ?_⟩
    · exact List.forall_mem_append.mpr ⟨takes, before⟩
    · rw [ordinary_append, ordinary_eq_self.mpr plain, spread, List.append_assoc]

end Reshapes

end Graph

namespace Node.Becomes

variable {graph : Graph} {id : Nat} {was node : Node}

theorem tags (becomes : Becomes graph id was node) : was.tag.Becomes node.tag := by
  cases becomes with
  | scalar tags | sequence tags | mapping tags => exact tags

theorem spellOut (becomes : Becomes graph id was node) (value : node.tag = .value) :
    Becomes graph id was (node.withTag .str) := by
  cases becomes with
  | scalar tags text => exact .scalar (tags.spellOut value) text
  | sequence tags items => exact .sequence (tags.spellOut value) items
  | mapping tags old reshapes => exact .mapping (tags.spellOut value) old reshapes

/-- A timestamp that defers to another node has always done so. -/
theorem isDeferredMoment_eq (becomes : Becomes graph id was node) :
    node.isDeferredMoment = was.isDeferredMoment := by
  have same {old new : Tag} (tags : old.Becomes new) : new = .timestamp ↔ old = .timestamp := by
    rcases tags with rfl | ⟨rfl, rfl⟩
    · rfl
    · decide
  cases becomes with
  | scalar tags | sequence tags => rfl
  | mapping tags =>
      rw [Bool.eq_iff_iff, Node.isDeferredMoment_mapping, Node.isDeferredMoment_mapping]
      exact same tags

theorem refl (graph : Graph) (id : Nat) (node : Node) : Becomes graph id node node := by
  cases node with
  | scalar tag text => exact .scalar (.refl tag) text
  | sequence tag items => exact .sequence (.refl tag) items
  | mapping tag entries => exact .mapping (.refl tag) entries (.refl graph id entries)

end Node.Becomes

/-- The nodes of a site are those of a graph, as they may have become. -/
structure Site.Stems (graph : Graph) (site : Site) : Prop where
  nodes : ∀ id : Nat, Option.Rel (Node.Becomes graph id) graph[id]? site.nodes[id]?

namespace Site.Stems

variable {graph : Graph} {site : Site} {id : Nat}

theorem start (graph : Graph) (shapes : Array (Option Shape)) :
    Stems graph { nodes := graph, shapes } where
  nodes id := by
    cases graph[id]? with
    | none => exact .none
    | some node => exact .some (.refl graph id node)

theorem origin (stems : Stems graph site) {node : Node} (stands : site.nodes[id]? = some node) :
    ∃ was, graph[id]? = some was ∧ Node.Becomes graph id was node := by
  have related := stems.nodes id
  rw [stands] at related
  generalize graph[id]? = was at related ⊢
  cases related with
  | some becomes => exact ⟨_, rfl, becomes⟩

/-- A mapping was one, with the same tag or that of a value key. -/
theorem origin_mapping (stems : Stems graph site) {tag : Tag} {entries : List (Nat × Nat)}
    (stands : site.nodes[id]? = some (.mapping tag entries)) :
    ∃ was own, graph[id]? = some (.mapping was own) ∧ was.Becomes tag ∧
      graph.Reshapes id own entries := by
  obtain ⟨_, found, becomes⟩ := stems.origin stands
  cases becomes with
  | mapping tags own reshapes => exact ⟨_, own, found, tags, reshapes⟩

theorem offers (stems : Stems graph site) {tag : Tag} {entries : List (Nat × Nat)}
    (stands : site.nodes[id]? = some (.mapping tag entries)) :
    ∀ entry ∈ entries, graph.Offers id entry := by
  obtain ⟨_, _, found, _, reshapes⟩ := stems.origin_mapping stands
  exact reshapes.offered found

/-- Whatever is no text had its tag from the beginning. -/
theorem origin_tag (stems : Stems graph site) {node : Node} (stands : site.nodes[id]? = some node)
    (other : node.tag ≠ .str) :
    ∃ was, graph[id]? = some was ∧ Node.Becomes graph id was node ∧ was.tag = node.tag := by
  obtain ⟨was, found, becomes⟩ := stems.origin stands
  exact ⟨was, found, becomes, becomes.tags.eq_of_ne_str other⟩

theorem size (stems : Stems graph site) : site.nodes.size = graph.size := by
  have none_iff (id : Nat) : graph[id]? = none ↔ site.nodes[id]? = none := by
    have related := stems.nodes id
    generalize graph[id]? = was at related ⊢
    generalize site.nodes[id]? = now at related ⊢
    cases related with
    | none => exact .rfl
    | some => exact ⟨nofun, nofun⟩
  apply Nat.le_antisymm
  · exact Array.getElem?_eq_none_iff.mp ((none_iff _).mp (Array.getElem?_eq_none (Nat.le_refl _)))
  · exact Array.getElem?_eq_none_iff.mp ((none_iff _).mpr (Array.getElem?_eq_none (Nat.le_refl _)))

theorem isMerge_eq (stems : Stems graph site) :
    Building.isMerge site.nodes = Building.isMerge graph := by
  funext entry
  have related := stems.nodes entry.1
  unfold Building.isMerge
  generalize graph[entry.1]? = was at related ⊢
  generalize site.nodes[entry.1]? = now at related ⊢
  cases related with
  | none => rfl
  | some becomes => exact decide_eq_decide.mpr becomes.tags.merge_iff

theorem setNode (stems : Stems graph site) {was node : Node} (found : graph[id]? = some was)
    (becomes : Node.Becomes graph id was node) :
    Stems graph { site with nodes := site.nodes.setIfInBounds id node } where
  nodes other := by
    rw [Array.getElem?_setIfInBounds]
    split
    next same =>
      subst same
      split
      next => exact found ▸ .some becomes
      next outside =>
        have related := stems.nodes id
        rw [found, Array.getElem?_eq_none (Nat.le_of_not_lt outside)] at related
        cases related
    next => exact stems.nodes other

end Site.Stems

namespace Building

variable {α : Type} {graph : Graph} {site : Site} {flaws : Flaw → Prop} {holds : α → Site → Prop}

theorem nodeAt_bind {id : Nat} {next : Node → Building α} (malformed : flaws .malformed)
    (found : ∀ node, site.nodes[id]? = some node → EndsOrFails (next node) site flaws holds) :
    EndsOrFails (nodeAt id >>= next) site flaws holds := by
  have looks : EndsOrFails (nodeAt id) site flaws fun node after =>
      after = site ∧ site.nodes[id]? = some node := by
    refine .get_bind ?_
    split
    next stands => exact .pure ⟨rfl, stands⟩
    next => exact .throw malformed
  refine looks.bind ?_
  rintro node _ ⟨rfl, stands⟩
  exact found node stands

theorem shapeAt_bind {id : Nat} {next : Option Shape → Building α}
    (rest : EndsOrFails (next (site.shapes[id]?).join) site flaws holds) :
    EndsOrFails (shapeAt? id >>= next) site flaws holds :=
  rest

theorem setShape_bind {id : Nat} {shape : Shape} {next : Unit → Building α}
    (rest : EndsOrFails (next ()) { site with shapes := site.shapes.setIfInBounds id (some shape) }
      flaws holds) :
    EndsOrFails (setShape id shape >>= next) site flaws holds :=
  rest

theorem entriesAt_bind {id : Nat} {next : List (Nat × Nat) → Building α}
    (malformed : flaws .malformed)
    (found : ∀ tag entries, site.nodes[id]? = some (.mapping tag entries) →
      EndsOrFails (next entries) site flaws holds) :
    EndsOrFails (entriesAt id >>= next) site flaws holds := by
  have looks : EndsOrFails (entriesAt id) site flaws fun entries after =>
      after = site ∧ ∃ tag, site.nodes[id]? = some (.mapping tag entries) := by
    refine nodeAt_bind malformed fun node stands => ?_
    split
    · exact .pure ⟨rfl, _, stands⟩
    · exact .throw malformed
  refine looks.bind ?_
  rintro entries _ ⟨rfl, tag, stands⟩
  exact found tag entries stands

theorem itemsAt_bind {id : Nat} {next : List Nat → Building α} (malformed : flaws .malformed)
    (found : ∀ tag items, site.nodes[id]? = some (.sequence tag items) →
      EndsOrFails (next items) site flaws holds) :
    EndsOrFails (itemsAt id >>= next) site flaws holds := by
  have looks : EndsOrFails (itemsAt id) site flaws fun items after =>
      after = site ∧ ∃ tag, site.nodes[id]? = some (.sequence tag items) := by
    refine nodeAt_bind malformed fun node stands => ?_
    split
    · exact .pure ⟨rfl, _, stands⟩
    · exact .throw malformed
  refine looks.bind ?_
  rintro items _ ⟨rfl, tag, stands⟩
  exact found tag items stands

theorem setEntries_ends {id : Nat} {entries : List (Nat × Nat)} {holds : Unit → Site → Prop}
    (malformed : flaws .malformed)
    (held : ∀ node, site.nodes[id]? = some node →
      holds () { site with nodes := site.nodes.setIfInBounds id (.mapping node.tag entries) }) :
    EndsOrFails (setEntries id entries) site flaws holds :=
  nodeAt_bind malformed fun node stands => held node stands

end Building

end BezelStream.Yaml
