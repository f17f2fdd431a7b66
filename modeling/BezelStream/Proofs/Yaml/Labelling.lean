import BezelStream.Proofs.Yaml.Drafting
import BezelStream.Proofs.Yaml.Parsing
import BezelStream.Proofs.Yaml.Resolving

/-! # Labels for plain scalars

`Tree.labelled` writes a tag on every plain scalar that has none. If these are the tags that the
scalars get by their looks anyway, the tree makes the same graph. No other tag depends on a look: a
tree of a text without tags has sequences, mappings, texts and what its plain scalars look like.
-/

namespace BezelStream.Yaml

/-- A text that stands for the tag. -/
def Tag.spelling (tag : Tag) : String :=
  "tag:yaml.org,2002:" ++ ((names.find? fun named => named.2 = tag).elim "yaml" Prod.fst)

theorem Tag.ofText_spelling (tag : Tag) : ofText tag.spelling = tag := by
  cases tag <;> decide +kernel

theorem Tag.spelling_ne_mark (tag : Tag) : tag.spelling ≠ "!" := by
  cases tag <;> decide +kernel

namespace Tree

variable (label : String → Tag)

mutual

/-- The tree with a tag on every plain scalar that has none. -/
def labelled : Tree → Tree
  | .alias name => .alias name
  | .scalar props text plain =>
    match plain, props.tag, text.string? with
    | true, none, some s => .scalar { props with tag := some (label s).spelling } text plain
    | _, _, _ => .scalar props text plain
  | .sequence props items => .sequence props (labelledItems items)
  | .mapping props entries => .mapping props (labelledEntries entries)

def labelledItems : List Tree → List Tree
  | [] => []
  | item :: rest => item.labelled :: labelledItems rest

def labelledEntries : List (Tree × Tree) → List (Tree × Tree)
  | [] => []
  | (key, value) :: rest => (key.labelled, value.labelled) :: labelledEntries rest

end

end Tree

variable {label : String → Tag} {text : List Token} {tree : Tree} {props : Properties}

/-- Labels that say what the plain scalars of a text look like. -/
structure Labels (label : String → Tag) (text : List Token) : Prop where
  listed : ∀ s : String, .scalar s true ∈ text → label s = resolve s
  absent : label "" = resolve ""

namespace Graph

theorem tagFor_spelling (anchor : Option String) (tag own : Tag) :
    tagFor ⟨anchor, some tag.spelling⟩ own = tag := by
  have ordinary := tag.spelling_ne_mark
  unfold tagFor
  split
  next none => cases none
  next mark => exact absurd (Option.some.inj mark) ordinary
  next same => rw [← Option.some.inj same, Tag.ofText_spelling]

theorem addScalar_labelled {t : CodePoints} {plain : Bool}
    (fits : plain = true → ∀ s : String, t = s → label s = resolve s) :
    addTree (Tree.labelled label (.scalar props t plain)) = addTree (.scalar props t plain) := by
  unfold Tree.labelled
  split
  next s own is =>
    have same := CodePoints.string?_eq_some_iff.mp is
    rw [addTree, addTree, scalarTag, tagFor_spelling, fits rfl s same, scalarTag, tagFor, own, same,
      tagByLook_ofString]
    rfl
  next => rfl

theorem addTrees_labelled {items : List Tree}
    (each : ∀ item ∈ items, addTree (item.labelled label) = addTree item) :
    addTrees (Tree.labelledItems label items) = addTrees items := by
  induction items with
  | nil => rfl
  | cons item rest ih =>
      obtain ⟨first, others⟩ := List.forall_mem_cons.mp each
      rw [Tree.labelledItems, addTrees, addTrees, first, ih others]

theorem addEntries_labelled {entries : List (Tree × Tree)}
    (keys : ∀ entry ∈ entries, addTree (entry.1.labelled label) = addTree entry.1)
    (values : ∀ entry ∈ entries, addTree (entry.2.labelled label) = addTree entry.2) :
    addEntries (Tree.labelledEntries label entries) = addEntries entries := by
  induction entries with
  | nil => rfl
  | cons entry rest ih =>
      obtain ⟨key, otherKeys⟩ := List.forall_mem_cons.mp keys
      obtain ⟨value, otherValues⟩ := List.forall_mem_cons.mp values
      rw [Tree.labelledEntries, addEntries, addEntries, key, value, ih otherKeys otherValues]

/-- Labels that say what plain scalars look like change nothing. -/
theorem addTree_labelled (labels : Labels label text) (of : tree.Of text) :
    addTree (tree.labelled label) = addTree tree := by
  induction of with
  | reference => rfl
  | scalar tagged worded =>
      refine addScalar_labelled ?_
      rintro rfl s rfl
      rcases worded with member | ⟨empty, -⟩
      · exact labels.listed s member
      · -- What is left out is a plain scalar that no token stands for.
        obtain rfl : s = "" := CodePoints.ofString_inj.mp empty
        exact labels.absent
  | sequence tagged each ih => rw [Tree.labelled, addTree, addTree, addTrees_labelled ih]
  | mapping tagged keys values keyed valued =>
      rw [Tree.labelled, addTree, addTree, addEntries_labelled keyed valued]

theorem ofTree_labelled (labels : Labels label text) (of : tree.Of text) :
    ofTree (tree.labelled label) = ofTree tree := by
  rw [ofTree, ofTree, addTree_labelled labels of]

theorem tagFor_untagged (own : Tag) (tagged : props.Of text)
    (untagged : ∀ handle suffix, .tag handle suffix ∉ text) : tagFor props own = own := by
  have none : props.tag = none := by
    by_contra some
    obtain ⟨handle, suffix, member⟩ := tagged some
    exact untagged handle suffix member
  rw [tagFor, none]

end Graph

/-! ## Trees without tags -/

/-- The tags that nodes may have if the text has no tags. -/
def Tag.implicit : List Tag :=
  .seq :: .map :: .str :: rules.map Prod.fst

namespace Tree

theorem itemsTags_eq (items : List Tree) : itemsTags items = items.flatMap tags := by
  induction items with
  | nil => rfl
  | cons item rest ih => rw [itemsTags, ih, List.flatMap_cons]

theorem entriesTags_eq (entries : List (Tree × Tree)) :
    entriesTags entries = entries.flatMap fun entry => entry.1.tags ++ entry.2.tags := by
  induction entries with
  | nil => rfl
  | cons entry rest ih => rw [entriesTags, ih, List.flatMap_cons]

/-- Without tags in the text only the looks of plain scalars give tags of scalars. -/
theorem Of.implicit (of : tree.Of text)
    (untagged : ∀ handle suffix, .tag handle suffix ∉ text) :
    ∀ tag ∈ tree.tags, tag ∈ Tag.implicit := by
  induction of with
  | reference => exact nofun
  | @scalar props s plain tagged worded =>
      rw [tags, Graph.scalarTag, Graph.tagFor_untagged _ tagged untagged]
      refine List.forall_mem_singleton.mpr ?_
      split
      · exact List.mem_cons_of_mem _ (List.mem_cons_of_mem _ (tagByLook_mem s))
      · decide
  | sequence tagged each ih =>
      rw [tags, Graph.tagFor_untagged _ tagged untagged, itemsTags_eq]
      refine List.forall_mem_cons.mpr ⟨by decide, fun tag part => ?_⟩
      obtain ⟨item, listed, among⟩ := List.mem_flatMap.mp part
      exact ih item listed tag among
  | mapping tagged keys values keyed valued =>
      rw [tags, Graph.tagFor_untagged _ tagged untagged, entriesTags_eq]
      refine List.forall_mem_cons.mpr ⟨by decide, fun tag part => ?_⟩
      obtain ⟨entry, listed, among⟩ := List.mem_flatMap.mp part
      rcases List.mem_append.mp among with among | among
      · exact keyed entry listed tag among
      · exact valued entry listed tag among

end Tree

end BezelStream.Yaml
