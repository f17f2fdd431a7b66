import BezelStream.Yaml.Graph
import BezelStream.Proofs.Yaml.Outcome

/-! # What the graph of a tree is

A tree makes a graph unless an anchor of it is set twice or an alias refers to none. The nodes of
the graph have tags that the tree gives them.
-/

namespace BezelStream.Yaml

namespace Tree

mutual

/-- The tags that a tree gives to its nodes. -/
def tags : Tree → List Tag
  | .alias _ => []
  | .scalar props text plain => [Graph.scalarTag props text plain]
  | .sequence props items => Graph.tagFor props .seq :: itemsTags items
  | .mapping props entries => Graph.tagFor props .map :: entriesTags entries

def itemsTags : List Tree → List Tag
  | [] => []
  | item :: rest => item.tags ++ itemsTags rest

def entriesTags : List (Tree × Tree) → List Tag
  | [] => []
  | (key, value) :: rest => key.tags ++ value.tags ++ entriesTags rest

end

end Tree

namespace Graph

variable {α : Type} {allowed : Tag → Prop}

/-- A draft whose nodes have none but allowed tags. -/
def Draft.Keeps (allowed : Tag → Prop) (draft : Draft) : Prop :=
  ∀ node ∈ draft.nodes, allowed node.tag

/-- A drafting that adds none but allowed tags and fails for no other reason than a malformed
    text. -/
abbrev Drafts (allowed : Tag → Prop) (x : Drafting α) : Prop :=
  ∀ draft, draft.Keeps allowed → EndsOrFails x draft (· = .malformed) fun _ after => after.Keeps allowed

theorem addNode_drafts (props : Properties) {node : Node} (tagged : allowed node.tag) :
    Drafts allowed (addNode props node) := by
  intro draft kept
  have pushed : ∀ other ∈ draft.nodes.push node, allowed other.tag := by
    intro other member
    rcases Array.mem_push.mp member with earlier | rfl
    · exact kept other earlier
    · exact tagged
  unfold addNode
  refine .get_bind ?_
  dsimp only
  split
  · exact .set_bind (.pure pushed)
  · split
    · exact .throw rfl
    · exact .set_bind (.pure pushed)

theorem Draft.Keeps.setNode {draft : Draft} (kept : draft.Keeps allowed) (id : Nat) {node : Node}
    (tagged : allowed node.tag) :
    Draft.Keeps allowed { draft with nodes := draft.nodes.setIfInBounds id node } := by
  intro other member
  rcases Array.mem_or_eq_of_mem_setIfInBounds member with earlier | rfl
  · exact kept other earlier
  · exact tagged

mutual

theorem addTree_drafts (tree : Tree) (each : ∀ tag ∈ tree.tags, allowed tag) :
    Drafts allowed (addTree tree) := by
  intro draft kept
  match tree with
  | .alias name =>
      rw [addTree]
      refine .get_bind ?_
      split
      · exact .pure kept
      · exact .throw rfl
  | .scalar props text plain =>
      rw [addTree]
      exact addNode_drafts props (each _ List.mem_cons_self) draft kept
  | .sequence props items =>
      obtain ⟨own, parts⟩ := List.forall_mem_cons.mp each
      rw [addTree]
      refine .bind (addNode_drafts props own draft kept) fun id added kept => ?_
      refine .bind (addTrees_drafts items parts added kept) fun ids filled kept => ?_
      exact .modify_bind (.pure (kept.setNode id own))
  | .mapping props entries =>
      obtain ⟨own, parts⟩ := List.forall_mem_cons.mp each
      rw [addTree]
      refine .bind (addNode_drafts props own draft kept) fun id added kept => ?_
      refine .bind (addEntries_drafts entries parts added kept) fun ids filled kept => ?_
      exact .modify_bind (.pure (kept.setNode id own))

theorem addTrees_drafts (trees : List Tree) (each : ∀ tag ∈ Tree.itemsTags trees, allowed tag) :
    Drafts allowed (addTrees trees) := by
  intro draft kept
  match trees with
  | [] =>
      rw [addTrees]
      exact .pure kept
  | tree :: rest =>
      obtain ⟨first, others⟩ := List.forall_mem_append.mp each
      rw [addTrees]
      refine .bind (addTree_drafts tree first draft kept) fun id added kept => ?_
      exact .bind (addTrees_drafts rest others added kept) fun ids _ kept => .pure kept

theorem addEntries_drafts (entries : List (Tree × Tree))
    (each : ∀ tag ∈ Tree.entriesTags entries, allowed tag) :
    Drafts allowed (addEntries entries) := by
  intro draft kept
  match entries with
  | [] =>
      rw [addEntries]
      exact .pure kept
  | (key, value) :: rest =>
      obtain ⟨both, others⟩ := List.forall_mem_append.mp each
      obtain ⟨first, second⟩ := List.forall_mem_append.mp both
      rw [addEntries]
      refine .bind (addTree_drafts key first draft kept) fun k keyed kept => ?_
      refine .bind (addTree_drafts value second keyed kept) fun v valued kept => ?_
      exact .bind (addEntries_drafts rest others valued kept) fun _ _ kept => .pure kept

end

/-- The nodes of the graph of a tree have tags of the tree. -/
theorem ofTree_tags (tree : Tree) :
    GivesOrFails (fun made => ∀ node ∈ made.1, node.tag ∈ tree.tags) (· = .malformed) (ofTree tree) := by
  have drafts : Drafts (· ∈ tree.tags) (addTree tree) := addTree_drafts tree fun _ member => member
  exact GivesOrFails.bind (drafts {} nofun) fun _ kept => kept

theorem ofTree_gives (tree : Tree) : GivesOrFails (fun _ => True) (· = .malformed) (ofTree tree) :=
  (ofTree_tags tree).imp (fun _ _ => trivial) fun _ flaw => flaw

end Graph

end BezelStream.Yaml
