import BezelStream.Proofs.Yaml.Stemming
import Mathlib.Data.List.TakeDrop
import Mathlib.Data.List.TakeWhile

/-! # What merging keeps

A merge key is taken out of its mapping before the mappings under it are looked at, so the number
of merge keys goes down and bounds how deep merging goes. A mapping that was flattened has none, and
what it got for them are ordinary entries of the mappings that they name.
-/

namespace BezelStream.Yaml.Building

/-- What follows the entries before the first merge key begins with it. -/
theorem span_merges {nodes : Graph} {entries before rest : List (Nat × Nat)}
    (split : entries.span (fun entry => !isMerge nodes entry) = (before, rest)) :
    entries = before ++ rest ∧ (∀ entry ∈ before, isMerge nodes entry = false) ∧
      ∀ entry more, rest = entry :: more → isMerge nodes entry = true := by
  rw [List.span_eq_takeWhile_dropWhile] at split
  obtain ⟨rfl, rfl⟩ := Prod.mk.inj split
  refine ⟨List.takeWhile_append_dropWhile.symm, fun entry member => ?_, fun entry more shape => ?_⟩
  · simpa using List.mem_takeWhile_imp member
  · have first := List.head?_dropWhile_not (fun entry => !isMerge nodes entry) entries
    rw [shape] at first
    simpa using first

theorem countP_entries_set {nodes : List Node} {id : Nat} {old : Node} (p : Nat × Nat → Bool)
    (stands : nodes[id]? = some old) (new : Node) :
    ((nodes.set id new).flatMap Node.entries).countP p + old.entries.countP p =
      (nodes.flatMap Node.entries).countP p + new.entries.countP p := by
  induction nodes generalizing id with
  | nil => cases stands
  | cons node rest ih =>
      cases id with
      | zero =>
          cases stands
          simp only [List.set_cons_zero, List.flatMap_cons, List.countP_append]
          omega
      | succ id =>
          have others := ih stands
          simp only [List.set_cons_succ, List.flatMap_cons, List.countP_append]
          omega

variable {graph : Graph} {site : Site} {id fuel : Nat}

/-- A change of one node changes the number of merge keys by those of the node. -/
theorem mergeCount_set (stems : site.Stems graph) {old new : Node}
    (stands : site.nodes[id]? = some old)
    (changed : Site.Stems graph { site with nodes := site.nodes.setIfInBounds id new }) :
    mergeCount (site.nodes.setIfInBounds id new) + old.entries.countP (isMerge graph) =
      mergeCount site.nodes + new.entries.countP (isMerge graph) := by
  have same := changed.isMerge_eq
  dsimp only at same
  unfold mergeCount
  rw [same, stems.isMerge_eq, Array.toList_setIfInBounds]
  exact countP_entries_set _ ((Array.getElem?_toList ..).trans stands) new

/-- What a change of nodes comes to: they still stem from the graph, and nothing else changes. -/
structure Changes (graph : Graph) (site after : Site) : Prop where
  stems : after.Stems graph
  rest : after = { site with nodes := after.nodes }

/-- What a part of the merging comes to: there are no more merge keys than before. -/
structure Merges (graph : Graph) (site after : Site) : Prop where
  changes : Changes graph site after
  fewer : mergeCount after.nodes ≤ mergeCount site.nodes

/-- A mapping that has no merge keys. -/
def Flat (graph : Graph) (site : Site) (id : Nat) : Prop :=
  ∃ tag entries, site.nodes[id]? = some (.mapping tag entries) ∧
    ∀ entry ∈ entries, isMerge graph entry = false

theorem Changes.trans {middle after : Site} (first : Changes graph site middle)
    (rest : Changes graph middle after) : Changes graph site after :=
  ⟨rest.stems, rest.rest.trans (by rw [first.rest])⟩

theorem Merges.refl (stems : site.Stems graph) : Merges graph site site :=
  ⟨⟨stems, rfl⟩, Nat.le_refl _⟩

theorem Merges.trans {middle after : Site} (first : Merges graph site middle)
    (rest : Merges graph middle after) : Merges graph site after :=
  ⟨first.changes.trans rest.changes, rest.fewer.trans first.fewer⟩

/-- What both parts of the merging come to with so much fuel. -/
structure Merging (graph : Graph) (fuel : Nat) : Prop where
  takes : ∀ id site, site.Stems graph → 2 * mergeCount site.nodes < fuel →
    EndsOrFails (takeMerges fuel id) site (· = .malformed) fun merged after =>
      Merges graph site after ∧ (∀ entry ∈ merged, graph.TakesOver id entry) ∧ Flat graph after id
  flattens : ∀ id site, site.Stems graph → 2 * mergeCount site.nodes + 1 < fuel →
    EndsOrFails (flatten fuel id) site (· = .malformed) fun _ after =>
      Merges graph site after ∧ Flat graph after id

/-- Entries for a mapping take the place of those that it has. -/
theorem setEntries_counts {tag : Tag} {was old entries : List (Nat × Nat)} {wasTag : Tag}
    (stems : site.Stems graph) (stands : site.nodes[id]? = some (.mapping tag old))
    (found : graph[id]? = some (.mapping wasTag was)) (tags : wasTag.Becomes tag)
    (reshapes : graph.Reshapes id was entries) :
    EndsOrFails (setEntries id entries) site (· = .malformed) fun _ after =>
      Changes graph site after ∧
        mergeCount after.nodes + old.countP (isMerge graph) =
          mergeCount site.nodes + entries.countP (isMerge graph) ∧
        after.nodes[id]? = some (.mapping tag entries) := by
  refine setEntries_ends rfl fun node same => ?_
  cases stands.symm.trans same
  have changed := stems.setNode found (.mapping tags was reshapes)
  refine ⟨⟨changed, rfl⟩, mergeCount_set stems stands changed, ?_⟩
  exact Array.getElem?_setIfInBounds_self_of_lt (Array.getElem?_eq_some_iff.mp stands).1

theorem mergedNodes_ends (stems : site.Stems graph) :
    EndsOrFails (mergedNodes id) site (· = .malformed) fun parts after =>
      site = after ∧ ∀ part ∈ parts, graph.Names id part := by
  refine nodeAt_bind rfl fun node stands => ?_
  obtain ⟨was, found, becomes⟩ := stems.origin stands
  cases becomes with
  | scalar => exact .throw rfl
  | sequence tags items => exact .pure ⟨rfl, fun part member => .inr ⟨_, items, found, member⟩⟩
  | mapping tags old =>
      refine .pure ⟨rfl, fun part member => .inl ⟨⟨_, old, found⟩, ?_⟩⟩
      exact List.mem_singleton.mp member

/-- Spelling a key out changes no entries. -/
theorem spellOut_merges (stems : site.Stems graph) :
    EndsOrFails (spellOut id) site (· = .malformed) fun _ after => Merges graph site after ∧
      ∀ (other : Nat) tag entries, site.nodes[other]? = some (.mapping tag entries) →
        ∃ tag, after.nodes[other]? = some (.mapping tag entries) := by
  refine nodeAt_bind rfl fun node stands => ?_
  split
  next value =>
    obtain ⟨was, found, becomes⟩ := stems.origin stands
    have changed := stems.setNode found (becomes.spellOut value)
    have count := mergeCount_set stems stands changed
    have same : (node.withTag .str).entries = node.entries := by cases node <;> rfl
    rw [same] at count
    refine ⟨⟨⟨changed, rfl⟩, (Nat.add_right_cancel count).le⟩, fun other tag entries mapping => ?_⟩
    dsimp only
    rw [Array.getElem?_setIfInBounds]
    split
    next here =>
      subst here
      cases stands.symm.trans mapping
      exact ⟨.str, if_pos (Array.getElem?_eq_some_iff.mp stands).1⟩
    next => exact ⟨tag, mapping⟩
  next => exact .pure ⟨.refl stems, fun _ tag _ stands => ⟨tag, stands⟩⟩

/-- A mapping without merge keys has ordinary entries only, and it offers them. -/
theorem entriesAt_plain {part : Nat} (stems : site.Stems graph) (flat : Flat graph site part) :
    EndsOrFails (entriesAt part) site (· = .malformed) fun entries after =>
      site = after ∧ ∀ entry ∈ entries, graph.Offers part entry ∧ isMerge graph entry = false := by
  obtain ⟨tag, entries, stands, plain⟩ := flat
  refine nodeAt_bind rfl fun node found => ?_
  cases stands.symm.trans found
  exact .pure ⟨rfl, fun entry member => ⟨stems.offers stands entry member, plain entry member⟩⟩

namespace Merging

/-- The mappings that a merge key names are flattened one after the other. -/
theorem merged_ends (merging : Merging graph fuel) (stems : site.Stems graph)
    (enough : 2 * mergeCount site.nodes + 1 < fuel) {parts : List Nat}
    (takesOver : ∀ part ∈ parts, ∀ entry, graph.Offers part entry → isMerge graph entry = false →
      graph.TakesOver id entry) :
    EndsOrFails (parts.mapM fun part => do
      flatten fuel part
      entriesAt part) site (· = .malformed) fun merged after =>
        (∀ entries ∈ merged, ∀ entry ∈ entries, graph.TakesOver id entry) ∧
          Merges graph site after := by
  refine .mapM (fun part listed going merges => ?_) (.refl stems)
  have less := merges.fewer
  refine (merging.flattens part going merges.changes.stems (by omega)).bind ?_
  rintro _ flattened ⟨more, flat⟩
  refine (entriesAt_plain more.changes.stems flat).imp ?_
  rintro entries _ ⟨rfl, plain⟩
  refine ⟨fun entry member => ?_, merges.trans more⟩
  obtain ⟨offers, ordinary⟩ := plain entry member
  exact takesOver part listed entry offers ordinary

theorem takes_succ (merging : Merging graph fuel) (stems : site.Stems graph)
    (enough : 2 * mergeCount site.nodes < fuel + 1) :
    EndsOrFails (takeMerges (fuel + 1) id) site (· = .malformed) fun merged after =>
      Merges graph site after ∧ (∀ entry ∈ merged, graph.TakesOver id entry) ∧
        Flat graph after id := by
  rw [takeMerges]
  refine .get_bind (entriesAt_bind rfl fun tag entries stands => ?_)
  split
  next before split =>
    obtain ⟨rfl, plain, -⟩ := span_merges split
    rw [List.append_nil] at stands
    rw [stems.isMerge_eq] at plain
    exact .pure ⟨.refl stems, nofun, tag, before, stands, plain⟩
  next before key value after split =>
    obtain ⟨rfl, -, merge⟩ := span_merges split
    have merge := merge (key, value) after rfl
    rw [stems.isMerge_eq] at merge
    obtain ⟨_, own, found, tags, reshapes⟩ := stems.origin_mapping stands
    have listed : (key, value) ∈ own :=
      reshapes.merges _ (List.mem_append_right _ List.mem_cons_self) merge
    refine (setEntries_counts stems stands found tags (reshapes.drop merge)).bind
      fun _ taken ⟨changes, count, _⟩ => ?_
    have fewer : mergeCount taken.nodes + 1 = mergeCount site.nodes := by
      rw [List.countP_append, List.countP_append, List.countP_cons_of_pos merge] at count
      omega
    refine (mergedNodes_ends changes.stems).bind ?_
    rintro parts _ ⟨rfl, names⟩
    have turns := merging.merged_ends changes.stems (by omega) fun part member _ =>
      .merged found listed merge (names part member)
    refine turns.bind fun merged after ⟨takes, merges⟩ => ?_
    have less := merges.fewer
    refine (merging.takes id after merges.changes.stems (by omega)).bind ?_
    rintro others ended ⟨more, othersTake, flat⟩
    have through : Merges graph site after := ⟨changes.trans merges.changes, by omega⟩
    refine .pure ⟨through.trans more, fun entry member => ?_, flat⟩
    rcases List.mem_append.mp member with given | other
    · obtain ⟨entries, listed, member⟩ := List.mem_flatten.mp given
      exact takes entries (List.mem_reverse.mp listed) entry member
    · exact othersTake entry other

theorem flattens_succ (merging : Merging graph fuel) (stems : site.Stems graph)
    (enough : 2 * mergeCount site.nodes + 1 < fuel + 1) :
    EndsOrFails (flatten (fuel + 1) id) site (· = .malformed) fun _ after =>
      Merges graph site after ∧ Flat graph after id := by
  rw [flatten]
  refine (merging.takes id site stems (by omega)).bind ?_
  rintro merged taken ⟨merges, takes, tag, entries, stands, plain⟩
  refine entriesAt_bind rfl fun _ found same => ?_
  cases stands.symm.trans same
  have spelled : EndsOrFails (entries.forM fun entry => spellOut entry.1) taken (· = .malformed)
      fun _ t => Merges graph taken t ∧ ∃ tag, t.nodes[id]? = some (.mapping tag entries) := by
    refine .forM (fun entry _ t ⟨going, tag, stands⟩ => ?_) ⟨.refl merges.changes.stems, tag, stands⟩
    exact (spellOut_merges going.changes.stems).imp fun _ _ ⟨more, keeps⟩ =>
      ⟨going.trans more, keeps id tag entries stands⟩
  refine spelled.bind fun _ t ⟨more, tag, stands⟩ => ?_
  have stems := more.changes.stems
  obtain ⟨_, own, found, tags, reshapes⟩ := stems.origin_mapping stands
  have both : ∀ entry ∈ merged ++ entries, isMerge graph entry = false :=
    List.forall_mem_append.mpr ⟨fun entry member => (takes entry member).plain, plain⟩
  refine (setEntries_counts stems stands found tags (reshapes.prepend takes)).imp ?_
  intro _ after ⟨changes, count, stands⟩
  have zero : (merged ++ entries).countP (isMerge graph) = 0 :=
    List.countP_eq_zero.mpr fun entry member => by simp [both entry member]
  have last : Merges graph t after := ⟨changes, by omega⟩
  exact ⟨(merges.trans more).trans last, tag, merged ++ entries, stands, both⟩

end Merging

/-- With more fuel than twice the number of merge keys, merging fails only because the text is
    malformed. -/
theorem merging (graph : Graph) (fuel : Nat) : Merging graph fuel := by
  induction fuel with
  | zero => exact ⟨fun _ _ _ enough => absurd enough (by omega), fun _ _ _ enough =>
      absurd enough (by omega)⟩
  | succ fuel ih =>
      exact ⟨fun _ _ stems enough => ih.takes_succ stems enough,
        fun _ _ stems enough => ih.flattens_succ stems enough⟩

end BezelStream.Yaml.Building
