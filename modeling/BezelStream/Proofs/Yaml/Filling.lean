import BezelStream.Proofs.Yaml.Building

/-! # Filling what waits

Every node comes to wait at most once, so there are enough turns to fill all of them. When none
waits any more, whatever is built is built as its node says, and all its parts are built.
-/

namespace BezelStream.Yaml

variable {clash : Key → Key → Bool} {graph : Graph} {filling : List Nat} {site after : Site}
  {id fuel : Nat}

namespace Building

/-- A mapping whose only key can be built is spread as it stands. -/
theorem isPair_of_built {tag : Tag} {pair : Nat × Nat} {stemming : Site}
    (stems : stemming.Stems graph) (stands : stemming.nodes[id]? = some (.mapping tag [pair]))
    (sound : site.Sound clash graph filling) (built : (site.shape? pair.1).isSome) :
    graph.IsPair id pair := by
  obtain ⟨_, own, found, _, reshapes⟩ := stems.origin_mapping stands
  obtain ⟨shape, given⟩ := Option.isSome_iff_exists.mp built
  have plain : graph.ordinary [pair] = [pair] :=
    Graph.ordinary_eq_self.mpr (by simp [sound.plain given])
  exact .single found (plain ▸ reshapes.spreads found)

section

variable {build : Nat → Building Unit} (builder : Builder clash graph filling fuel build)

include builder

theorem builds_ends (items : List Nat) (ready : Ready clash graph filling fuel site) :
    EndsOrFails (items.forM build) site (graph.Fails clash) fun _ after =>
      (∀ item ∈ items, (after.shape? item).isSome) ∧ Leads clash graph filling site after := by
  induction items generalizing site with
  | nil => exact .pure ⟨nofun, .refl ready.sound⟩
  | cons item rest ih =>
      refine (builder item site ready).bind fun _ begun ⟨leads, there⟩ => ?_
      refine (ih (ready.leads leads)).imp fun _ after ⟨built, more⟩ => ?_
      exact ⟨List.forall_mem_cons.mpr ⟨more.grows.built item there, built⟩, leads.trans more⟩

theorem setMembers_ends (entries : List (Nat × Nat)) (done : List Key)
    (ready : Ready clash graph filling fuel site) :
    EndsOrFails (setMembers build entries done) site (graph.Fails clash) fun _ after =>
      Leads clash graph filling site after := by
  induction entries generalizing done site with
  | nil => exact .pure (.refl ready.sound)
  | cons entry rest ih =>
      obtain ⟨k, v⟩ := entry
      rw [setMembers]
      refine (builder k site ready).bind fun _ keyed ⟨leads, built⟩ => ?_
      refine (keyOf_ends leads.sound built).bind ?_
      rintro key _ ⟨rfl, -⟩
      cases key with
      | none => exact .throw .malformed
      | some key =>
          have ready := ready.leads leads
          refine (builder v keyed ready).bind fun _ valued ⟨more, _⟩ => ?_
          refine (ih _ (ready.leads more)).imp fun _ after last => ?_
          exact (leads.trans more).trans last

theorem pairEntries_ends (items : List Nat) (ready : Ready clash graph filling fuel site) :
    EndsOrFails (pairEntries build items) site (graph.Fails clash) fun pairs after =>
      List.Forall₂ graph.IsPair items pairs ∧
        (∀ pair ∈ pairs, (after.shape? pair.1).isSome ∧ (after.shape? pair.2).isSome) ∧
        Leads clash graph filling site after := by
  induction items generalizing site with
  | nil => exact .pure ⟨.nil, nofun, .refl ready.sound⟩
  | cons item rest ih =>
      rw [pairEntries]
      refine entriesAt_bind .malformed fun tag entries stands => ?_
      split
      next k v =>
        refine (builder k site ready).bind fun _ keyed ⟨leads, here⟩ => ?_
        have single := isPair_of_built ready.sound.stems stands leads.sound here
        refine (builder v keyed (ready.leads leads)).bind fun _ valued ⟨more, there⟩ => ?_
        have both := leads.trans more
        refine (ih (ready.leads both)).bind fun pairs after ⟨singles, built, last⟩ => ?_
        have first : (after.shape? k).isSome ∧ (after.shape? v).isSome :=
          ⟨last.grows.built k (more.grows.built k here), last.grows.built v there⟩
        exact .pure ⟨.cons single singles, List.forall_mem_cons.mpr ⟨first, built⟩, both.trans last⟩
      next => exact .throw .malformed

end

/-- A node that waits keeps its tag. -/
theorem awaits_tag (stems : site.Stems graph) (awaits : graph.Awaits id) {node : Node}
    (stands : site.nodes[id]? = some node) :
    ∃ was, graph[id]? = some was ∧ Node.Becomes graph id was node ∧ was.tag = node.tag ∧
      node.tag.isFilled = true := by
  obtain ⟨was, found, filled⟩ := awaits
  obtain ⟨_, again, becomes⟩ := stems.origin stands
  cases found.symm.trans again
  rcases becomes.tags with same | ⟨value, -⟩
  · exact ⟨was, found, becomes, same.symm, same ▸ filled⟩
  · rw [value] at filled
    cases filled

theorem fill_ends {build : Nat → Building Unit} (builder : Builder clash graph [id] fuel build)
    (ready : Ready clash graph [id] fuel site) (awaits : graph.Awaits id) :
    EndsOrFails (fill build id) site (graph.Fails clash) fun _ after =>
      after.Sound clash graph [] ∧ after.active = site.active ∧ site.Grows after := by
  have stores {after : Site} {shape : Shape} (leads : Leads clash graph [id] site after)
      (shapes : after.Shapes clash graph [] id shape) :
      EndsOrFails (setShape id shape) after (graph.Fails clash) fun _ after =>
        after.Sound clash graph [] ∧ after.active = site.active ∧ site.Grows after := by
    have free := leads.sound.free awaits.hasParts
    have sound := leads.sound.setShape free shapes fun other member =>
      .inl (List.mem_singleton.mp member)
    exact ⟨sound, leads.active, leads.grows.trans (Site.grows_set shape free)⟩
  unfold fill
  refine nodeAt_bind .malformed fun node stands => ?_
  obtain ⟨was, found, becomes, same, filled⟩ := awaits_tag ready.sound.stems awaits stands
  split
  next tag =>
    refine itemsAt_bind .malformed fun _ items again => ?_
    cases stands.symm.trans again
    cases becomes with
    | sequence _ items =>
        cases same.trans tag
        refine (builds_ends builder items ready).bind fun _ after ⟨built, leads⟩ => ?_
        exact stores leads (.list found built)
  next tag =>
    refine .get_bind ?_
    have flattens := (merging graph _).flattens id site ready.sound.stems (Nat.lt_succ_self _)
    refine (flattens.of_few ?_).bind fun _ flat ⟨merges, _⟩ => ?_
    · rintro _ rfl
      exact .malformed
    obtain ⟨sound, grows, active, -⟩ := ready.sound.changes merges.changes
    have leads : Leads clash graph [id] site flat := ⟨sound, active, grows⟩
    refine entriesAt_bind .malformed fun _ entries again => ?_
    obtain ⟨_, own, mapping, tags, _⟩ := sound.stems.origin_mapping again
    cases found.symm.trans mapping
    cases same.trans tag
    refine (setMembers_ends builder entries [] (ready.leads leads)).bind fun members after more => ?_
    exact stores (leads.trans more) (.set found)
  next other none =>
    refine itemsAt_bind .malformed fun tag items again => ?_
    cases stands.symm.trans again
    cases becomes with
    | @sequence was _ tags items =>
        cases (same : was = tag)
        refine (pairEntries_ends builder items ready).bind fun pairs after ⟨single, built, leads⟩ => ?_
        refine stores leads (.pairs found ?_ single built)
        cases tag with
        | omap => exact .inl rfl
        | pairs => exact .inr rfl
        | seq => exact absurd rfl other
        | set => exact absurd rfl none
        | _ => cases filled

/-- Every turn fills one of the waiting nodes, and a node comes to wait only by being built. -/
theorem fillAll_ends {build : Nat → Building Unit}
    (builder : ∀ filling, Builder clash graph filling fuel build) {turns : Nat}
    (ready : Ready clash graph [] fuel site) (few : site.unfinished ≤ turns) :
    EndsOrFails (fillAll build turns) site (graph.Fails clash) fun _ after =>
      after.Sound clash graph [] ∧ after.queue = [] ∧ site.Grows after := by
  induction turns generalizing site with
  | zero =>
      have rests : site.queue = [] := List.eq_nil_of_length_eq_zero
        (Nat.eq_zero_of_add_eq_zero_left (Nat.le_zero.mp few))
      exact .pure ⟨ready.sound, rests, .of_shapes rfl (Nat.le_refl _)⟩
  | succ turns ih =>
      rw [fillAll]
      refine .get_bind ?_
      split
      next rests => exact .pure ⟨ready.sound, rests, .of_shapes rfl (Nat.le_refl _)⟩
      next id rest waits =>
        have awaits : graph.Awaits id := ready.sound.queue id (waits ▸ List.mem_cons_self)
        have begun : Ready clash graph [id] fuel { site with queue := rest } :=
          ⟨ready.sound.take waits, ready.once, ready.inside, ready.enough⟩
        have taken : site.Grows { site with queue := rest } := .of_shapes rfl (by simp [waits])
        have one : Site.unfinished { site with queue := rest } + 1 = site.unfinished := by
          simp [Site.unfinished, waits, Nat.add_assoc]
        refine .modify_bind ((fill_ends (builder [id]) begun awaits).bind ?_)
        rintro _ filled ⟨sound, active, grows⟩
        have ready : Ready clash graph [] fuel filled :=
          ⟨sound, active ▸ ready.once, active ▸ ready.inside, active ▸ ready.enough⟩
        have fewer := grows.fewer
        refine (ih ready (by omega)).imp ?_
        rintro _ after ⟨sound, rests, more⟩
        exact ⟨sound, rests, (taken.trans grows).trans more⟩

end Building

/-- A site of which nothing waits to be filled any more, and whose root is built. -/
structure Site.Finished (clash : Key → Key → Bool) (graph : Graph) (root : Nat) (site : Site) :
    Prop where
  sound : site.Sound clash graph []
  done : site.queue = []
  root : (site.shape? root).isSome

/-- A graph is constructed to the end, or its construction fails because the text is malformed, a
    key stands twice or a node does not fit. -/
theorem construct_gives (clash : Key → Key → Bool) (graph : Graph) (root : Nat) :
    GivesOrFails (Site.Finished clash graph root) (graph.Fails clash) (construct clash graph root) := by
  let start : Site := { nodes := graph, shapes := Array.replicate graph.size none }
  have ready : Building.Ready clash graph [] (graph.size + 2) start :=
    ⟨.start clash graph, List.nodup_nil, nofun, Nat.le_refl _⟩
  have builder (filling : List Nat) := Building.build_builds clash graph filling (graph.size + 2)
  have all : EndsOrFails (do
      Building.build clash (graph.size + 2) root
      Building.fillAll (Building.build clash (graph.size + 2)) (graph.size + 2)) start
      (graph.Fails clash) fun _ site => site.Finished clash graph root := by
    refine (builder [] root _ ready).bind ?_
    rintro _ after ⟨leads, there⟩
    have few : after.unfinished ≤ graph.size + 2 := by
      have fewer := leads.grows.fewer
      simp only [start, Site.unfinished, Array.toList_replicate, List.countP_replicate,
        Option.isNone_none, ↓reduceIte, List.length_nil] at fewer ⊢
      omega
    refine (Building.fillAll_ends builder (ready.leads leads) few).imp ?_
    rintro _ filled ⟨sound, done, more⟩
    exact ⟨sound, done, more.built root there⟩
  exact GivesOrFails.bind all fun _ finished => finished

end BezelStream.Yaml
