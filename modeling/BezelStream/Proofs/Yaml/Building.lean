import BezelStream.Proofs.Yaml.Shaping
import Mathlib.Data.List.Perm.Subperm
import Mathlib.Logic.Relation

/-! # Why no value is built of a graph

Building fails because the text is malformed, because a key stands twice in a mapping, or because
a node does not fit: a text that its tag does not allow, a timestamp that defers to another node, a
node with parts as a key, something else than entries under the tag of a mapping, or value keys that
lead round in a circle. For other reasons fuel never runs out: the nodes that are being built are
different ones.
-/

namespace BezelStream.Yaml

namespace Graph

/-- What does not fit in a graph, by what comes of it. -/
inductive Unfit (graph : Graph) : Mismatch → Prop where
  /-- A node spells what cannot be read under its tag. -/
  | unreadable {id : Nat} {node : Node} {text : CodePoints} {reason : Mismatch}
      (stands : graph[id]? = some node) (own : node.isDeferredMoment = false)
      (spells : graph.Spells id text)
      (unread : readScalar node.tag text = .error (.mismatch reason)) : Unfit graph reason
  /-- A mapping under the tag of timestamps has its text under a value key. -/
  | moment {id : Nat} {entries : List (Nat × Nat)} {text : CodePoints}
      (stands : graph[id]? = some (.mapping .timestamp entries)) (spells : graph.Spells id text) :
      Unfit graph .wrongKind
  /-- A mapping has a key with parts. -/
  | key {id : Nat} {entries : List (Nat × Nat)} {entry : Nat × Nat}
      (stands : graph[id]? = some (.mapping .map entries)) (offers : graph.Offers id entry)
      (parts : graph.HasParts entry.1) : Unfit graph .wrongKind
  /-- A text stands under the tag of a mapping. -/
  | text {id : Nat} {text : CodePoints} (stands : graph[id]? = some (.scalar .map text))
      (filled : text.isEmpty = false) : Unfit graph .badValue
  /-- A sequence stands under the tag of a mapping. -/
  | items {id : Nat} {items : List Nat} (stands : graph[id]? = some (.sequence .map items))
      (filled : items.isEmpty = false) : Unfit graph .wrongKind
  /-- Value keys lead round in a circle. -/
  | endless {id : Nat} (round : Relation.TransGen graph.Defers id id) : Unfit graph .tooDeep

/-- A key that clashes with one before it in a mapping. -/
inductive Repeats (graph : Graph) (clash : Key → Key → Bool) : Key → Prop where
  | twice {id : Nat} {own pairs : List (Nat × Nat)} {first second : Nat × Nat} {old key : Key}
      (stands : graph[id]? = some (.mapping .map own)) (spreads : graph.Spreads id own pairs)
      (listed : [first, second].Sublist pairs) (earlier : graph.ReadsAs first.1 old)
      (later : graph.ReadsAs second.1 key) (clashes : clash old key = true) :
      Repeats graph clash key

/-- The flaws that building a value of a graph may come to. -/
inductive Fails (graph : Graph) (clash : Key → Key → Bool) : Flaw → Prop where
  | malformed : Fails graph clash .malformed
  | duplicateKey {key : Key} (repeats : graph.Repeats clash key) :
      Fails graph clash (.duplicateKey key.value)
  | unfit {reason : Mismatch} (unfit : graph.Unfit reason) : Fails graph clash (.mismatch reason)

end Graph

/-- What a scalar is read with fails for a mismatch or because the text is malformed. -/
theorem readScalar_fails {tag : Tag} {text : CodePoints} {f : Flaw}
    (failed : readScalar tag text = .error f) : f = .malformed ∨ ∃ reason, f = .mismatch reason := by
  have reading {α : Type} {r : Reading α} (failed : ofReading r = .error f) :
      ∃ reason, f = .mismatch reason := by
    cases r with
    | error reason =>
        cases failed
        exact ⟨reason, rfl⟩
    | ok => cases failed
  have mapped {α β : Type} {x : Except Flaw α} {g : α → β} (failed : g <$> x = .error f) :
      x = .error f := by
    cases x with
    | error =>
        cases failed
        rfl
    | ok => cases failed
  have binary {cs : List Char} (failed : readBinary cs = .error f) : f = .malformed := by
    unfold readBinary at failed
    split at failed
    · split at failed
      · cases failed
      · cases failed
        rfl
    · cases failed
      rfl
  unfold readScalar at failed
  split at failed
  · cases failed
  · cases failed
  · exact .inr (reading (mapped failed))
  · exact .inr (reading (mapped failed))
  · exact .inr (reading (mapped failed))
  · exact .inl (binary (mapped failed))
  · exact .inr (reading failed)
  all_goals cases failed
  · exact .inr ⟨_, rfl⟩
  · exact .inr ⟨_, rfl⟩
  · exact .inr ⟨_, rfl⟩
  · exact .inr ⟨_, rfl⟩
  · exact .inl rfl

namespace Building

variable {clash : Key → Key → Bool} {graph : Graph} {filling : List Nat} {site after : Site}
  {id fuel : Nat}

theorem length_le_of_nodup {ids : List Nat} {n : Nat} (once : ids.Nodup)
    (inside : ∀ id ∈ ids, id < n) : ids.length ≤ n := by
  have among : ids ⊆ List.range n := fun id member => List.mem_range.mpr (inside id member)
  have length := (once.subperm among).length_le
  rwa [List.length_range] at length

/-- How nodes defer to a node: round in a circle, or straight past different ones with fuel for
    all others. -/
inductive DeferralWay (graph : Graph) (fuel id : Nat) : Prop where
  | round {other : Nat} (round : Relation.TransGen graph.Defers other other)
  | straight (passed : List Nat)
      (leads : ∀ other ∈ passed, Relation.TransGen graph.Defers other id) (once : passed.Nodup)
      (inside : ∀ other ∈ passed, other < graph.size)
      (enough : graph.size < fuel + passed.length)

theorem DeferralWay.defer {other : Nat} (way : DeferralWay graph (fuel + 1) id)
    (inside : id < graph.size)
    (defers : graph.Defers id other) : DeferralWay graph fuel other := by
  cases way with
  | round round => exact .round round
  | straight passed leads once within enough =>
      by_cases again : id ∈ passed
      · exact .round (leads id again)
      · refine .straight (id :: passed) ?_ (List.nodup_cons.mpr ⟨again, once⟩)
          (List.forall_mem_cons.mpr ⟨inside, within⟩) (by rw [List.length_cons]; omega)
        exact List.forall_mem_cons.mpr ⟨.single defers, fun a member => (leads a member).tail defers⟩

theorem scalarText_ends (stems : site.Stems graph) (way : DeferralWay graph fuel id) :
    EndsOrFails (scalarText fuel id) site (graph.Fails clash) fun text after => site = after ∧
      graph.Spells id text := by
  induction fuel generalizing id with
  | zero =>
      cases way with
      | round round => exact .throw (.unfit (.endless round))
      | straight passed leads once inside enough =>
          have few := length_le_of_nodup once inside
          omega
  | succ fuel ih =>
      rw [scalarText]
      refine nodeAt_bind .malformed fun node stands => ?_
      obtain ⟨was, found, becomes⟩ := stems.origin stands
      have inside : id < graph.size := (Array.getElem?_eq_some_iff.mp found).1
      cases becomes with
      | scalar tags text => exact .pure ⟨rfl, .scalar found⟩
      | sequence tags items => exact .throw .malformed
      | mapping tags old reshapes =>
          refine .get_bind ?_
          dsimp only
          split
          next key value search =>
            have offers := stems.offers stands (key, value) (List.mem_of_find?_eq_some search)
            have tagged := List.find?_some search
            split at tagged
            next node keyed =>
              obtain ⟨origin, under, became⟩ := stems.origin keyed
              have value := of_decide_eq_true tagged
              have same := became.tags.eq_of_ne_str (by rw [value]; nofun)
              have defers : graph.Defers id _ := ⟨_, origin, offers, under, same.trans value, rfl⟩
              refine (ih (way.defer inside defers)).imp ?_
              rintro text _ ⟨rfl, spells⟩
              exact ⟨rfl, .deferred defers spells⟩
            next => cases tagged
          next => exact .throw .malformed

/-- The scalar of a node without parts, and what is made of it. -/
theorem scalar_ends (stems : site.Stems graph) (enough : graph.size < fuel) {node : Node}
    (stands : site.nodes[id]? = some node) {next : CodePoints → Scalar → Building Unit}
    {holds : Unit → Site → Prop}
    (goes : ∀ text s, graph.ReadsAs id (.ofNode id text s) →
      EndsOrFails (next text s) site (graph.Fails clash) holds) :
    EndsOrFails (do
      let text ← scalarText fuel id
      let s ← liftM (scalarOf node text)
      next text s) site (graph.Fails clash) holds := by
  refine (scalarText_ends stems (.straight [] nofun List.nodup_nil nofun enough)).bind ?_
  rintro text _ ⟨rfl, spells⟩
  obtain ⟨was, found, becomes⟩ := stems.origin stands
  have own := becomes.isDeferredMoment_eq
  rw [scalarOf]
  cases deferred : node.isDeferredMoment with
  | true =>
      obtain ⟨entries, rfl⟩ := was.mapping_of_isDeferredMoment (own.symm.trans deferred)
      exact .unfit (.moment found spells)
  | false =>
      have own : was.isDeferredMoment = false := own.symm.trans deferred
      rw [if_neg Bool.false_ne_true]
      cases read : readScalar node.tag text with
      | ok s => exact goes text s (.read found becomes.tags own spells read)
      | error f =>
          rcases readScalar_fails read with rfl | ⟨reason, rfl⟩
          · exact .malformed
          · have same : was.tag = node.tag := becomes.tags.eq_of_ne_str fun str => by
              rw [str] at read
              cases read
            exact .unfit (.unreadable found own spells (same ▸ read))

/-- A site at which a node may be built with so much fuel: every node of the graph could be in
    the making at once. -/
structure Ready (clash : Key → Key → Bool) (graph : Graph) (filling : List Nat) (fuel : Nat)
    (site : Site) : Prop where
  sound : site.Sound clash graph filling
  once : site.active.Nodup
  inside : ∀ id ∈ site.active, id < graph.size
  enough : graph.size + 2 ≤ fuel + site.active.length

/-- What a part of the building comes to: the site is still sound, the nodes that are being built
    are the same, and nothing is taken back. -/
structure Leads (clash : Key → Key → Bool) (graph : Graph) (filling : List Nat)
    (site after : Site) : Prop where
  sound : after.Sound clash graph filling
  active : after.active = site.active
  grows : site.Grows after

theorem Leads.refl (sound : site.Sound clash graph filling) :
    Leads clash graph filling site site :=
  ⟨sound, rfl, .of_shapes rfl (Nat.le_refl _)⟩

theorem Leads.trans {middle : Site} (first : Leads clash graph filling site middle)
    (rest : Leads clash graph filling middle after) : Leads clash graph filling site after :=
  ⟨rest.sound, rest.active.trans first.active, first.grows.trans rest.grows⟩

/-- What building a node comes to: besides, the node is built. -/
structure Builds (clash : Key → Key → Bool) (graph : Graph) (filling : List Nat) (id : Nat)
    (site after : Site) : Prop where
  leads : Leads clash graph filling site after
  built : (after.shape? id).isSome

/-- A way to build nodes that works at every site that is ready. -/
abbrev Builder (clash : Key → Key → Bool) (graph : Graph) (filling : List Nat) (fuel : Nat)
    (build : Nat → Building Unit) : Prop :=
  ∀ id site, Ready clash graph filling fuel site →
    EndsOrFails (build id) site (graph.Fails clash) fun _ after => Builds clash graph filling id site after

theorem Ready.leads (ready : Ready clash graph filling fuel site)
    (leads : Leads clash graph filling site after) : Ready clash graph filling fuel after where
  sound := leads.sound
  once := leads.active ▸ ready.once
  inside := leads.active ▸ ready.inside
  enough := leads.active ▸ ready.enough

/-- A key that is built and no scalar has parts. -/
theorem keyOf_ends {flaws : Flaw → Prop} (sound : site.Sound clash graph filling)
    (built : (site.shape? id).isSome) :
    EndsOrFails (keyOf? id) site flaws fun key after => site = after ∧
      (key = none → graph.HasParts id) ∧
        ∀ found, key = some found → site.shape? id = some (.scalar found) := by
  obtain ⟨shape, given⟩ := Option.isSome_iff_exists.mp built
  refine shapeAt_bind ?_
  rw [show (site.shapes[id]?).join = some shape from given]
  split
  next key same =>
    cases same
    exact .pure ⟨rfl, nofun, by rintro _ ⟨⟩; exact given⟩
  next other =>
    refine .pure ⟨rfl, fun _ => ?_, nofun⟩
    rcases (sound.built id shape given).cases_parts with ⟨key, rfl, -⟩ | ⟨parts, -⟩
    · exact absurd rfl (other key)
    · exact parts

/-- Pairs of which entries were made are no merge keys. -/
theorem makes_plain {pairs : List (Nat × Nat)} {entries : List (Key × Nat)}
    (sound : site.Sound clash graph filling) (made : List.Forall₂ site.Makes pairs entries) :
    graph.ordinary pairs = pairs := by
  refine Graph.ordinary_eq_self.mpr fun pair member => ?_
  obtain ⟨_, -, makes⟩ := Site.exists_entry made pair member
  exact sound.plain makes.key

/-- Two keys that clash stand among the entries of which their mapping is built. -/
theorem repeats_of_clash {own pairs seen rest : List (Nat × Nat)} {second : Nat × Nat}
    {done : List (Key × Nat)} {key : Key} (sound : site.Sound clash graph filling)
    (stands : graph[id]? = some (.mapping .map own)) (reshapes : graph.Reshapes id own pairs)
    (split : pairs = seen ++ second :: rest) (made : List.Forall₂ site.Makes seen done)
    (given : site.shape? second.1 = some (.scalar key))
    (clashes : done.any (fun entry => clash entry.1 key) = true) : graph.Repeats clash key := by
  obtain ⟨entry, listed, clashes⟩ := List.any_eq_true.mp clashes
  obtain ⟨first, member, makes⟩ := exists_of_related made entry listed
  have both : [first, second].Sublist pairs := by
    rw [split]
    exact (List.singleton_sublist.mpr member).append
      (List.singleton_sublist.mpr List.mem_cons_self)
  have plain : graph.ordinary [first, second] = [first, second] :=
    Graph.ordinary_eq_self.mpr (by simp [sound.plain makes.key, sound.plain given])
  refine .twice stands (reshapes.spreads stands) ?_ (sound.reads makes.key) (sound.reads given) clashes
  exact plain ▸ both.filter _

/-- The entries of a mapping are built one by one: those that are done, of the pairs before. -/
theorem mapEntries_ends {build : Nat → Building Unit} (builder : Builder clash graph filling fuel build)
    {own pairs : List (Nat × Nat)} (stands : graph[id]? = some (.mapping .map own))
    (reshapes : graph.Reshapes id own pairs) {seen rest : List (Nat × Nat)}
    (split : pairs = seen ++ rest) {done : List (Key × Nat)}
    (made : List.Forall₂ site.Makes seen done) (unclashed : Unclashed clash done)
    (ready : Ready clash graph filling fuel site) :
    EndsOrFails (mapEntries clash build rest done) site (graph.Fails clash) fun entries after =>
      List.Forall₂ after.Makes pairs entries ∧ Unclashed clash entries ∧
        Leads clash graph filling site after := by
  induction rest generalizing seen done site with
  | nil =>
      rw [List.append_nil] at split
      exact .pure ⟨split ▸ made, unclashed, .refl ready.sound⟩
  | cons pair rest ih =>
      obtain ⟨k, v⟩ := pair
      rw [mapEntries]
      refine (builder k site ready).bind fun _ begun ⟨leads, built⟩ => ?_
      refine (keyOf_ends leads.sound built).bind ?_
      rintro key _ ⟨rfl, parts, given⟩
      have made := made.imp fun _ _ makes => makes.mono leads.grows
      cases key with
      | none =>
          have offers := reshapes.offered stands (k, v) (by simp [split])
          exact .throw (.unfit (.key stands offers (parts rfl)))
      | some key =>
          have given := given key rfl
          dsimp only
          split
          next clashes =>
            exact .throw (.duplicateKey
              (repeats_of_clash leads.sound stands reshapes split made given clashes))
          next fresh =>
            have ready := ready.leads leads
            have unclashed : Unclashed clash (done ++ [(key, v)]) :=
              unclashed.concat v (by simpa using fresh)
            refine (builder v begun ready).bind fun _ valued ⟨more, there⟩ => ?_
            have made : List.Forall₂ valued.Makes (seen ++ [(k, v)]) (done ++ [(key, v)]) :=
              List.rel_append (made.imp fun _ _ makes => makes.mono more.grows)
                (.cons ⟨more.grows.keys k key given, rfl, there⟩ .nil)
            have split : pairs = (seen ++ [(k, v)]) ++ rest := by
              rw [split, List.append_assoc, List.singleton_append]
            refine (ih split made unclashed (ready.leads more)).imp fun _ _ ⟨made, unclashed, last⟩ => ?_
            exact ⟨made, unclashed, (leads.trans more).trans last⟩

/-- The nodes in the making are different ones, so there is fuel left for another. -/
theorem Ready.fuel_pos (ready : Ready clash graph filling fuel site) : fuel ≠ 0 := by
  rintro rfl
  have few := length_le_of_nodup ready.once ready.inside
  have enough := ready.enough
  omega

theorem Ready.enter (ready : Ready clash graph filling (fuel + 1) site) (inside : id < graph.size)
    (idle : id ∉ site.active) :
    Ready clash graph filling fuel { site with active := id :: site.active } where
  sound := ready.sound.withActive _
  once := List.nodup_cons.mpr ⟨idle, ready.once⟩
  inside := List.forall_mem_cons.mpr ⟨inside, ready.inside⟩
  enough := by
    have enough := ready.enough
    rw [List.length_cons]
    omega

theorem setShape_builds {shape : Shape} (sound : site.Sound clash graph filling)
    (inside : id < graph.size) (free : ∀ key, site.shape? id ≠ some (.scalar key))
    (shapes : site.Shapes clash graph filling id shape) :
    Builds clash graph filling id site
      { site with shapes := site.shapes.setIfInBounds id (some shape) } where
  leads := ⟨sound.setShape free shapes fun _ => .inr, rfl, Site.grows_set shape free⟩
  built := by
    rw [Site.shape?_set, if_pos ⟨rfl, sound.size ▸ inside⟩]
    rfl

theorem postpone_ends {shape : Shape} {flaws : Flaw → Prop} (sound : site.Sound clash graph filling)
    (unbuilt : site.shape? id = none) (filled : shape.isFilled = true) (awaits : graph.Awaits id)
    (inside : id < graph.size) :
    EndsOrFails (postpone id shape) site flaws fun _ after => Builds clash graph filling id site after := by
  have inside' : id < site.shapes.size := sound.size ▸ inside
  refine ⟨⟨sound.postpone unbuilt filled awaits inside, rfl, ?_⟩, ?_⟩
  · exact Site.grows_postpone shape inside' unbuilt
  · change (Site.shape? { site with shapes := site.shapes.setIfInBounds id (some shape) } id).isSome
    rw [Site.shape?_set, if_pos ⟨rfl, inside'⟩]
    rfl

/-- However a node was built, it is no longer in the making at the end. -/
theorem leave_ends {flaws : Flaw → Prop}
    (builds : Builds clash graph filling id { site with active := id :: site.active } after) :
    EndsOrFails (modify fun site => { site with active := site.active.erase id }) after flaws
      fun _ after => Builds clash graph filling id site after := by
  have grows := builds.leads.grows
  refine ⟨⟨builds.leads.sound.withActive _, ?_, grows.keys, grows.built, grows.fewer⟩, builds.built⟩
  dsimp only
  rw [builds.leads.active, List.erase_cons_head]

/-- A node under the tag of a mapping is built of its entries, if it is one, and otherwise has to
    be empty. -/
theorem map_ends {build : Nat → Building Unit} (builder : Builder clash graph filling fuel build)
    (ready : Ready clash graph filling fuel site) {node : Node}
    (stands : site.nodes[id]? = some node) (tag : node.tag = .map) {leave : Building Unit}
    {holds : Unit → Site → Prop}
    (leaves : ∀ {after}, Builds clash graph filling id site after →
      EndsOrFails leave after (graph.Fails clash) holds) :
    EndsOrFails (match node with
      | .mapping _ entries => do
        setShape id (.map (← mapEntries clash build entries []))
        leave
      | .scalar _ text => do
        if text.isEmpty then setShape id (.map []) else throw (.mismatch .badValue)
        leave
      | .sequence _ items => do
        if items.isEmpty then setShape id (.map []) else throw (.mismatch .wrongKind)
        leave) site (graph.Fails clash) holds := by
  obtain ⟨was, found, becomes, unchanged⟩ := ready.sound.stems.origin_tag stands (by rw [tag]; nofun)
  have same : was.tag = .map := unchanged.trans tag
  clear unchanged
  have inside : id < graph.size := (Array.getElem?_eq_some_iff.mp found).1
  have parts : graph.HasParts id := ⟨was, found, same ▸ rfl⟩
  have stores {after : Site} {entries : List (Key × Nat)} (leads : Leads clash graph filling site after)
      (shapes : after.Shapes clash graph filling id (.map entries)) :
      EndsOrFails (setShape id (.map entries) >>= fun _ => leave) after (graph.Fails clash) holds := by
    have builds := setShape_builds leads.sound inside (leads.sound.free parts) shapes
    exact setShape_bind (leaves ⟨leads.trans builds.leads, builds.built⟩)
  have empty (hollow : was.isHollow = true) := stores (.refl ready.sound) (.empty found same hollow)
  cases becomes with
  | mapping tags own reshapes =>
      cases same
      refine (mapEntries_ends builder found reshapes rfl .nil .nil ready).bind
        fun entries after ⟨made, unclashed, leads⟩ => ?_
      have spreads := reshapes.spreads found
      rw [makes_plain leads.sound made] at spreads
      exact stores leads (.map found spreads made unclashed)
  | scalar tags text =>
      cases same
      dsimp only
      split
      next hollow => exact empty hollow
      next filled => exact .throw (.unfit (.text found (Bool.eq_false_iff.mpr filled)))
  | sequence tags items =>
      cases same
      dsimp only
      split
      next hollow => exact empty hollow
      next filled => exact .throw (.unfit (.items found (Bool.eq_false_iff.mpr filled)))

theorem build_builds (clash : Key → Key → Bool) (graph : Graph) (filling : List Nat) (fuel : Nat) :
    Builder clash graph filling fuel (build clash fuel) := by
  induction fuel with
  | zero => exact fun _ _ ready => absurd rfl ready.fuel_pos
  | succ fuel ih =>
      intro id site ready
      rw [build]
      refine shapeAt_bind ?_
      split
      next built => exact .pure ⟨.refl ready.sound, built⟩
      next unbuilt =>
        have unbuilt : site.shape? id = none := Option.not_isSome_iff_eq_none.mp unbuilt
        refine .get_bind ?_
        split
        · exact .throw .malformed
        next idle =>
          refine .modify_bind (nodeAt_bind .malformed fun node stands => ?_)
          obtain ⟨_, found, _⟩ := ready.sound.stems.origin stands
          have inside : id < graph.size := (Array.getElem?_eq_some_iff.mp found).1
          have entered : Ready clash graph filling fuel { site with active := id :: site.active } :=
            ready.enter inside fun member => idle (List.contains_iff_mem.mpr member)
          extract_lets leave
          have postpones {shape : Shape} (filled : shape.isFilled = true)
              (tagged : node.tag.isFilled = true) (other : node.tag ≠ .str) :
              EndsOrFails (postpone id shape >>= leave) { site with active := id :: site.active }
                (graph.Fails clash) fun _ after => Builds clash graph filling id site after := by
            obtain ⟨was, found, _, same⟩ := ready.sound.stems.origin_tag stands other
            have awaits : graph.Awaits id := ⟨was, found, same ▸ tagged⟩
            exact (postpone_ends entered.sound unbuilt filled awaits inside).bind fun _ _ => leave_ends
          split
          next tag => exact postpones rfl (tag ▸ rfl) (by rw [tag]; nofun)
          next tag => exact postpones rfl (tag ▸ rfl) (by rw [tag]; nofun)
          next tag => exact postpones rfl (tag ▸ rfl) (by rw [tag]; nofun)
          next tag => exact postpones rfl (tag ▸ rfl) (by rw [tag]; nofun)
          next tag => exact map_ends ih entered stands tag leave_ends
          next => exact .throw .malformed
          next => exact .throw .malformed
          next => exact .throw .malformed
          · have enough : graph.size < site.nodes.size + 1 := by
              rw [ready.sound.stems.size]
              exact Nat.lt_succ_self _
            refine .get_bind (scalar_ends entered.sound.stems enough stands fun text s reads => ?_)
            have free (key : Key) : site.shape? id ≠ some (.scalar key) := by
              rw [unbuilt]
              nofun
            exact setShape_bind (leave_ends
              (setShape_builds entered.sound inside free (.scalar reads)))

end Building

end BezelStream.Yaml
