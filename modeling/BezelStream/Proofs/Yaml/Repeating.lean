import BezelStream.Proofs.Yaml.Denoting

/-! # Keys that stand twice

A loader by which no keys clash would build a mapping with a key that stands twice. Side by side
with it, a construction by which keys clash comes to the same site, or it stops at a key that stands
twice. So where the other loader has built two equal keys in one mapping, it stops.
-/

namespace BezelStream.Yaml

variable {α β : Type} {clash : Key → Key → Bool} {graph : Graph} {site : Site} {id root : Nat}

/-- By this, no keys clash. -/
def Key.apart (_ _ : Key) : Bool :=
  false

namespace Building

/-- Wherever the other computation ends well, this one ends alike or stops at a key that stands
    twice. -/
def Follows (x y : Building α) : Prop :=
  ∀ site ended, y.run site = .ok ended →
    x.run site = .ok ended ∨ ∃ key, x.run site = .error (.duplicateKey key)

namespace Follows

theorem refl (x : Building α) : Follows x x :=
  fun _ _ ended => .inl ended

theorem stop (key : Scalar) (y : Building α) : Follows (MonadExcept.throw (.duplicateKey key)) y :=
  fun _ _ _ => .inr ⟨key, rfl⟩

theorem bind {x y : Building α} {next other : α → Building β} (first : Follows x y)
    (rest : ∀ a, Follows (next a) (other a)) : Follows (x >>= next) (y >>= other) := by
  intro site ended succeeds
  rw [StateT.run_bind] at succeeds ⊢
  cases begun : y.run site with
  | error => rw [begun] at succeeds; cases succeeds
  | ok middle =>
      rw [begun] at succeeds
      rcases first site middle begun with same | ⟨key, stopped⟩
      · rw [same]
        exact rest middle.1 middle.2 ended succeeds
      · rw [stopped]
        exact .inr ⟨key, rfl⟩

theorem next (x : Building α) {next other : α → Building β}
    (rest : ∀ a, Follows (next a) (other a)) : Follows (x >>= next) (x >>= other) :=
  (refl x).bind rest

/-- Nothing that follows a flaw is done. -/
theorem throw (f : Flaw) (next other : α → Building β) :
    Follows (MonadExcept.throw f >>= next) (MonadExcept.throw f >>= other) :=
  fun _ _ succeeds => nomatch succeeds

theorem forM {f g : α → Building PUnit} (each : ∀ a, Follows (f a) (g a)) (as : List α) :
    Follows (as.forM f) (as.forM g) := by
  induction as with
  | nil => exact refl _
  | cons a rest ih => exact (each a).bind fun _ => ih

end Follows

section

variable {build loose : Nat → Building Unit} (each : ∀ id, Follows (build id) (loose id))

include each

theorem mapEntries_follows (entries : List (Nat × Nat)) (done : List (Key × Nat)) :
    Follows (mapEntries clash build entries done) (mapEntries Key.apart loose entries done) := by
  induction entries generalizing done with
  | nil => exact .refl _
  | cons entry rest ih =>
      obtain ⟨k, v⟩ := entry
      rw [mapEntries, mapEntries]
      refine (each k).bind fun _ => .next _ fun key => ?_
      cases key with
      | none => exact .refl _
      | some key =>
          dsimp only
          split
          · exact .stop _ _
          · split
            next clashes => simp [Key.apart] at clashes
            next => exact (each v).bind fun _ => ih _

theorem setMembers_follows (entries : List (Nat × Nat)) (done : List Key) :
    Follows (setMembers build entries done) (setMembers loose entries done) := by
  induction entries generalizing done with
  | nil => exact .refl _
  | cons entry rest ih =>
      obtain ⟨k, v⟩ := entry
      rw [setMembers, setMembers]
      refine (each k).bind fun _ => .next _ fun key => ?_
      cases key with
      | none => exact .refl _
      | some key => exact (each v).bind fun _ => ih _

theorem pairEntries_follows (items : List Nat) :
    Follows (pairEntries build items) (pairEntries loose items) := by
  induction items with
  | nil => exact .refl _
  | cons item rest ih =>
      rw [pairEntries, pairEntries]
      refine .next _ fun entries => ?_
      split
      · exact (each _).bind fun _ => (each _).bind fun _ => ih.bind fun _ => .refl _
      · exact .refl _

theorem fill_follows (id : Nat) : Follows (fill build id) (fill loose id) := by
  unfold fill
  refine .next _ fun node => ?_
  split
  · exact .next _ fun items => (Follows.forM each items).bind fun _ => .refl _
  · refine .next _ fun site => .next _ fun _ => .next _ fun entries => ?_
    exact (setMembers_follows each entries []).bind fun _ => .refl _
  · exact .next _ fun items => (pairEntries_follows each items).bind fun _ => .refl _

theorem fillAll_follows (turns : Nat) : Follows (fillAll build turns) (fillAll loose turns) := by
  induction turns with
  | zero => exact .refl _
  | succ turns ih =>
      rw [fillAll, fillAll]
      refine .next _ fun site => ?_
      split
      · exact .refl _
      · exact .next _ fun _ => (fill_follows each _).bind fun _ => ih

end

theorem build_follows (clash : Key → Key → Bool) (fuel id : Nat) :
    Follows (build clash fuel id) (build Key.apart fuel id) := by
  induction fuel generalizing id with
  | zero =>
      rw [build, build]
      exact .refl _
  | succ fuel ih =>
      rw [build, build]
      refine .next _ fun shape => ?_
      split
      · exact .refl _
      refine .next _ fun site => ?_
      split
      · exact .throw _ _ _
      refine .next _ fun _ => .next _ fun node => ?_
      extract_lets leave
      split
      · exact .refl _
      · exact .refl _
      · exact .refl _
      · exact .refl _
      · split
        · exact (mapEntries_follows ih _ []).bind fun _ => .refl _
        · exact .refl _
        · exact .refl _
      · exact .refl _
      · exact .refl _
      · exact .refl _
      · exact .refl _

end Building

theorem construct_follows (clash : Key → Key → Bool) (graph : Graph) (root : Nat)
    (constructed : construct Key.apart graph root = .ok site) :
    construct clash graph root = .ok site ∨
      ∃ key, construct clash graph root = .error (.duplicateKey key) := by
  let step (clash : Key → Key → Bool) : Building Unit := do
    Building.build clash (graph.size + 2) root
    Building.fillAll (Building.build clash (graph.size + 2)) (graph.size + 2)
  let start : Site := { nodes := graph, shapes := Array.replicate graph.size none }
  have runs (clash : Key → Key → Bool) :
      construct clash graph root = ((step clash).run start).map Prod.snd := by
    change ((step clash).run start >>= fun ended => pure ended.2) = _
    cases (step clash).run start <;> rfl
  have each := Building.build_follows clash (graph.size + 2)
  have follows : Building.Follows (step clash) (step Key.apart) :=
    (each root).bind fun _ => Building.fillAll_follows each (graph.size + 2)
  rw [runs] at constructed ⊢
  cases ended : (step Key.apart).run start with
  | error => rw [ended] at constructed; cases constructed
  | ok last =>
      rw [ended] at constructed
      rcases follows start last ended with same | ⟨key, stopped⟩
      · rw [same]
        exact .inl constructed
      · rw [stopped]
        exact .inr ⟨key, rfl⟩

/-- In a mapping that is built, no two keys are equal. -/
theorem Site.Finished.keys_differ (finished : site.Finished Key.same graph root)
    {own : List (Nat × Nat)} (stands : graph[id]? = some (.mapping .map own))
    (reached : (site.shape? id).isSome) {first second : Nat × Nat}
    (listed : [first, second].Sublist own) {a b : Key}
    (earlier : site.shape? first.1 = some (.scalar a))
    (later : site.shape? second.1 = some (.scalar b)) : a.value.equals b.value = false := by
  have plain : graph.ordinary [first, second] = [first, second] :=
    Graph.ordinary_eq_self.mpr (by simp [finished.sound.plain earlier, finished.sound.plain later])
  have spread {pairs : List (Nat × Nat)} (spreads : graph.Spreads id own pairs) :
      [first, second].Sublist pairs := by
    cases spreads with
    | whole => exact listed
    | merged =>
        have kept : (graph.ordinary [first, second]).Sublist (graph.ordinary own) := listed.filter _
        rw [plain] at kept
        exact kept.trans (List.sublist_append_right _ _)
  obtain ⟨shape, given⟩ := Option.isSome_iff_exists.mp reached
  cases finished.sound.built id shape given with
  | @map _ pairs _ found spreads makes unclashed =>
      cases stands.symm.trans found
      have keyed : Keyed (pairs.map fun pair => (site.scalarAt pair.1, pair.2)) := by
        rw [← map_makes makes fun v => v]
        exact unclashed.keyed Prod.snd
      have differ := List.pairwise_pair.mp ((List.pairwise_map.mp keyed).sublist (spread spreads))
      dsimp only at differ
      rwa [scalarAt_eq earlier, scalarAt_eq later] at differ
  | empty found tagged hollow =>
      cases stands.symm.trans found
      cases hollow
  | waiting _ _ waits => exact absurd waits finished.not_waits
  | scalar reads => exact absurd reads (Graph.HasParts.not_readsAs ⟨_, stands, rfl⟩ _)
  | list found | pairs found | set found => cases stands.symm.trans found

/-- A graph in which a mapping has two equal keys has no value, if it would have one otherwise. -/
theorem valueOf_refuses (constructed : construct Key.apart graph root = .ok site)
    {own : List (Nat × Nat)} (stands : graph[id]? = some (.mapping .map own))
    (reached : (site.shape? id).isSome) {first second : Nat × Nat}
    (listed : [first, second].Sublist own) {a b : Key}
    (earlier : site.shape? first.1 = some (.scalar a))
    (later : site.shape? second.1 = some (.scalar b)) (equal : a.value.equals b.value = true) :
    ∃ key, graph.Repeats Key.same key ∧ valueOf graph root = .error (.duplicateKey key.value) := by
  have gives := construct_gives Key.same graph root
  rcases construct_follows Key.same graph root constructed with same | ⟨key, stopped⟩
  · have differ := (gives.ok same).keys_differ stands reached listed earlier later
    rw [equal] at differ
    cases differ
  · cases gives.error stopped with
    | @duplicateKey key repeats =>
        refine ⟨key, repeats, ?_⟩
        rw [valueOf, stopped]
        rfl

end BezelStream.Yaml
