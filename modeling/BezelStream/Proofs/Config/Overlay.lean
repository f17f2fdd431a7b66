import BezelStream.Config.Loading
import BezelStream.Proofs.Config.Schema
import BezelStream.Proofs.Interaction.Writing
import BezelStream.Proofs.Value.Keys

/-! # Documents laid over each other

`lay` puts the entries of a document into another one. Under every name the result has the value
of the upper document, or else that of the lower one, so what a schema admits above and below it
admits of both together. A run of `overlay` gives just this document, and it logs each entry that
differs from what the lower document has.
-/

namespace BezelStream.Config

/-- The entries of a document, each put into the one below it. -/
def lay : Document → (below : Document) → Document
  | [], below => below
  | (key, value) :: rest, below => lay rest (put key value below)

section

variable {doc below : Document} {name other : CodePoints} {value : Value}

theorem lookup_put : Value.lookup? (.text other) (put (.text name) value doc) =
    if name = other then some value else Value.lookup? (.text other) doc := by
  induction doc with
  | nil => simp [put, Value.lookup?, Scalar.same_text]
  | cons entry rest ih =>
      obtain ⟨key, old⟩ := entry
      rw [put, Scalar.same_text]
      by_cases here : key = .text name
      · subst here
        by_cases same : name = other <;> simp [Value.lookup?, Scalar.same_text, same]
      · by_cases same : name = other
        · subst same
          simp [Value.lookup?, Scalar.same_text, here, ih]
        · simp [Value.lookup?, Scalar.same_text, here, ih, same]

theorem mem_put {entry : Scalar × Value} (member : entry ∈ put (.text name) value doc) :
    entry.1 = .text name ∨ ∃ old ∈ doc, old.1 = entry.1 := by
  induction doc with
  | nil =>
      obtain rfl := List.mem_singleton.mp member
      exact .inl rfl
  | cons head rest ih =>
      obtain ⟨key, old⟩ := head
      rw [put] at member
      split at member
      · rcases List.mem_cons.mp member with rfl | later
        · exact .inr ⟨_, List.mem_cons_self, rfl⟩
        · exact .inr ⟨entry, List.mem_cons_of_mem _ later, rfl⟩
      · rcases List.mem_cons.mp member with rfl | later
        · exact .inr ⟨_, List.mem_cons_self, rfl⟩
        · exact (ih later).imp_right fun ⟨old, among, same⟩ => ⟨old, List.mem_cons_of_mem _ among, same⟩

/-- A name that stands in front does not stand behind. -/
theorem lookup_of_keyed (keyed : Keyed ((.text name, value) :: doc)) :
    Value.lookup? (.text name) doc = none := by
  have fresh := keyed.ne_of_cons
  clear keyed
  induction doc with
  | nil => rfl
  | cons entry rest ih =>
      obtain ⟨first, others⟩ := List.forall_mem_cons.mp fresh
      rw [Value.lookup?, Scalar.same_text, decide_eq_false first]
      exact ih others

/-- All keys are texts. -/
def Named (doc : Document) : Prop :=
  ∀ entry ∈ doc, ∃ name, entry.1 = .text name

/-- The upper document decides, and the lower one where it says nothing. -/
theorem lookup_lay (named : Named doc) (keyed : Keyed doc) :
    Value.lookup? (.text other) (lay doc below) =
      (Value.lookup? (.text other) doc).or (Value.lookup? (.text other) below) := by
  induction doc generalizing below with
  | nil => rfl
  | cons entry rest ih =>
      obtain ⟨⟨name, is⟩, others⟩ := List.forall_mem_cons.mp named
      obtain ⟨_, value⟩ := entry
      subst is
      rw [lay, ih others (List.pairwise_cons.mp keyed).2, lookup_put, Value.lookup?, Scalar.same_text]
      by_cases same : name = other
      · subst same
        simp [lookup_of_keyed keyed]
      · simp [same]

theorem mem_lay (named : Named doc) {entry : Scalar × Value} (member : entry ∈ lay doc below) :
    ∃ old ∈ doc ++ below, old.1 = entry.1 := by
  induction doc generalizing below with
  | nil => exact ⟨entry, member, rfl⟩
  | cons head rest ih =>
      obtain ⟨⟨name, is⟩, others⟩ := List.forall_mem_cons.mp named
      obtain ⟨_, value⟩ := head
      subst is
      obtain ⟨old, among, same⟩ := ih others member
      rcases List.mem_append.mp among with above | put
      · exact ⟨old, List.mem_append_left _ (List.mem_cons_of_mem _ above), same⟩
      rcases mem_put put with first | ⟨older, among, kept⟩
      · exact ⟨_, List.mem_append_left _ List.mem_cons_self, first.symm.trans same⟩
      · exact ⟨older, List.mem_append_right _ among, kept.trans same⟩

theorem named_of_admits {schema : Schema} (admits : schema.Admits doc) : Named doc :=
  fun entry member =>
    let ⟨field, _, is⟩ := admits.known entry member
    ⟨field.1, is⟩

/-- What a schema admits above and below it admits of both together. -/
theorem admits_lay {schema : Schema} (above : schema.Admits doc) (keyed : Keyed doc)
    (beneath : schema.Admits below) : schema.Admits (lay doc below) where
  known entry member := by
    obtain ⟨old, among, same⟩ := mem_lay (named_of_admits above) member
    rw [← same]
    exact (List.mem_append.mp among).elim (above.known old) (beneath.known old)
  met field listed value found := by
    rw [lookup_lay (named_of_admits above) keyed] at found
    cases own : Value.lookup? (.text field.1) doc with
    | some value' =>
        rw [own] at found
        cases found
        exact above.met field listed value own
    | none =>
        rw [own] at found
        exact beneath.met field listed value found

/-! ## The run -/

theorem differs_put {key : Scalar} {changed : Value} (other : key ≠ .text name)
    (named : ∃ name, key = .text name) :
    differs (put (.text name) value below) key changed = differs below key changed := by
  obtain ⟨wanted, rfl⟩ := named
  have apart : name ≠ wanted := fun same => other (congrArg Scalar.text same.symm)
  unfold differs
  rw [lookup_put, if_neg apart]

/-- The keys of the entries that differ from what is below, in the order of the entries. -/
def changedKeys (doc below : Document) : List Scalar :=
  (doc.filter fun entry => differs below entry.1 entry.2).map Prod.fst

/-- The records of a document that is laid over another one. -/
def changes (path : Path) (doc below : Document) : List Event :=
  (changedKeys doc below).map fun key =>
    .log .info .config ("Config '" ++ key.written.printed ++ "' overridden by " ++ path.text)

/-- Whether an entry differs does not hang on the entries before it, whose keys are others. -/
theorem changedKeys_put (keyed : Keyed ((.text name, value) :: doc)) (named : Named doc) :
    changedKeys doc (put (.text name) value below) = changedKeys doc below :=
  congrArg (List.map Prod.fst) (List.filter_congr fun entry member =>
    differs_put (keyed.ne_of_cons entry member) (named entry member))

theorem overlay_runs {σ ρ : Type} (path : Path) (named : Named doc) (keyed : Keyed doc)
    (below : Document) (p : Progress σ ρ) :
    (overlay path doc below).runFrom p = (.ok (lay doc below), p.noteAll (changes path doc below)) := by
  induction doc generalizing below p with
  | nil => rw [changes, changedKeys, List.filter_nil, List.map_nil, List.map_nil, Progress.noteAll_nil]; rfl
  | cons entry rest ih =>
      obtain ⟨⟨name, is⟩, others⟩ := List.forall_mem_cons.mp named
      obtain ⟨_, value⟩ := entry
      subst is
      have runs := ih others (List.pairwise_cons.mp keyed).2 (put (.text name) value below)
      rw [changes, changedKeys_put keyed others, ← changes] at runs
      rw [overlay, changes, changedKeys, List.filter_cons]
      cases differs below (.text name) value with
      | false => exact runs p
      | true =>
          have runs := runs (p.note (.log .info .config
            ("Config '" ++ (Scalar.text name).written.printed ++ "' overridden by " ++ path.text)))
          rw [Progress.noteAll_note] at runs
          exact runs

end

end BezelStream.Config
