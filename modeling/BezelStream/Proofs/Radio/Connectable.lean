import BezelStream.Radio.Advertisement

/-! # Which item of platform data decides

Many items say nothing about connections. The first one that does decides, so neither those that
say nothing nor anything behind it makes a difference.
-/

namespace BezelStream

/-- The values that count as false: absence, false, zeros and everything empty. -/
inductive Value.Falsy : Value → Prop where
  | null : Falsy (.scalar .null)
  | false : Falsy (.scalar (.bool false))
  | int : Falsy (.scalar (.int 0))
  | float (negative : Bool) (exponent : Int) :
      Falsy (.scalar (.float (.finite negative 0 exponent)))
  | text : Falsy (.scalar (.text ""))
  | bytes : Falsy (.scalar (.bytes []))
  | list : Falsy (.list [])
  | map : Falsy (.map [])
  | set : Falsy (.set [])

theorem Value.isTruthy_iff {v : Value} : v.isTruthy = true ↔ ¬ v.Falsy := by
  constructor
  · rintro truthy falsy
    cases falsy <;> cases truthy
  · intro filled
    cases v with
    | scalar s =>
        cases s with
        | null => exact absurd .null filled
        | bool b =>
            cases b with
            | false => exact absurd .false filled
            | true => rfl
        | int i =>
            refine bne_iff_ne.mpr ?_
            rintro rfl
            exact filled .int
        | float x =>
            cases x with
            | nan | infinite => rfl
            | finite negative significand exponent =>
                cases significand with
                | zero => exact absurd (.float negative exponent) filled
                | succ => rfl
        | text t =>
            cases t with
            | nil => exact absurd .text filled
            | cons => rfl
        | bytes bs =>
            cases bs with
            | nil => exact absurd .bytes filled
            | cons => rfl
        | date | moment => rfl
    | list items =>
        cases items with
        | nil => exact absurd .list filled
        | cons => rfl
    | map entries =>
        cases entries with
        | nil => exact absurd .map filled
        | cons => rfl
    | set members =>
        cases members with
        | nil => exact absurd .set filled
        | cons => rfl
    | pair | again => rfl

namespace PlatformItem

/-- An item that says nothing about connections: a dictionary without the key, an event without an
    advertisement, one whose advertisement has no type or a null type, or something else. -/
inductive Silent : PlatformItem → Prop where
  | unflagged {entries : List (String × Value)}
      (absent : ∀ entry ∈ entries, entry.1 ≠ connectableKey) : Silent (.dictionary entries)
  | unadvertised : Silent (.event none)
  | untyped : Silent (.event (some ⟨none⟩))
  | null : Silent (.typed (.scalar .null))
  | other : Silent .other

/-- What an item says about connections. A dictionary says no by a value that counts as false, and
    yes by any other one. An event says yes by the types 0 and 1. -/
inductive Says : PlatformItem → Bool → Prop where
  | flag {before after : List (String × Value)} {v : Value} {answer : Bool}
      (first : ∀ entry ∈ before, entry.1 ≠ connectableKey) (truth : answer = true ↔ ¬ v.Falsy) :
      Says (.dictionary (before ++ (connectableKey, v) :: after)) answer
  | type {s : Scalar} {n : Int} {answer : Bool} (whole : s.asInt? = some n)
      (kind : answer = true ↔ n = 0 ∨ n = 1) : Says (.typed (.scalar s)) answer

/-- An item whose advertisement type, if it has one, is an integer. -/
def Numbered (item : PlatformItem) : Prop :=
  ∀ v, item = .typed v → v = .scalar .null ∨ ∃ s n, v = .scalar s ∧ s.asInt? = some n

variable {item : PlatformItem} {entries : List (String × Value)} {v : Value} {answer : Bool}

theorem lookup_unflagged (absent : ∀ entry ∈ entries, entry.1 ≠ connectableKey) :
    entries.lookup connectableKey = none := by
  rw [List.lookup_eq_none_iff]
  intro entry member
  exact bne_iff_ne.mpr (absent entry member).symm

theorem unflagged_or_flagged (entries : List (String × Value)) :
    (∀ entry ∈ entries, entry.1 ≠ connectableKey) ∨
      ∃ before v after, entries = before ++ (connectableKey, v) :: after ∧
        ∀ entry ∈ before, entry.1 ≠ connectableKey := by
  induction entries with
  | nil => exact .inl (List.forall_mem_nil _)
  | cons entry rest ih =>
      obtain ⟨key, v⟩ := entry
      by_cases flag : key = connectableKey
      · subst flag
        exact .inr ⟨[], v, rest, rfl, List.forall_mem_nil _⟩
      rcases ih with absent | ⟨before, w, after, rfl, first⟩
      · exact .inl (List.forall_mem_cons.mpr ⟨flag, absent⟩)
      · exact .inr ⟨(key, v) :: before, w, after, rfl, List.forall_mem_cons.mpr ⟨flag, first⟩⟩

theorem verdict_typed (typed : v ≠ .scalar .null) :
    verdict? (.typed v) = some (v.toInt.map fun type => type == 0 || type == 1) := by
  cases v with
  | scalar s =>
      cases s with
      | null => exact absurd rfl typed
      | bool | int | float | text | bytes | date | moment => rfl
  | list | map | set | pair | again => rfl

theorem verdict_whole {s : Scalar} {n : Int} (whole : s.asInt? = some n) :
    verdict? (.typed (.scalar s)) = some (.ok (n == 0 || n == 1)) := by
  cases s with
  | bool b =>
      cases whole
      cases b <;> rfl
  | int i =>
      cases whole
      rfl
  | null | float | text | bytes | date | moment => cases whole

theorem Silent.verdict_eq_none (silent : item.Silent) : item.verdict? = none := by
  cases silent with
  | unflagged absent => simp [verdict?, flag?, advertisementType?, lookup_unflagged absent]
  | unadvertised | untyped | null | other => rfl

theorem Says.verdict_eq_some (answers : item.Says answer) : item.verdict? = some (.ok answer) := by
  cases answers with
  | @flag before after v _ first truth =>
      have same : v.isTruthy = answer := by
        rw [Bool.eq_iff_iff, Value.isTruthy_iff, truth]
      simp [verdict?, flag?, List.lookup_append, lookup_unflagged first, same]
  | @type s n _ whole kind =>
      have same : (n == 0 || n == 1) = answer := by
        rw [Bool.eq_iff_iff, kind, Bool.or_eq_true, beq_iff_eq, beq_iff_eq]
      rw [verdict_whole whole, same]

theorem silent_or_answers_or_typed (item : PlatformItem) :
    item.Silent ∨ (∃ answer, item.Says answer) ∨ ∃ v, v ≠ .scalar .null ∧ item = .typed v := by
  cases item with
  | dictionary entries =>
      rcases unflagged_or_flagged entries with absent | ⟨before, v, after, rfl, first⟩
      · exact .inl (.unflagged absent)
      · exact .inr (.inl ⟨v.isTruthy, .flag first Value.isTruthy_iff⟩)
  | other => exact .inl .other
  | event advertisement =>
      match advertisement with
      | none => exact .inl .unadvertised
      | some ⟨none⟩ => exact .inl .untyped
      | some ⟨some v⟩ =>
          by_cases null : v = .scalar .null
          · subst null
            exact .inl .null
          · exact .inr (.inr ⟨v, null, rfl⟩)

theorem verdict_eq_none_iff : item.verdict? = none ↔ item.Silent := by
  constructor
  · intro mute
    rcases silent_or_answers_or_typed item with silent | ⟨answer, answers⟩ | ⟨v, typed, rfl⟩
    · exact silent
    · rw [answers.verdict_eq_some] at mute
      cases mute
    · rw [verdict_typed typed] at mute
      cases mute
  · exact Silent.verdict_eq_none

theorem Says.not_silent (answers : item.Says answer) : ¬ item.Silent := by
  rw [← verdict_eq_none_iff, answers.verdict_eq_some]
  exact Option.some_ne_none _

/-- An item whose type is an integer says yes or no, unless it says nothing. -/
theorem Numbered.silent_or_answers (numbered : item.Numbered) :
    item.Silent ∨ ∃ answer, item.Says answer := by
  rcases silent_or_answers_or_typed item with silent | answers | ⟨v, typed, rfl⟩
  · exact .inl silent
  · exact .inr answers
  · obtain ⟨s, n, rfl, whole⟩ := (numbered v rfl).resolve_left typed
    exact .inr ⟨decide (n = 0 ∨ n = 1), .type whole (by simp)⟩

/-! ## Sequences of items -/

/-- The first of the items that says anything about connections. -/
inductive Leads : PlatformItem → List PlatformItem → Prop where
  | here {item : PlatformItem} {rest : List PlatformItem} (speaks : ¬ item.Silent) :
      Leads item (item :: rest)
  | later {item first : PlatformItem} {rest : List PlatformItem} (silent : first.Silent)
      (leads : Leads item rest) : Leads item (first :: rest)

/-- Two sequences of items that may differ by items that say nothing, wherever these stand, and in
    anything behind the first item that does say something. -/
inductive Akin : List PlatformItem → List PlatformItem → Prop where
  | nil : Akin [] []
  | both {item : PlatformItem} {items others : List PlatformItem} (akin : Akin items others) :
      Akin (item :: items) (item :: others)
  | inserted {item : PlatformItem} {items others : List PlatformItem} (silent : item.Silent)
      (akin : Akin items others) : Akin items (item :: others)
  | deleted {item : PlatformItem} {items others : List PlatformItem} (silent : item.Silent)
      (akin : Akin items others) : Akin (item :: items) others
  | behind {item : PlatformItem} {items others : List PlatformItem} (speaks : ¬ item.Silent) :
      Akin (item :: items) (item :: others)

variable {items others rest : List PlatformItem}

theorem isConnectable_silent (silent : item.Silent) :
    isConnectable (item :: rest) = isConnectable rest := by
  rw [isConnectable, List.findSome?_cons, silent.verdict_eq_none]
  rfl

theorem isConnectable_all_silent (silent : ∀ item ∈ items, item.Silent) :
    isConnectable items = .ok true := by
  induction items with
  | nil => rfl
  | cons item rest ih =>
      obtain ⟨first, others⟩ := List.forall_mem_cons.mp silent
      rw [isConnectable_silent first, ih others]

theorem isConnectable_behind (speaks : ¬ item.Silent) :
    isConnectable (item :: items) = isConnectable (item :: others) := by
  cases said : item.verdict? with
  | none => exact absurd (verdict_eq_none_iff.mp said) speaks
  | some verdict => simp [isConnectable, said]

theorem Leads.isConnectable_eq (leads : Leads item items) (answers : item.Says answer) :
    isConnectable items = .ok answer := by
  induction leads with
  | here speaks => simp [isConnectable, answers.verdict_eq_some]
  | later silent leads ih => rw [isConnectable_silent silent, ih]

theorem Akin.isConnectable_eq (akin : Akin items others) :
    isConnectable others = isConnectable items := by
  induction akin with
  | nil => rfl
  | @both item items others akin ih =>
      -- What stands in both may say nothing, and then the rest has still to agree.
      by_cases silent : item.Silent
      · rw [isConnectable_silent silent, isConnectable_silent silent, ih]
      · exact isConnectable_behind silent
  | inserted silent akin ih => rw [isConnectable_silent silent, ih]
  | deleted silent akin ih => rw [isConnectable_silent silent, ih]
  | behind speaks => exact isConnectable_behind speaks

theorem silent_or_leads (numbered : ∀ item ∈ items, item.Numbered) :
    (∀ item ∈ items, item.Silent) ∨ ∃ item answer, Leads item items ∧ item.Says answer := by
  induction items with
  | nil => exact .inl (List.forall_mem_nil _)
  | cons item rest ih =>
      obtain ⟨first, others⟩ := List.forall_mem_cons.mp numbered
      by_cases silent : item.Silent
      · rcases ih others with all | ⟨lead, answer, leads, answers⟩
        · exact .inl (List.forall_mem_cons.mpr ⟨silent, all⟩)
        · exact .inr ⟨lead, answer, .later silent leads, answers⟩
      · obtain ⟨answer, answers⟩ := first.silent_or_answers.resolve_left silent
        exact .inr ⟨item, answer, .here silent, answers⟩

/-- Connections are accepted if no item says anything about them, and otherwise the first item that
    does decides. One of the two is the case if all types are integers. Items that say nothing may
    come and go anywhere, and anything may stand behind the first that says something. -/
theorem first_item_decides (items : List PlatformItem) :
    ((∀ item ∈ items, item.Silent) → isConnectable items = .ok true) ∧
    (∀ item answer, Leads item items → item.Says answer → isConnectable items = .ok answer) ∧
    ((∀ item ∈ items, item.Numbered) →
      (∀ item ∈ items, item.Silent) ∨ ∃ item answer, Leads item items ∧ item.Says answer) ∧
    ∀ others, Akin items others → isConnectable others = isConnectable items := by
  refine ⟨isConnectable_all_silent, ?_, silent_or_leads, ?_⟩
  · intro item answer leads answers
    exact leads.isConnectable_eq answers
  · intro others akin
    exact akin.isConnectable_eq

/-- Data in which a flag that is false stands behind four items that say nothing, and in front of a
    type that would say yes. -/
def refusingData : List PlatformItem :=
  [.other, .dictionary [("kCBAdvDataChannel", .scalar (.int 37))], .event (some ⟨none⟩),
    .typed (.scalar .null), .dictionary [(connectableKey, .scalar (.int 0))],
    .typed (.scalar (.int 1))]

/-- Some items that say nothing are left out, one is put in, and the last type is no number. -/
def refusingTwin : List PlatformItem :=
  [.event none, .typed (.scalar .null), .dictionary [(connectableKey, .scalar (.int 0))],
    .typed (.scalar (.text "x"))]

theorem first_item_decides_refusal :
    let flag : PlatformItem := .dictionary [(connectableKey, .scalar (.int 0))]
    Leads flag refusingData ∧ flag.Says false ∧ Akin refusingData refusingTwin ∧
      isConnectable refusingData = .ok false ∧ isConnectable refusingTwin = .ok false := by
  intro flag
  obtain ⟨-, decides, -, unmoved⟩ := first_item_decides refusingData
  have answers : flag.Says false :=
    @Says.flag [] [] _ _ (List.forall_mem_nil _) (iff_of_false nofun (not_not_intro .int))
  have speaks : ¬ flag.Silent := answers.not_silent
  have channel : Silent (.dictionary [("kCBAdvDataChannel", .scalar (.int 37))]) :=
    .unflagged (by decide)
  have leads : Leads flag refusingData :=
    .later .other (.later channel (.later .untyped (.later .null (.here speaks))))
  have akin : Akin refusingData refusingTwin :=
    .deleted .other (.deleted channel (.inserted .unadvertised (.deleted .untyped
      (.both (.behind speaks)))))
  have refused := decides flag false leads answers
  exact ⟨leads, answers, akin, refused, (unmoved refusingTwin akin).trans refused⟩

end PlatformItem

end BezelStream
