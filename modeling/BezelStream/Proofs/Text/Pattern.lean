import BezelStream.Text.Pattern

/-! # The texts of a pattern

`Matches` says which texts a pattern has, constructor by constructor and without derivatives.
Deciding by derivatives comes to the same, so what is known of the texts is known of the decision.
-/

namespace BezelStream.Text.Pattern

/-- The text is one of those that the pattern has. -/
inductive Matches : Pattern → List Char → Prop where
  | empty : Matches .empty []
  | oneOf {ranges : List (Char × Char)} {range : Char × Char} {c : Char} (listed : range ∈ ranges)
      (least : range.1 ≤ c) (most : c ≤ range.2) : Matches (.oneOf ranges) [c]
  | seq {p q : Pattern} {cs ds : List Char} (first : Matches p cs) (second : Matches q ds) :
      Matches (.seq p q) (cs ++ ds)
  | left {p q : Pattern} {cs : List Char} (matched : Matches p cs) : Matches (.alt p q) cs
  | right {p q : Pattern} {cs : List Char} (matched : Matches q cs) : Matches (.alt p q) cs
  | done {p : Pattern} : Matches (.star p) []
  | more {p : Pattern} {cs ds : List Char} (first : Matches p cs) (rest : Matches (.star p) ds) :
      Matches (.star p) (cs ++ ds)

variable {p q : Pattern} {c : Char} {cs : List Char}

theorem not_matches_never : ¬ Matches .never cs :=
  nofun

theorem matches_empty_iff : Matches .empty cs ↔ cs = [] := by
  constructor
  · rintro ⟨⟩
    rfl
  · rintro rfl
    exact .empty

theorem matches_alt_iff : Matches (.alt p q) cs ↔ Matches p cs ∨ Matches q cs := by
  constructor
  · intro matched
    cases matched with
    | left matched => exact .inl matched
    | right matched => exact .inr matched
  · rintro (matched | matched)
    · exact .left matched
    · exact .right matched

theorem matches_seq_iff :
    Matches (.seq p q) cs ↔ ∃ first second, cs = first ++ second ∧ Matches p first ∧
      Matches q second := by
  constructor
  · rintro ⟨⟩
    next first second left right => exact ⟨first, second, rfl, left, right⟩
  · rintro ⟨first, second, rfl, left, right⟩
    exact .seq left right

/-- The simplifications of a choice change none of its texts. -/
theorem matches_choice_iff : Matches (choice p q) cs ↔ Matches p cs ∨ Matches q cs := by
  unfold choice
  split
  next same => simp [same, not_matches_never]
  split
  next same => simp [same, not_matches_never]
  split
  next same => simp [same]
  · exact matches_alt_iff

/-- The simplifications of a sequence change none of its texts. -/
theorem matches_sequence_iff : Matches (sequence p q) cs ↔ Matches (.seq p q) cs := by
  unfold sequence
  split
  · simp [matches_seq_iff, not_matches_never]
  · simp [matches_seq_iff, not_matches_never]
  · rw [matches_seq_iff]
    constructor
    · intro matched
      exact ⟨[], cs, rfl, .empty, matched⟩
    · rintro ⟨_, second, rfl, ⟨⟩, matched⟩
      exact matched
  · rw [matches_seq_iff]
    constructor
    · intro matched
      exact ⟨cs, [], (List.append_nil cs).symm, matched, .empty⟩
    · rintro ⟨first, _, rfl, matched, ⟨⟩⟩
      rwa [List.append_nil]
  · rfl

theorem nullable_iff : p.nullable = true ↔ Matches p [] := by
  induction p with
  | never => simp [nullable, not_matches_never]
  | empty => simp [nullable, matches_empty_iff]
  | oneOf ranges => exact iff_of_false Bool.false_ne_true nofun
  | seq p q first second =>
      rw [nullable, Bool.and_eq_true, first, second, matches_seq_iff]
      constructor
      · rintro ⟨left, right⟩
        exact ⟨[], [], rfl, left, right⟩
      · rintro ⟨before, after, none, left, right⟩
        obtain ⟨rfl, rfl⟩ := List.append_eq_nil_iff.mp none.symm
        exact ⟨left, right⟩
  | alt p q left right => simp [nullable, left, right, matches_alt_iff]
  | star p => simp [nullable, Matches.done]

/-- A text of a repetition that is not empty begins with a text of its body that is not. -/
theorem Matches.star_cons {ds : List Char} (matched : Matches (.star p) ds) (text : ds = c :: cs) :
    ∃ first rest, cs = first ++ rest ∧ Matches p (c :: first) ∧ Matches (.star p) rest := by
  -- The induction is on the texts that are put together, and the repetition stays the same.
  generalize whole : Pattern.star p = r at matched
  induction matched with
  | done => cases text
  | @more body first rest begins goes _ ih =>
      cases whole
      cases first with
      | nil => exact ih text rfl
      | cons d first =>
          cases text
          exact ⟨first, rest, rfl, begins, goes⟩
  | empty | oneOf | seq | left | right => cases whole

theorem matches_star_cons_iff :
    Matches (.star p) (c :: cs) ↔ ∃ first rest, cs = first ++ rest ∧ Matches p (c :: first) ∧
      Matches (.star p) rest := by
  constructor
  · intro matched
    exact matched.star_cons rfl
  · rintro ⟨first, rest, rfl, begins, goes⟩
    exact .more begins goes

/-- A sequence begins with a character if its first part does, or its second one after nothing. -/
theorem matches_seq_cons_iff :
    Matches (.seq p q) (c :: cs) ↔
      (∃ first second, cs = first ++ second ∧ Matches p (c :: first) ∧ Matches q second) ∨
        p.nullable = true ∧ Matches q (c :: cs) := by
  rw [matches_seq_iff, nullable_iff]
  constructor
  · rintro ⟨first, second, text, left, right⟩
    cases first with
    | nil =>
        cases text
        exact .inr ⟨left, right⟩
    | cons d first =>
        cases text
        exact .inl ⟨first, second, rfl, left, right⟩
  · rintro (⟨first, second, rfl, left, right⟩ | ⟨none, right⟩)
    · exact ⟨c :: first, second, rfl, left, right⟩
    · exact ⟨[], c :: cs, rfl, none, right⟩

theorem matches_oneOf_cons_iff {ranges : List (Char × Char)} :
    Matches (.oneOf ranges) (c :: cs) ↔
      (∃ range ∈ ranges, range.1 ≤ c ∧ c ≤ range.2) ∧ cs = [] := by
  constructor
  · rintro ⟨⟩
    next listed least most => exact ⟨⟨_, listed, least, most⟩, rfl⟩
  · rintro ⟨⟨range, listed, least, most⟩, rfl⟩
    exact .oneOf listed least most

/-- The derivative by a character has the rests of the texts that begin with it. -/
theorem matches_derivative_iff : Matches (p.derivative c) cs ↔ Matches p (c :: cs) := by
  induction p generalizing cs with
  | never => exact iff_of_false not_matches_never not_matches_never
  | empty => simp [derivative, not_matches_never, matches_empty_iff]
  | oneOf ranges =>
      have within : (ranges.any fun range => range.1 ≤ c && c ≤ range.2) = true ↔
          ∃ range ∈ ranges, range.1 ≤ c ∧ c ≤ range.2 := by
        simp [List.any_eq_true]
      rw [matches_oneOf_cons_iff, ← within, derivative]
      split
      next among => exact matches_empty_iff.trans (and_iff_right among).symm
      next among => exact iff_of_false not_matches_never fun both => among both.1
  | seq p q first second =>
      rw [matches_seq_cons_iff, derivative]
      by_cases nullable : p.nullable = true
      · simp [nullable, matches_choice_iff, matches_sequence_iff, matches_seq_iff, first, second]
      · simp [nullable, matches_sequence_iff, matches_seq_iff, first]
  | alt p q left right => simp only [derivative, matches_choice_iff, left, right, matches_alt_iff]
  | star p ih =>
      simp only [derivative, matches_sequence_iff, matches_seq_iff, ih, matches_star_cons_iff]

theorem accepts_iff : p.accepts cs = true ↔ Matches p cs := by
  induction cs generalizing p with
  | nil => exact nullable_iff
  | cons c rest ih => rw [accepts, ih, matches_derivative_iff]

/-! ## Words and beginnings -/

theorem matches_word_iff (s : String) : Matches (word s) cs ↔ cs = s.toList := by
  rw [word]
  generalize s.toList = letters
  induction letters generalizing cs with
  | nil => exact matches_empty_iff
  | cons letter rest ih =>
      rw [List.foldr_cons, matches_sequence_iff]
      cases cs with
      | nil =>
          refine iff_of_false (fun matched => ?_) nofun
          obtain ⟨first, second, none, letter, -⟩ := matches_seq_iff.mp matched
          obtain ⟨rfl, -⟩ := List.append_eq_nil_iff.mp none.symm
          cases letter
      | cons c cs =>
          rw [matches_seq_cons_iff]
          constructor
          · rintro (⟨first, second, rfl, begins, goes⟩ | ⟨none, -⟩)
            · obtain ⟨⟨range, listed, least, most⟩, rfl⟩ := matches_oneOf_cons_iff.mp begins
              cases List.mem_singleton.mp listed
              rw [ih.mp goes, Char.le_antisymm most least]
              rfl
            · cases none
          · rintro ⟨⟩
            refine .inl ⟨[], rest, rfl, .oneOf (List.mem_singleton_self _) ?_ ?_, ih.mpr rfl⟩
            · exact Char.le_refl _
            · exact Char.le_refl _

theorem matches_words_iff (ws : List String) :
    Matches (words ws) cs ↔ ∃ w ∈ ws, cs = w.toList := by
  induction ws with
  | nil => exact iff_of_false not_matches_never (by simp)
  | cons w rest ih =>
      have here : Matches (word w) cs ↔ cs = w.toList := matches_word_iff w
      rw [words] at ih ⊢
      rw [List.foldr_cons, matches_choice_iff, here, ih]
      simp

/-- The characters that the texts of a pattern may begin with. -/
def starts : Pattern → List (Char × Char)
  | .never | .empty => []
  | .oneOf ranges => ranges
  | .seq p q => p.starts ++ if p.nullable then q.starts else []
  | .alt p q => p.starts ++ q.starts
  | .star p => p.starts

theorem Matches.starts (matched : Matches p (c :: cs)) :
    ∃ range ∈ p.starts, range.1 ≤ c ∧ c ≤ range.2 := by
  induction p generalizing cs with
  | never => cases matched
  | empty => cases matched
  | oneOf ranges => exact (matches_oneOf_cons_iff.mp matched).1
  | seq p q first second =>
      rcases matches_seq_cons_iff.mp matched with ⟨before, after, rfl, begins, -⟩ | ⟨none, begins⟩
      · obtain ⟨range, listed, within⟩ := first begins
        exact ⟨range, List.mem_append_left _ listed, within⟩
      · obtain ⟨range, listed, within⟩ := second begins
        refine ⟨range, List.mem_append_right _ ?_, within⟩
        rwa [if_pos none]
  | alt p q left right =>
      rcases matches_alt_iff.mp matched with matched | matched
      · obtain ⟨range, listed, within⟩ := left matched
        exact ⟨range, List.mem_append_left _ listed, within⟩
      · obtain ⟨range, listed, within⟩ := right matched
        exact ⟨range, List.mem_append_right _ listed, within⟩
  | star p ih =>
      obtain ⟨first, rest, rfl, begins, -⟩ := matches_star_cons_iff.mp matched
      exact ih begins

end BezelStream.Text.Pattern
