import BezelStream.Text.Split

/-! # Groups of characters with a mark between them

`Grouped` says what a text looks like that is put together of groups, without cutting it. Cutting
the text at the mark gives the groups back, so the look of a text can be decided, and it can be
followed through a change of its characters.
-/

namespace BezelStream.Text

theorem stripStart?_eq_some_iff {word cs rest : List Char} :
    stripStart? word cs = some rest ↔ cs = word ++ rest := by
  induction word generalizing cs with
  | nil => simp [stripStart?, eq_comm]
  | cons c word ih =>
      cases cs with
      | nil => simp [stripStart?]
      | cons d cs =>
          by_cases same : c = d
          · subst same
            simp [stripStart?, ih]
          · simp [stripStart?, same, Ne.symm same]

theorem splitAt_eq_splitOn (mark : Char) (cs : List Char) : splitAt mark cs = cs.splitOn mark := by
  induction cs with
  | nil => rfl
  | cons c rest ih =>
      rw [splitAt, List.splitOn_cons_eq_if_modifyHead, ih]
      by_cases here : c = mark
      · rw [if_pos here, if_pos (beq_iff_eq.mpr here)]
      · rw [if_neg here, if_neg (mt beq_iff_eq.mp here)]
        cases split : rest.splitOn mark with
        | nil => exact absurd split (List.splitOn_ne_nil _ _)
        | cons piece pieces => rfl

/-- Cutting takes nothing from a text but the marks. -/
theorem flatten_splitAt (mark : Char) (cs : List Char) :
    (splitAt mark cs).flatten = cs.filter (· ≠ mark) := by
  induction cs with
  | nil => rfl
  | cons c rest ih =>
      rw [splitAt]
      by_cases here : c = mark
      · simp [here, ih]
      · cases split : splitAt mark rest with
        | nil => exact absurd (splitAt_eq_splitOn mark rest ▸ split) (List.splitOn_ne_nil _ _)
        | cons piece pieces =>
            have tail := split ▸ ih
            simpa [here] using tail

/-- A text is known by its characters other than marks and by the lengths of its pieces. -/
theorem eq_of_pieces {mark : Char} {cs ds : List Char}
    (same : cs.filter (· ≠ mark) = ds.filter (· ≠ mark))
    (lengths : (splitAt mark cs).map List.length = (splitAt mark ds).map List.length) :
    cs = ds := by
  rw [← flatten_splitAt, ← flatten_splitAt] at same
  have pieces : splitAt mark cs = splitAt mark ds := List.eq_iff_flatten_eq.mpr ⟨same, lengths⟩
  rw [splitAt_eq_splitOn, splitAt_eq_splitOn] at pieces
  have whole : [mark].intercalate (List.splitOn mark cs) = cs := List.intercalate_splitOn mark
  rw [← whole, pieces, List.intercalate_splitOn]

/-- Groups of characters out of a store, as many and as long as one of the lists of lengths says,
    with the mark between them. -/
def Grouped (mark : Char) (lengths : List (List Nat)) (store : List Char) (cs : List Char) : Prop :=
  ∃ groups : List (List Char), cs = [mark].intercalate groups ∧
    groups.map List.length ∈ lengths ∧ ∀ group ∈ groups, ∀ c ∈ group, c ∈ store

variable {mark : Char} {lengths : List (List Nat)} {store other cs : List Char}

/-- A text is grouped exactly if the pieces between the marks are its groups. -/
theorem grouped_iff (unmarked : mark ∉ store) (filled : [] ∉ lengths) :
    Grouped mark lengths store cs ↔
      (splitAt mark cs).map List.length ∈ lengths ∧
        ∀ group ∈ splitAt mark cs, ∀ c ∈ group, c ∈ store := by
  rw [splitAt_eq_splitOn]
  constructor
  · rintro ⟨groups, rfl, fits, stored⟩
    have markless : ∀ group ∈ groups, mark ∉ group :=
      fun group among within => unmarked (stored group among mark within)
    have some : groups ≠ [] := by
      rintro rfl
      exact filled fits
    rw [List.splitOn_intercalate mark markless some]
    exact ⟨fits, stored⟩
  · rintro ⟨fits, stored⟩
    exact ⟨cs.splitOn mark, (List.intercalate_splitOn mark).symm, fits, stored⟩

/-- The characters of a grouped text are in the store, marks apart. -/
theorem Grouped.mem (grouped : Grouped mark lengths store cs) {c : Char} (member : c ∈ cs) :
    c = mark ∨ c ∈ store := by
  obtain ⟨groups, rfl, -, stored⟩ := grouped
  -- The induction is on the groups, so nothing may depend on how long they are.
  clear lengths
  induction groups with
  | nil => cases member
  | cons group rest ih =>
      obtain ⟨here, others⟩ := List.forall_mem_cons.mp stored
      cases rest with
      | nil => exact .inr (here c (by simpa using member))
      | cons next rest =>
          rw [List.intercalate_cons_cons, List.append_assoc, List.mem_append] at member
          rcases member with within | later
          · exact .inr (here c within)
          · rcases List.mem_cons.mp later with rfl | later
            · exact .inl rfl
            · exact ih later others

theorem Grouped.forall_of {P : Char → Prop} (grouped : Grouped mark lengths store cs)
    (marked : P mark) (stored : ∀ c ∈ store, P c) : ∀ c ∈ cs, P c := by
  intro c member
  rcases grouped.mem member with rfl | among
  · exact marked
  · exact stored c among

/-- The length of groups of these lengths, with a mark counted for each of them. -/
def groupedLength : List Nat → Nat
  | [] => 0
  | count :: rest => count + 1 + groupedLength rest

theorem length_intercalate {groups : List (List Char)} (some : groups ≠ []) :
    ([mark].intercalate groups).length + 1 = groupedLength (groups.map List.length) := by
  induction groups with
  | nil => contradiction
  | cons group rest ih =>
      cases rest with
      | nil => simp [groupedLength]
      | cons next rest =>
          rw [List.intercalate_cons_cons, List.map_cons, groupedLength, ← ih nofun]
          simp only [List.length_append, List.length_singleton]
          omega

/-- How long a grouped text is follows from how long its groups are. -/
theorem Grouped.length_add_one (grouped : Grouped mark lengths store cs) (filled : [] ∉ lengths) :
    ∃ counts ∈ lengths, cs.length + 1 = groupedLength counts := by
  obtain ⟨groups, rfl, fits, -⟩ := grouped
  refine ⟨_, fits, length_intercalate ?_⟩
  rintro rfl
  exact filled fits

theorem splitAt_map (f : Char → Char) (kept : ∀ c, f c = mark ↔ c = mark) (cs : List Char) :
    splitAt mark (cs.map f) = (splitAt mark cs).map (List.map f) := by
  induction cs with
  | nil => rfl
  | cons c rest ih =>
      rw [List.map_cons, splitAt, splitAt, ih]
      by_cases here : c = mark
      · rw [if_pos here, if_pos ((kept c).mpr here)]
        rfl
      · rw [if_neg here, if_neg (mt (kept c).mp here)]
        cases splitAt mark rest <;> rfl

/-- A change that leaves the marks alone leaves the groups as long as they are. -/
theorem grouped_map_iff (f : Char → Char) (kept : ∀ c, f c = mark ↔ c = mark)
    (stored : ∀ c, f c ∈ other ↔ c ∈ store) (unmarked : mark ∉ other) (filled : [] ∉ lengths) :
    Grouped mark lengths other (cs.map f) ↔ Grouped mark lengths store cs := by
  have absent : mark ∉ store := fun among =>
    unmarked ((kept mark).mpr rfl ▸ (stored mark).mpr among)
  rw [grouped_iff unmarked filled, grouped_iff absent filled, splitAt_map f kept]
  simp [Function.comp_def, stored]

end BezelStream.Text
