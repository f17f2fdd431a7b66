import BezelStream.Text.Blank
import Mathlib.Data.List.TakeWhile

/-! # What is left when a text is trimmed

`Core` says without any search what trimming leaves of a text: the text is this with blanks before
and after it, and neither of its own ends is blank. Every text has exactly one core, and `trim`
finds it.
-/

namespace BezelStream.Text

/-- Every character is blank. -/
abbrev Blank (cs : List Char) : Prop :=
  ∀ c ∈ cs, isBlank c = true

/-- The first character is not blank. -/
abbrev Flush (cs : List Char) : Prop :=
  ∀ c rest, cs = c :: rest → isBlank c = false

/-- Neither the first character is blank nor the last one. -/
structure Tight (cs : List Char) : Prop where
  first : Flush cs
  last : ∀ front c, cs = front ++ [c] → isBlank c = false

/-- What is left of a text without the blanks at its ends. -/
structure Core (cs core : List Char) : Prop where
  around : ∃ left right, cs = left ++ core ++ right ∧ Blank left ∧ Blank right
  tight : Tight core

variable {cs core left right rest : List Char}

theorem Tight.reverse (tight : Tight cs) : Tight cs.reverse where
  first c rest starts := by
    refine tight.last rest.reverse c ?_
    rw [← List.reverse_reverse cs, starts, List.reverse_cons]
  last front c ends := by
    refine tight.first c front.reverse ?_
    rw [← List.reverse_reverse cs, ends, List.reverse_concat]

theorem flush_append (flush : Flush cs) (some : cs ≠ []) : Flush (cs ++ rest) := by
  cases cs with
  | nil => contradiction
  | cons c cs =>
      rintro _ _ ⟨⟩
      exact flush c cs rfl

/-- The ends of a text are those of its first part and of its last one. -/
theorem Tight.append (first : Tight left) (last : Tight right) (someLeft : left ≠ [])
    (someRight : right ≠ []) (between : List Char) : Tight (left ++ between ++ right) where
  first := by
    rw [List.append_assoc]
    exact flush_append first.first someLeft
  last front c ends := by
    have flush : Flush (left ++ between ++ right).reverse := by
      rw [List.reverse_append]
      exact flush_append last.reverse.first (mt List.reverse_eq_nil_iff.mp someRight)
    rw [ends, List.reverse_concat] at flush
    exact flush c front.reverse rfl

theorem tight_of_unblank (unblank : ∀ c ∈ cs, isBlank c = false) : Tight cs where
  first c _ starts := unblank c (starts ▸ List.mem_cons_self)
  last _ c ends := unblank c (ends ▸ List.mem_append_right _ List.mem_cons_self)

theorem trimStart_append (blank : Blank left) : trimStart (left ++ rest) = trimStart rest :=
  List.dropWhile_append_of_pos blank

theorem trimStart_flush (flush : Flush cs) : trimStart cs = cs := by
  cases cs with
  | nil => rfl
  | cons c rest =>
      have first := flush c rest rfl
      exact List.dropWhile_cons_of_neg (by simp [first])

theorem trimStart_blank (blank : Blank cs) : trimStart cs = [] :=
  List.dropWhile_eq_nil_iff.mpr blank

theorem exists_trimStart (cs : List Char) :
    ∃ left, cs = left ++ trimStart cs ∧ Blank left ∧ Flush (trimStart cs) := by
  refine ⟨cs.takeWhile isBlank, List.takeWhile_append_dropWhile.symm, ?_, ?_⟩
  · intro c member
    exact List.mem_takeWhile_imp member
  · intro c rest starts
    have stops := List.head?_dropWhile_not isBlank cs
    rw [show cs.dropWhile isBlank = c :: rest from starts] at stops
    simpa using stops

theorem trimEnd_eq (cs : List Char) : trimEnd cs = (trimStart cs.reverse).reverse :=
  rfl

theorem trimEnd_append (blank : Blank right) : trimEnd (rest ++ right) = trimEnd rest := by
  have blank : Blank right.reverse := fun c member => blank c (List.mem_reverse.mp member)
  rw [trimEnd_eq, List.reverse_append, trimStart_append blank, ← trimEnd_eq]

theorem trimEnd_tight (tight : Tight cs) : trimEnd cs = cs := by
  rw [trimEnd_eq, trimStart_flush tight.reverse.first, List.reverse_reverse]

theorem core_trim (cs : List Char) : Core cs (trim cs) := by
  obtain ⟨left, front, blankLeft, first⟩ := exists_trimStart cs
  obtain ⟨back, behind, blankBack, last⟩ := exists_trimStart (trimStart cs).reverse
  have split : trimStart cs = trim cs ++ back.reverse := by
    rw [trim, trimEnd_eq, ← List.reverse_append, ← behind, List.reverse_reverse]
  refine ⟨⟨left, back.reverse, ?_, blankLeft, ?_⟩, ?_, ?_⟩
  · rw [List.append_assoc, ← split, ← front]
  · intro c member
    exact blankBack c (List.mem_reverse.mp member)
  · intro c rest starts
    rw [starts, List.cons_append] at split
    exact first c _ split
  · intro front c ends
    rw [trim, trimEnd_eq, List.reverse_eq_iff, List.reverse_concat] at ends
    exact last c _ ends

/-- Trimming finds the core. -/
theorem trim_eq_iff : trim cs = core ↔ Core cs core := by
  constructor
  · rintro rfl
    exact core_trim cs
  · rintro ⟨⟨left, right, rfl, blankLeft, blankRight⟩, tight⟩
    rw [trim, List.append_assoc, trimStart_append blankLeft]
    -- Nothing stops the trimming at the start if the core is empty.
    cases core with
    | nil =>
        rw [List.nil_append, trimStart_blank blankRight]
        rfl
    | cons c rest =>
        have flush : Flush (c :: rest ++ right) := flush_append tight.first nofun
        rw [trimStart_flush flush, trimEnd_append blankRight, trimEnd_tight tight]

theorem trim_trimEnd (cs : List Char) : trim (trimEnd cs) = trim cs := by
  obtain ⟨back, behind, blankBack, -⟩ := exists_trimStart cs.reverse
  obtain ⟨⟨left, right, parts, blankLeft, blankRight⟩, tight⟩ := core_trim (trimEnd cs)
  have whole : cs = trimEnd cs ++ back.reverse := by
    rw [trimEnd_eq, ← List.reverse_append, ← behind, List.reverse_reverse]
  refine (trim_eq_iff.mpr ⟨⟨left, right ++ back.reverse, ?_, blankLeft, ?_⟩, tight⟩).symm
  · rw [← List.append_assoc, ← parts, ← whole]
  · refine List.forall_mem_append.mpr ⟨blankRight, fun c member => ?_⟩
    exact blankBack c (List.mem_reverse.mp member)

theorem tight_of_trim (kept : trim cs = cs) : Tight cs :=
  (trim_eq_iff.mp kept).tight

/-- A text without blanks at its ends is its own core. -/
theorem core_self (tight : Tight cs) : Core cs cs :=
  ⟨⟨[], [], by simp, List.forall_mem_nil _, List.forall_mem_nil _⟩, tight⟩

end BezelStream.Text
