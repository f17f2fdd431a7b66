import BezelStream.Text.Lines

/-! # Texts that show lines

`Prints` says how lines stand in a text: each is ended by a line end, which the last one may lack.
Lines that hold no line end of their own are read back from every text that shows them.
-/

namespace BezelStream.Text

/-- No character ends a line. -/
abbrev Unbroken (cs : List Char) : Prop :=
  ∀ c ∈ cs, isLineEnd c = false

/-- What stands between two lines: one character that ends a line, or a carriage return together
    with the line feed after it. -/
inductive LineEnd : List Char → Prop where
  | single {c : Char} (ends : isLineEnd c = true) : LineEnd [c]
  | double : LineEnd ['\r', '\n']

/-- A text shows lines one below the other. The last line may lack its end if it is not empty. -/
inductive Prints : List (List Char) → List Char → Prop where
  | nothing : Prints [] []
  | unended {line : List Char} (filled : line ≠ []) : Prints [line] line
  /-- A lone carriage return does not stand in front of a line feed. -/
  | line {line mark text : List Char} {ls : List (List Char)} (ends : LineEnd mark)
      (apart : mark = ['\r'] → ∀ rest, text ≠ '\n' :: rest) (rest : Prints ls text) :
      Prints (line :: ls) (line ++ mark ++ text)

variable {cs line rest : List Char} {ls : List (List Char)}

theorem unbroken_of_digits (digits : ∀ c ∈ cs, c.isDigit = true) : Unbroken cs := by
  intro c member
  obtain ⟨least, most⟩ := Char.isDigit_iff_toNat.mp (digits c member)
  change 48 ≤ c.toNat at least
  change c.toNat ≤ 57 at most
  simp only [isLineEnd, Bool.or_eq_false_iff, Bool.and_eq_false_iff, decide_eq_false_iff_not,
    beq_eq_false_iff_ne]
  omega

theorem linesFrom_step {c : Char} (unbroken : isLineEnd c = false) :
    linesFrom line (c :: rest) = linesFrom (c :: line) rest := by
  rw [linesFrom, if_neg (by simp [unbroken])]
  · rintro tail rfl
    cases unbroken

theorem linesFrom_unbroken (unbroken : Unbroken cs) :
    linesFrom line (cs ++ rest) = linesFrom (cs.reverse ++ line) rest := by
  induction cs generalizing line with
  | nil => rfl
  | cons c cs ih =>
      obtain ⟨first, others⟩ := List.forall_mem_cons.mp unbroken
      rw [List.cons_append, linesFrom_step first, ih others, List.reverse_cons, List.append_assoc,
        List.singleton_append]

theorem lines_unbroken (unbroken : Unbroken cs) : lines (cs ++ rest) = linesFrom cs.reverse rest := by
  rw [lines, linesFrom_unbroken unbroken, List.append_nil]

theorem linesFrom_end {mark : List Char} (ends : LineEnd mark)
    (apart : mark = ['\r'] → ∀ tail, rest ≠ '\n' :: tail) :
    linesFrom line (mark ++ rest) = line.reverse :: lines rest := by
  cases ends with
  | double =>
      rw [List.cons_append, List.singleton_append, linesFrom]
      rfl
  | @single c ends =>
      rw [List.singleton_append, linesFrom, if_pos ends]
      · rfl
      · rintro tail rfl
        exact apart rfl tail

/-- Unbroken lines are read back from a text that shows them. -/
theorem lines_of_prints (prints : Prints ls cs) (unbroken : ∀ line ∈ ls, Unbroken line) :
    lines cs = ls := by
  induction prints with
  | nothing => rfl
  | @unended line filled =>
      have read : lines (line ++ []) = linesFrom line.reverse [] :=
        lines_unbroken (unbroken line List.mem_cons_self)
      rw [List.append_nil] at read
      rw [read, linesFrom, List.reverse_reverse]
      exact fun empty => filled (List.reverse_eq_nil_iff.mp empty)
  | @line line mark text ls ends apart rest ih =>
      obtain ⟨first, others⟩ := List.forall_mem_cons.mp unbroken
      rw [List.append_assoc, lines_unbroken first, linesFrom_end ends apart, List.reverse_reverse,
        ih others]

end BezelStream.Text
