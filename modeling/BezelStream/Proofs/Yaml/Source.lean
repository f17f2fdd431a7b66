import BezelStream.Yaml.Source

/-! # What is left of a source

Whatever goes on in a source leaves an end of it. A run of characters of one class and what is
left of it make up the source.
-/

namespace BezelStream.Yaml.Source

theorem skip_suffix (src : Source) : src.skip <:+ src := by
  match src with
  | [] => exact List.suffix_rfl
  | [_] => exact List.suffix_rfl
  | spot :: next :: rest => exact List.suffix_cons spot (next :: rest)

theorem skipMany_suffix (n : Nat) (src : Source) : src.skipMany n <:+ src := by
  induction n generalizing src with
  | zero => exact List.suffix_rfl
  | succ n ih => exact (ih src.skip).trans src.skip_suffix

theorem span_suffix (p : Char → Bool) (src : Source) : (src.span p).2 <:+ src := by
  induction src with
  | nil => exact List.suffix_rfl
  | cons spot rest ih =>
      rw [span]
      split
      · exact ih.trans (List.suffix_cons spot rest)
      · exact List.suffix_rfl

theorem skipWhile_suffix (p : Char → Bool) (src : Source) : src.skipWhile p <:+ src := by
  induction src with
  | nil => exact List.suffix_rfl
  | cons spot rest ih =>
      rw [skipWhile]
      split
      · exact ih.trans (List.suffix_cons spot rest)
      · exact List.suffix_rfl

theorem lineBreak_suffix (src : Source) : src.lineBreak.2 <:+ src := by
  unfold lineBreak
  split
  · exact (List.suffix_cons _ _).trans (List.suffix_cons _ _)
  · split
    · exact List.suffix_cons _ _
    · split
      · exact List.suffix_cons _ _
      · exact List.suffix_rfl
  · exact List.suffix_rfl

theorem skipComment_suffix (src : Source) : src.skipComment <:+ src := by
  have blanks := src.skipWhile_suffix (· = ' ')
  unfold skipComment
  dsimp only
  split
  · exact (skipWhile_suffix _ _).trans blanks
  · exact blanks

theorem span_chars (p : Char → Bool) (src : Source) :
    (src.span p).1 ++ (src.span p).2.map Spot.char = src.map Spot.char := by
  induction src with
  | nil => rfl
  | cons spot rest ih =>
      rw [span]
      split
      · exact congrArg (spot.char :: ·) ih
      · rfl

theorem span_all (p : Char → Bool) (src : Source) : (src.span p).1.all p = true := by
  induction src with
  | nil => rfl
  | cons spot rest ih =>
      rw [span]
      split
      next of => exact Bool.and_eq_true_iff.mpr ⟨of, ih⟩
      next => rfl

theorem skipWhile_eq_span (p : Char → Bool) (src : Source) : src.skipWhile p = (src.span p).2 := by
  induction src with
  | nil => rfl
  | cons spot rest ih =>
      rw [skipWhile, span]
      split
      · exact ih
      · rfl

theorem chars_ofChars (p : Place) (cs : List Char) :
    (ofCharsAt p cs).map Spot.char = cs ++ [endMark] := by
  induction cs generalizing p with
  | nil => rfl
  | cons c rest ih => exact congrArg (c :: ·) (ih _)

end BezelStream.Yaml.Source
