import BezelStream.Yaml.ScalarText
import BezelStream.Proofs.Yaml.Outcome
import BezelStream.Proofs.Yaml.Source
import Mathlib.Algebra.Group.Nat.Defs
import Mathlib.Data.List.Induction

/-! # What readers of scalars come to

A reader of part of a text fails with a flaw of a known kind or leaves an end of the text. The
texts of scalars are malformed, or one between double quotes has an escape beyond the last code
point.
-/

namespace BezelStream.Yaml

open Text

/-! ## Quoted scalars -/

/-- Whether characters hold an escape of eight digits that is beyond the last code point, and what
    its number is then: a bad value, or too large even to be looked at. -/
def HasFarEscape (cs : List Char) (reason : Mismatch) : Prop :=
  ∃ digits, '\\' :: 'U' :: digits <:+: cs ∧ digits.length = 8 ∧ digits.all isHexDigit = true ∧
    0x10FFFF < hexNumber digits ∧
      reason = if hexNumber digits < 0x80000000 then .badValue else .tooLarge

section

variable {flaws : Flaw → Prop} (malformed : flaws .malformed) {text src : Source}

include malformed

theorem quotedBreaks_reads (fuel : Nat) (inside : src <:+ text) :
    ReadsWithin text flaws (quotedBreaks fuel src) := by
  induction fuel generalizing src with
  | zero => exact malformed
  | succ fuel ih =>
      rw [quotedBreaks]
      split
      · exact malformed
      · have blanks := (src.skipWhile_suffix isSpaceOrTab).trans inside
        dsimp only
        split
        · exact (ih ((Source.lineBreak_suffix _).trans blanks)).bind fun _ rest => rest
        · exact blanks

theorem quotedBlanks_reads (inside : src <:+ text) : ReadsWithin text flaws (quotedBlanks src) := by
  have blanks := (src.span_suffix isSpaceOrTab).trans inside
  unfold quotedBlanks
  dsimp only
  split
  · exact malformed
  · split
    · exact (quotedBreaks_reads malformed _ ((Source.lineBreak_suffix _).trans blanks)).bind
        fun _ rest => rest
    · exact blanks

end

theorem hexValue_lt {c : Char} (digit : isHexDigit c = true) :
    (alphanumericValue? c).getD 0 < 16 := by
  unfold isHexDigit at digit
  split at digit
  next v value =>
    rw [value]
    exact of_decide_eq_true digit
  next => cases digit

theorem hexNumber_lt {cs : List Char} (digits : cs.all isHexDigit = true) :
    hexNumber cs < 16 ^ cs.length := by
  induction cs using List.reverseRecOn with
  | nil => decide
  | append_singleton cs c ih =>
      rw [List.all_append, Bool.and_eq_true] at digits
      have front := ih digits.1
      have last := hexValue_lt (List.all_eq_true.mp digits.2 c (List.mem_singleton_self c))
      rw [hexNumber, List.foldl_append, List.length_append, List.length_singleton, Nat.pow_succ]
      change hexNumber cs * 16 + (alphanumericValue? c).getD 0 < _
      omega

theorem hexEscape_some {width code : Nat} {src rest : Source}
    (escape : hexEscape? width src = some (code, rest)) :
    rest <:+ src ∧ ∃ digits, digits <+: src.map Spot.char ∧ digits.length = width ∧
      digits.all isHexDigit = true ∧ code = hexNumber digits := by
  unfold hexEscape? at escape
  dsimp only at escape
  split at escape
  next digits =>
    cases escape
    rw [Bool.and_eq_true, decide_eq_true_eq] at digits
    exact ⟨src.skipMany_suffix width, _, (src.take_prefix width).map Spot.char, digits.1, digits.2,
      rfl⟩
  next => cases escape

theorem pointOf_error {code : Nat} {reason : Mismatch} (failed : pointOf code = .error reason) :
    0x10FFFF < code ∧ reason = if code < 0x80000000 then .badValue else .tooLarge := by
  unfold pointOf at failed
  split at failed
  next => cases failed
  next beyond =>
    refine ⟨by omega, ?_⟩
    split at failed
    next near =>
      cases failed
      rw [if_pos near]
    next far =>
      cases failed
      rw [if_neg far]

/-- Escapes of fewer than eight digits stay below the last code point. -/
theorem width_of_far {c : Char} {width : Nat} {digits : List Char}
    (asked : escapeWidth? c = some width) (length : digits.length = width)
    (hex : digits.all isHexDigit = true) (far : 0x10FFFF < hexNumber digits) :
    c = 'U' ∧ width = 8 := by
  have bound := hexNumber_lt hex
  obtain ⟨before, after, shape, -⟩ := List.lookup_eq_some_iff.mp asked
  have known : (c, width) ∈ [('x', 2), ('u', 4), ('U', 8)] :=
    shape ▸ List.mem_append_right before List.mem_cons_self
  simp only [List.mem_cons, List.not_mem_nil, or_false, Prod.mk.injEq] at known
  rcases known with ⟨rfl, rfl⟩ | ⟨rfl, rfl⟩ | ⟨rfl, rfl⟩
  · rw [length] at bound
    omega
  · rw [length] at bound
    omega
  · exact ⟨rfl, rfl⟩

/-- Several characters behind the next one are behind it in the source. -/
theorem prefix_after_peek {src : Source} {c : Char} {cs : List Char} (next : src.peek = c)
    (front : cs <+: src.skip.map Spot.char) (several : 1 < cs.length) :
    c :: cs <+: src.map Spot.char := by
  match src with
  | [] | [_] =>
      have short := Nat.lt_of_lt_of_le several front.length_le
      simp [Source.skip] at short
  | spot :: following :: rest => exact List.cons_prefix_cons.mpr ⟨next.symm, front⟩

section

variable {flaws : Flaw → Prop} (malformed : flaws .malformed) {text src : Source}

include malformed

/-- An escape from after its backslash. -/
theorem escapeSequence_reads (inside : src <:+ text)
    (far : ∀ digits reason, 'U' :: digits <+: src.map Spot.char → digits.length = 8 →
      digits.all isHexDigit = true → pointOf (hexNumber digits) = .error reason →
        flaws (.mismatch reason)) :
    ReadsWithin text flaws (escapeSequence src) := by
  unfold escapeSequence
  split
  · exact (src.skip_suffix).trans inside
  next width _ asked =>
    split
    · exact malformed
    next code rest escape =>
      obtain ⟨ends, digits, front, length, hex, rfl⟩ := hexEscape_some escape
      have left : rest <:+ text := (ends.trans src.skip_suffix).trans inside
      split
      · exact left
      next reason beyond =>
        obtain ⟨letter, rfl⟩ := width_of_far asked length hex (pointOf_error beyond).1
        exact far digits reason (prefix_after_peek letter front (by omega)) length hex beyond
  · split
    · exact (quotedBreaks_reads malformed _ ((Source.lineBreak_suffix _).trans inside)).bind
        fun _ rest => rest
    · exact malformed

omit malformed in
/-- What follows a part of a text that was read is put behind it. -/
theorem ReadsWithin.after {read : Except Flaw (CodePoints × Source)}
    (reads : ReadsWithin text flaws read) (part : CodePoints) : ReadsWithin text flaws (do
      let (more, src) ← read
      return (part ++ more, src)) :=
  reads.bind fun _ rest => rest

theorem quotedText_reads (double : Bool) (fuel : Nat) (inside : src <:+ text)
    (far : ∀ reason, HasFarEscape (text.map Spot.char) reason → flaws (.mismatch reason)) :
    ReadsWithin text flaws (quotedText double fuel src) := by
  induction fuel generalizing src with
  | zero => exact malformed
  | succ fuel ih =>
      have past := src.skip_suffix.trans inside
      have continued (part : CodePoints × Source) (left : part.2 <:+ text) :=
        (ih left).after part.1
      rw [quotedText]
      dsimp only
      split
      · exact (quotedBlanks_reads malformed inside).bind fun (_, rest) => continued (_, rest)
      split
      · split
        · exact past
        split
        next backslash =>
          refine (escapeSequence_reads malformed past
            fun digits reason front length hex beyond => ?_).bind continued
          have here := prefix_after_peek backslash front (by rw [List.length_cons]; omega)
          exact far reason ⟨digits, here.isInfix.trans (inside.map _).isInfix, length, hex,
            pointOf_error beyond⟩
        · exact continued (_, src.skip) past
      · split
        · split
          · exact continued (_, src.skipMany 2) ((src.skipMany_suffix 2).trans inside)
          · exact past
        · exact continued (_, src.skip) past

/-! ## Block scalars -/

omit malformed in
theorem skipIndentation_suffix (indent : Int) (src : Source) : skipIndentation indent src <:+ src := by
  induction src with
  | nil => exact List.suffix_rfl
  | cons spot rest ih =>
      rw [skipIndentation]
      split
      · exact ih.trans (List.suffix_cons spot rest)
      · exact List.suffix_rfl

omit malformed in
theorem blockBreaks_suffix (indent : Int) (fuel : Nat) (src : Source) :
    (blockBreaks indent fuel src).2 <:+ src := by
  induction fuel generalizing src with
  | zero => exact List.suffix_rfl
  | succ fuel ih =>
      have front := skipIndentation_suffix indent src
      rw [blockBreaks]
      dsimp only
      split
      · exact ((ih _).trans (Source.lineBreak_suffix _)).trans front
      · exact front

omit malformed in
theorem blockIndentation_suffix (fuel : Nat) (greatest : Int) (src : Source) :
    (blockIndentation fuel greatest src).2.2 <:+ src := by
  induction fuel generalizing greatest src with
  | zero => exact List.suffix_rfl
  | succ fuel ih =>
      rw [blockIndentation]
      split
      · exact (ih _ _).trans src.skip_suffix
      · split
        · exact (ih _ _).trans src.lineBreak_suffix
        · exact List.suffix_rfl

omit malformed in
theorem blockLines_suffix (folded : Bool) (indent : Int) (fuel : Nat) (breaks : List Char)
    (src : Source) : (blockLines folded indent fuel breaks src).2.2.2 <:+ src := by
  induction fuel generalizing breaks src with
  | zero => exact List.suffix_rfl
  | succ fuel ih =>
      rw [blockLines]
      split
      · have line := src.span_suffix fun c => !endsLine c
        have next := (Source.lineBreak_suffix _).trans line
        dsimp only
        split
        · exact (ih _ _).trans ((blockBreaks_suffix indent _ _).trans next)
        · exact (blockBreaks_suffix indent _ _).trans next
      · exact List.suffix_rfl

theorem blockIndicators_gives (inside : src <:+ text) :
    GivesOrFails (fun read => read.2.2 <:+ text) flaws (blockIndicators src) := by
  have one := src.skip_suffix.trans inside
  have two := (src.skipMany_suffix 2).trans inside
  unfold blockIndicators
  split
  next rest shape =>
    have left : rest <:+ text := by
      split at shape
      · split at shape <;> cases shape <;> assumption
      · split at shape <;> cases shape <;> assumption
      · cases shape
        exact inside
    split
    · exact malformed
    · exact left

theorem blockText_reads (folded : Bool) (parent : Int) (inside : src <:+ text) :
    ReadsWithin text flaws (blockText folded parent src) := by
  refine (blockIndicators_gives malformed inside).bind fun ⟨chomping, increment, rest⟩ left => ?_
  have comment := rest.skipComment_suffix.trans left
  dsimp only
  split
  · exact malformed
  · have first := (Source.lineBreak_suffix _).trans comment
    cases increment with
    | some n =>
        exact (blockLines_suffix _ _ _ _ _).trans ((blockBreaks_suffix _ _ _).trans first)
    | none => exact (blockLines_suffix _ _ _ _ _).trans ((blockIndentation_suffix _ _ _).trans first)

end

/-! ## Plain scalars -/

theorem plainRun_suffix (inFlow : Bool) (src : Source) : (plainRun inFlow src).2 <:+ src := by
  induction src with
  | nil => exact List.suffix_rfl
  | cons spot rest ih =>
      rw [plainRun]
      split
      · exact List.suffix_rfl
      · exact ih.trans (List.suffix_cons spot rest)

theorem plainBreaks_suffix (fuel : Nat) (src : Source) : (plainBreaks fuel src).2 <:+ src := by
  induction fuel generalizing src with
  | zero => exact List.suffix_rfl
  | succ fuel ih =>
      have blanks := src.skipWhile_suffix (· = ' ')
      rw [plainBreaks]
      dsimp only
      split
      · exact List.suffix_rfl
      · split
        · exact ((ih _).trans (Source.lineBreak_suffix _)).trans blanks
        · exact blanks

theorem plainSpace_suffix (src : Source) : (plainSpace src).2.2 <:+ src := by
  have blanks := src.span_suffix (· = ' ')
  unfold plainSpace
  dsimp only
  split
  · have first := (Source.lineBreak_suffix _).trans blanks
    have breaks := (plainBreaks_suffix (src.span (· = ' ')).2.lineBreak.2.length _).trans first
    split
    next shape =>
      rw [shape] at breaks
      exact breaks
    next shape =>
      rw [shape] at breaks
      exact breaks
  · exact blanks

theorem plainText_suffix (inFlow : Bool) (indent : Int) (fuel : Nat) (space : List Char)
    (broken : Bool) (src : Source) : (plainText inFlow indent fuel space broken src).2.2 <:+ src := by
  induction fuel generalizing space broken src with
  | zero => exact List.suffix_rfl
  | succ fuel ih =>
      have run := plainRun_suffix inFlow src
      have spaced := (plainSpace_suffix _).trans run
      rw [plainText]
      split
      · exact List.suffix_rfl
      dsimp only
      split
      · exact List.suffix_rfl
      split
      · exact spaced
      · exact (ih _ _ _).trans spaced

/-- A run of a plain scalar holds no gap and begins where it is read. -/
theorem plainRun_gapless (inFlow : Bool) (src : Source) :
    ∀ c ∈ (plainRun inFlow src).1, isGap c = false := by
  induction src with
  | nil => exact nofun
  | cons spot rest ih =>
      rw [plainRun]
      split
      · exact nofun
      next goes =>
        refine List.forall_mem_cons.mpr ⟨?_, ih⟩
        simp only [stopsPlain, Bool.not_eq_true, Bool.or_eq_false_iff] at goes
        exact goes.1.1

theorem plainRun_head (inFlow : Bool) (src : Source) :
    ∀ c ∈ (plainRun inFlow src).1.head?, c = src.peek := by
  unfold plainRun
  split
  · exact nofun
  split
  · exact nofun
  · rintro c ⟨⟩
    rfl

/-- A plain scalar begins where it is read, and no gap ends it. -/
theorem plainText_head (inFlow : Bool) (indent : Int) (fuel : Nat) (broken : Bool) (src : Source) :
    ∀ c ∈ (plainText inFlow indent fuel [] broken src).1.head?, c = src.peek := by
  have begins := plainRun_head inFlow src
  cases fuel with
  | zero => exact nofun
  | succ fuel =>
      rw [plainText]
      split
      · exact nofun
      dsimp only
      cases run : (plainRun inFlow src).1 with
      | nil => exact nofun
      | cons first more =>
          rw [run] at begins
          rw [if_neg (by simp)]
          split
          · exact begins
          · exact begins

theorem plainText_last (inFlow : Bool) (indent : Int) (fuel : Nat) (space : List Char)
    (broken : Bool) (src : Source) :
    ∀ c ∈ (plainText inFlow indent fuel space broken src).1.getLast?, isGap c = false := by
  induction fuel generalizing space broken src with
  | zero => exact nofun
  | succ fuel ih =>
      have run : ∀ c ∈ (space ++ (plainRun inFlow src).1).getLast?,
          (plainRun inFlow src).1 ≠ [] → isGap c = false := by
        intro c last some
        rw [List.getLast?_append, Option.or_of_isSome (List.getLast?_isSome.mpr some)] at last
        exact plainRun_gapless inFlow src c (List.mem_of_getLast? last)
      rw [plainText]
      split
      · exact nofun
      dsimp only
      split
      · exact nofun
      next some =>
        have some : (plainRun inFlow src).1 ≠ [] := mt List.isEmpty_iff.mpr some
        split
        · exact fun c last => run c last some
        · intro c last
          rw [List.getLast?_append] at last
          generalize more : (plainText inFlow indent fuel _ _ _).1.getLast? = found at last
          cases found with
          | none => exact run c last some
          | some d =>
              cases last
              exact ih _ _ _ _ more

end BezelStream.Yaml
