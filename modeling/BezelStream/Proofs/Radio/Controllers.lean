import BezelStream.Proofs.Text.Blank
import BezelStream.Proofs.Text.Groups
import BezelStream.Proofs.Text.Lowercase
import BezelStream.Radio.Host
import Mathlib.Data.Option.Basic

/-! # The form of a line that names an adapter

`Form` says what a line is put together of, without searching it. The blanks of a line end where an
address or a name begins, and all addresses are of one length, so the reading finds the parts where
they are.
-/

namespace BezelStream.Radio

open Text

variable {word cs rest front mark line core address name : List Char}

/-! ## Words and blanks -/

theorem afterWord?_eq_some_iff :
    afterWord? word cs = some rest ↔ ∃ front, cs = front ++ rest ∧ SameLetters front word := by
  induction word generalizing cs with
  | nil =>
      constructor
      · rintro ⟨⟩
        exact ⟨[], rfl, .nil⟩
      · rintro ⟨front, rfl, ⟨⟩⟩
        rfl
  | cons w ws ih =>
      cases cs with
      | nil =>
          refine iff_of_false nofun ?_
          rintro ⟨front, empty, ⟨⟩⟩
          cases empty
      | cons c cs =>
          rw [afterWord?]
          constructor
          · intro found
            split at found
            next same =>
              obtain ⟨front, rfl, others⟩ := ih.mp found
              exact ⟨c :: front, rfl, .cons same.symm others⟩
            next => cases found
          · rintro ⟨front, parts, same⟩
            cases same with
            | cons first others =>
                rw [List.cons_append] at parts
                obtain ⟨rfl, rfl⟩ := List.cons.inj parts
                rw [if_pos first.symm]
                exact ih.mpr ⟨_, rfl, others⟩

/-- Blanks, of which there is one at least. -/
structure Gap (cs : List Char) : Prop where
  filled : cs ≠ []
  blank : Blank cs

theorem afterBlanks?_eq_some_iff :
    afterBlanks? cs = some rest ↔ ∃ gap, cs = gap ++ rest ∧ Gap gap ∧ Flush rest := by
  cases cs with
  | nil =>
      refine iff_of_false nofun ?_
      rintro ⟨gap, empty, gapped, -⟩
      exact gapped.filled (List.append_eq_nil_iff.mp empty.symm).1
  | cons c cs =>
      rw [afterBlanks?]
      constructor
      · intro found
        split at found
        next blank =>
          cases found
          obtain ⟨left, parts, blanks, flush⟩ := exists_trimStart cs
          refine ⟨c :: left, ?_, ⟨nofun, List.forall_mem_cons.mpr ⟨blank, blanks⟩⟩, flush⟩
          rw [List.cons_append, ← parts]
        next => cases found
      · rintro ⟨gap, parts, gapped, flush⟩
        cases gap with
        | nil => exact absurd rfl gapped.filled
        | cons d gap =>
            rw [List.cons_append] at parts
            obtain ⟨rfl, rfl⟩ := List.cons.inj parts
            obtain ⟨here, others⟩ := List.forall_mem_cons.mp gapped.blank
            rw [if_pos here, trimStart_append others, trimStart_flush flush]

/-! ## Addresses -/

/-- Six pairs of digits with colons between them. -/
def Octets (digits : String) (cs : List Char) : Prop :=
  Grouped ':' [List.replicate 6 2] digits.toList cs

theorem isHexDigit_ascii {c : Char} (digit : isHexDigit c = true) : c.toNat < 0x80 := by
  by_contra beyond
  have past (last : Char) (ascii : last.toNat < 0x80) : ¬ c.val ≤ last.val := fun most =>
    beyond (Nat.lt_of_le_of_lt (UInt32.le_iff_toNat_le.mp most) ascii)
  have none : alphanumericValue? c = none := by
    unfold alphanumericValue?
    rw [if_neg, if_neg, if_neg]
    · exact fun upper => past 'Z' (by decide) (of_decide_eq_true upper).2
    · exact fun lower => past 'z' (by decide) (of_decide_eq_true (Bool.and_eq_true_iff.mp lower).2)
    · exact fun digit => past '9' (by decide) (of_decide_eq_true (Bool.and_eq_true_iff.mp digit).2)
  rw [isHexDigit, none] at digit
  cases digit

theorem isHexDigit_iff (c : Char) :
    isHexDigit c = true ↔ c ∈ "0123456789abcdefABCDEF".toList :=
  iff_of_ascii (by decide +kernel) (fun _ => isHexDigit_ascii) hexDigits_ascii c

theorem isAddress_iff : isAddress cs = true ↔ Octets "0123456789abcdefABCDEF" cs := by
  rw [Octets, grouped_iff (by decide) (by decide)]
  simp only [isAddress, Bool.and_eq_true, decide_eq_true_eq, List.all_eq_true, isHexDigit_iff,
    List.mem_singleton, List.eq_replicate_iff, List.length_map, List.forall_mem_map]
  rw [and_assoc]
  exact and_congr_right fun _ => forall₂_and

theorem Octets.length_eq {digits : String} (octets : Octets digits cs) : cs.length = 17 := by
  obtain ⟨counts, listed, total⟩ := Grouped.length_add_one octets (by decide)
  cases List.mem_singleton.mp listed
  exact Nat.succ.inj total

theorem Octets.tight {digits : String} (octets : Octets digits cs)
    (unblank : ∀ c ∈ digits.toList, isBlank c = false) : Tight cs :=
  tight_of_unblank (Grouped.forall_of octets rfl unblank)

theorem Octets.ne_nil {digits : String} (octets : Octets digits cs) : cs ≠ [] := by
  rintro rfl
  cases octets.length_eq

theorem toUpper_eq_colon_iff (c : Char) : c.toUpper = ':' ↔ c = ':' := by
  refine iff_of_ascii (P := fun c => c.toUpper = ':') (Q := fun c => c = ':') (by decide)
    (fun c colon => ascii_of_toUpper ?_) (fun c colon => ?_) c
  all_goals rw [colon]; decide

theorem toUpper_mem_iff (c : Char) : c.toUpper ∈ "0123456789ABCDEF".toList ↔
    c ∈ "0123456789abcdefABCDEF".toList := by
  have capitals : ∀ c ∈ "0123456789ABCDEF".toList, c.toNat < 0x80 := forall_of_all (by decide)
  exact iff_of_ascii (by decide +kernel) (fun c digit => ascii_of_toUpper (capitals _ digit))
    hexDigits_ascii c

theorem Octets.upper (octets : Octets "0123456789abcdefABCDEF" cs) :
    Octets "0123456789ABCDEF" (cs.map Char.toUpper) :=
  (grouped_map_iff Char.toUpper toUpper_eq_colon_iff toUpper_mem_iff (by decide) (by decide)).mpr
    octets

/-! ## Marks -/

/-- The text ends with the mark of the default adapter, in any letter case. -/
def Marked (cs : List Char) : Prop :=
  ∃ front mark, cs = front ++ mark ∧ SameLetters mark defaultMark

theorem afterMark?_eq_some_iff :
    afterWord? defaultMark.reverse cs.reverse = some rest ↔
      ∃ mark, cs = rest.reverse ++ mark ∧ SameLetters mark defaultMark := by
  rw [afterWord?_eq_some_iff]
  constructor
  · rintro ⟨back, parts, same⟩
    refine ⟨back.reverse, ?_, by simpa using same.reverse⟩
    rw [← List.reverse_append, ← parts, List.reverse_reverse]
  · rintro ⟨mark, rfl, same⟩
    refine ⟨mark.reverse, ?_, same.reverse⟩
    rw [List.reverse_append, List.reverse_reverse]

theorem marked_iff : Marked cs ↔ afterWord? defaultMark.reverse cs.reverse ≠ none := by
  rw [Option.ne_none_iff_exists']
  simp only [afterMark?_eq_some_iff]
  constructor
  · rintro ⟨front, mark, rfl, same⟩
    exact ⟨front.reverse, mark, by rw [List.reverse_reverse], same⟩
  · rintro ⟨rest, mark, parts, same⟩
    exact ⟨rest.reverse, mark, parts, same⟩

instance : DecidablePred Marked := fun _ =>
  decidable_of_iff _ marked_iff.symm

theorem withoutMark_append (same : SameLetters mark defaultMark) :
    withoutMark (front ++ mark) = trimEnd front := by
  have found : afterWord? defaultMark.reverse (front ++ mark).reverse = some front.reverse :=
    afterMark?_eq_some_iff.mpr ⟨mark, by rw [List.reverse_reverse], same⟩
  simp only [withoutMark, found, List.reverse_reverse]

theorem withoutMark_unmarked (unmarked : ¬ Marked cs) : withoutMark cs = cs := by
  rw [marked_iff, not_not] at unmarked
  simp only [withoutMark, unmarked]

/-- The name in what follows an address: all of it but the blanks at its ends, or what stands in
    front of the mark. -/
inductive NameIn : (rest name : List Char) → Prop where
  | plain {rest name : List Char} (unmarked : ¬ Marked rest) (bare : Core rest name) :
      NameIn rest name
  | marked {front mark name : List Char} (same : SameLetters mark defaultMark)
      (bare : Core front name) : NameIn (front ++ mark) name

theorem trim_withoutMark_iff : trim (withoutMark rest) = name ↔ NameIn rest name := by
  constructor
  · rintro rfl
    by_cases marked : Marked rest
    · obtain ⟨front, mark, rfl, same⟩ := marked
      rw [withoutMark_append same, trim_trimEnd]
      exact .marked same (core_trim front)
    · rw [withoutMark_unmarked marked]
      exact .plain marked (core_trim rest)
  · intro named
    cases named with
    | plain unmarked bare => rw [withoutMark_unmarked unmarked, trim_eq_iff.mpr bare]
    | marked same bare => rw [withoutMark_append same, trim_trimEnd, trim_eq_iff.mpr bare]

theorem NameIn.tight (named : NameIn rest name) : Tight name := by
  cases named with
  | plain _ bare => exact bare.tight
  | marked _ bare => exact bare.tight

/-! ## Lines -/

/-- What a line without the blanks at its ends is put together of: the word in any letter case, an
    address and what follows it, with blanks between them. -/
structure Form (core address rest : List Char) : Prop where
  parts : ∃ word gap margin, core = word ++ (gap ++ (address ++ (margin ++ rest))) ∧
    SameLetters word "Controller".toList ∧ Gap gap ∧ Gap margin
  octets : Octets "0123456789abcdefABCDEF" address
  flush : Flush rest

/-- A line names an adapter, the blanks at its ends aside. -/
def HasForm (line : List Char) : Prop :=
  ∃ core address rest, Core line core ∧ Form core address rest

/-- A line gives this address and this name for an adapter. -/
def Names (line address name : List Char) : Prop :=
  ∃ core rest, Core line core ∧ Form core address rest ∧ NameIn rest name

theorem controller?_eq_some_iff :
    controller? line = some (address, name) ↔ Names line address name := by
  simp only [controller?, Option.bind_eq_bind, Option.bind_eq_some_iff, afterWord?_eq_some_iff,
    afterBlanks?_eq_some_iff, isAddress_iff, Option.guard_eq_some', Option.pure_def,
    Option.some.injEq, Prod.mk.injEq, trim_withoutMark_iff]
  constructor
  · rintro ⟨_, ⟨word, parts, same⟩, text, ⟨gap, rfl, gapped, -⟩, -, octets, rest,
      ⟨margin, tail, margined, flush⟩, rfl, named⟩
    refine ⟨trim line, rest, core_trim line, ?_, named⟩
    refine ⟨⟨word, gap, margin, ?_, same, gapped, margined⟩, octets, flush⟩
    rw [parts, ← tail, List.take_append_drop]
  · rintro ⟨core, rest, bare, ⟨⟨word, gap, margin, rfl, same, gapped, margined⟩, octets, flush⟩,
      named⟩
    -- The address is what stops the blanks in front of it, and it is as long as what is taken.
    have unblank : ∀ c ∈ "0123456789abcdefABCDEF".toList, isBlank c = false :=
      forall_of_all (by decide)
    refine ⟨_, ⟨word, trim_eq_iff.mpr bare, same⟩, address ++ (margin ++ rest),
      ⟨gap, rfl, gapped, flush_append (octets.tight unblank).first octets.ne_nil⟩, (), ?_⟩
    have long : address.length = 17 := octets.length_eq
    rw [← long, List.take_left, List.drop_left]
    exact ⟨octets, rest, ⟨margin, rfl, margined, flush⟩, rfl, named⟩

theorem controller?_eq_none_iff : controller? line = none ↔ ¬ HasForm line := by
  rw [Option.eq_none_iff_forall_ne_some]
  constructor
  · rintro none ⟨core, address, rest, bare, form⟩
    have named : NameIn rest (trim (withoutMark rest)) := trim_withoutMark_iff.mp rfl
    exact none _ (controller?_eq_some_iff.mpr ⟨core, rest, bare, form, named⟩)
  · rintro formless ⟨address, name⟩ found
    obtain ⟨core, rest, bare, form, -⟩ := controller?_eq_some_iff.mp found
    exact formless ⟨core, address, rest, bare, form⟩

instance : DecidablePred HasForm := fun line =>
  decidable_of_iff (controller? line ≠ none) (by rw [ne_eq, controller?_eq_none_iff, not_not])

end BezelStream.Radio
