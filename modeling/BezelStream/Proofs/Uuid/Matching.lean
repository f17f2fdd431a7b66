import BezelStream.Proofs.Gatt
import BezelStream.Proofs.Text.Digits
import BezelStream.Proofs.Uuid.Normalizing

/-! # Which characteristic an identifier denotes

An identifier is a number of 128 bits, and a short form stands for one that is made of it and of a
fixed remainder. A table lists identifiers in full, and a search compares texts. So an identifier
that was written in full finds every characteristic that it denotes, whatever the case of letters,
and one in a short form finds none.
-/

namespace BezelStream

open Text

/-- An identifier written in full, in either letter case. -/
def FullSpelling (cs : List Char) : Prop :=
  Grouped '-' [[8, 4, 4, 4, 12]] "0123456789abcdefABCDEF".toList cs

/-- The number of an identifier that is written in full. -/
def uuidNumber (cs : List Char) : Nat :=
  hexNumber (cs.filter (· ≠ '-'))

/-- The groups after the first one of an identifier that has a short form. -/
def shortRest : List (List Char) :=
  ["0000".toList, "1000".toList, "8000".toList, "00805f9b34fb".toList]

/-- An identifier written in full for its short form, if it is one. -/
def inFull (cs : List Char) : List Char :=
  match cs.length with
  | 4 => ['-'].intercalate (("0000".toList ++ cs) :: shortRest)
  | 8 => ['-'].intercalate (cs :: shortRest)
  | _ => cs

/-- Some characteristic of the services has the number as its identifier. -/
def ListsNumber (table : List Service) (number : Nat) : Prop :=
  ∃ s ∈ table, ∃ c ∈ s.characteristics, uuidNumber c.uuid.toList = number

variable {cs ds core : List Char} {context value uuid wanted : String} {table : List Service}

instance (cs : List Char) : Decidable (FullSpelling cs) :=
  decidable_of_iff ((splitAt '-' cs).map List.length = [8, 4, 4, 4, 12] ∧
    (splitAt '-' cs).all (fun group => group.all "0123456789abcdefABCDEF".toList.contains) = true)
    (by simp [FullSpelling, grouped_iff])

instance (table : List Service) (number : Nat) : Decidable (ListsNumber table number) :=
  inferInstanceAs (Decidable (∃ s ∈ table, ∃ c ∈ s.characteristics, _))

namespace FullSpelling

theorem spelling (full : FullSpelling cs) : Spelling cs := by
  obtain ⟨groups, shape, lengths, digits⟩ := full
  refine ⟨groups, shape, ?_, digits⟩
  rw [List.mem_singleton.mp lengths]
  decide

theorem length_eq (full : FullSpelling cs) : cs.length = 36 := by
  obtain ⟨counts, listed, length⟩ := Grouped.length_add_one full (by decide)
  rw [List.mem_singleton.mp listed] at length
  have sum : groupedLength [8, 4, 4, 4, 12] = 37 := rfl
  omega

theorem pieces (full : FullSpelling cs) :
    (splitAt '-' cs).map List.length = [8, 4, 4, 4, 12] := by
  have cut := (grouped_iff (by decide) (by decide)).mp full
  exact List.mem_singleton.mp cut.1

theorem digits (full : FullSpelling cs) : ∀ c ∈ cs.filter (· ≠ '-'), HexDigit c := by
  intro c member
  obtain ⟨listed, unmarked⟩ := List.mem_filter.mp member
  rcases Grouped.mem full listed with dash | digit
  · simp [dash] at unmarked
  · exact digit

theorem length_digits (full : FullSpelling cs) : (cs.filter (· ≠ '-')).length = 32 := by
  rw [← flatten_splitAt, List.length_flatten, full.pieces]
  rfl

end FullSpelling

theorem SameLetters.filter (same : SameLetters cs ds) :
    SameLetters (cs.filter (· ≠ '-')) (ds.filter (· ≠ '-')) := by
  refine List.rel_filter (fun c d lower => ?_) same
  have dash : c = '-' ↔ d = '-' := by
    rw [← toLower_eq_dash_iff c, ← toLower_eq_dash_iff d, lower]
  simp [dash]

theorem filter_map_toLower (cs : List Char) :
    (cs.map Char.toLower).filter (· ≠ '-') = (cs.filter (· ≠ '-')).map Char.toLower := by
  simp [List.filter_map, Function.comp_def, toLower_eq_dash_iff]

/-- Identifiers in full have the same number only if they are the same but for letter case. -/
theorem uuidNumber_eq_iff (left : FullSpelling cs) (right : FullSpelling ds) :
    uuidNumber cs = uuidNumber ds ↔ SameLetters cs ds := by
  have lengths := left.length_digits.trans right.length_digits.symm
  rw [uuidNumber, uuidNumber, hexNumber_eq_iff left.digits right.digits lengths]
  constructor
  · intro same
    rw [sameLetters_iff] at same ⊢
    apply @eq_of_pieces '-'
    · rw [filter_map_toLower, filter_map_toLower, same]
    · rw [splitAt_map _ toLower_eq_dash_iff, splitAt_map _ toLower_eq_dash_iff]
      have pieces := left.pieces.trans right.pieces.symm
      simpa [Function.comp_def] using pieces
  · exact SameLetters.filter

/-- What spells an identifier is a short form or one in full. -/
theorem Spelling.cases (spelling : Spelling cs) :
    (∃ count ∈ [4, 8], cs.length = count ∧ ∀ c ∈ cs, HexDigit c) ∨ FullSpelling cs := by
  obtain ⟨groups, shape, lengths, digits⟩ := spelling
  have lone (count : Nat) (one : groups.map List.length = [count]) :
      cs.length = count ∧ ∀ c ∈ cs, HexDigit c := by
    obtain ⟨group, rfl, length⟩ := List.map_eq_singleton_iff.mp one
    simp only [List.intercalate_singleton] at shape
    subst shape
    exact ⟨length, digits cs (List.mem_singleton_self cs)⟩
  simp only [List.mem_cons, List.not_mem_nil, or_false] at lengths
  rcases lengths with four | eight | five
  · exact .inl ⟨4, by decide, lone 4 four⟩
  · exact .inl ⟨8, by decide, lone 8 eight⟩
  · exact .inr ⟨groups, shape, by simp [five], digits⟩

theorem FullSpelling.inFull_eq (full : FullSpelling cs) : inFull cs = cs := by
  simp [inFull, full.length_eq]

theorem fullSpelling_short (length : cs.length = 8) (digits : ∀ c ∈ cs, HexDigit c) :
    FullSpelling (['-'].intercalate (cs :: shortRest)) := by
  have rest : ∀ group ∈ shortRest, ∀ c ∈ group, HexDigit c := by
    intro group listed
    have checked : ∀ group ∈ shortRest, group.all (fun c => decide (HexDigit c)) = true := by decide
    exact forall_of_all (checked group listed)
  have lengths : shortRest.map List.length = [4, 4, 4, 12] := by decide
  refine ⟨cs :: shortRest, rfl, ?_, List.forall_mem_cons.mpr ⟨digits, rest⟩⟩
  simp [length, lengths]

theorem Spelling.inFull (spelling : Spelling cs) : FullSpelling (inFull cs) := by
  rcases spelling.cases with ⟨count, short, length, digits⟩ | full
  · simp only [List.mem_cons, List.not_mem_nil, or_false] at short
    rcases short with rfl | rfl
    · have zeros : ∀ c ∈ "0000".toList, HexDigit c := forall_of_all (by decide)
      have group : ∀ c ∈ "0000".toList ++ cs, HexDigit c :=
        List.forall_mem_append.mpr ⟨zeros, digits⟩
      simpa [BezelStream.inFull, length] using fullSpelling_short (by simp [length]) group
    · simpa [BezelStream.inFull, length] using fullSpelling_short length digits
  · rwa [full.inFull_eq]

example : String.ofList (inFull "2a37".toList) = "00002a37-0000-1000-8000-00805f9b34fb" := by
  decide +kernel

/-- A search compares identifiers up to the case of letters. -/
theorem sameUuid_iff {a b : String} (left : Spelling a.toList) (right : Spelling b.toList) :
    sameUuid a b = true ↔ SameLetters a.toList b.toList := by
  rw [sameUuid, beq_iff_eq, lowercased, lowercased, lowercase_of_spelling left,
    lowercase_of_spelling right, sameLetters_iff]
  constructor
  · intro same
    simpa using congrArg String.toList same
  · intro same
    rw [same]

theorem wanted_iff_sameLetters {s : Service} {c : Characteristic} (listed : Spelling c.uuid.toList)
    (spelling : Spelling core) :
    Wanted (String.ofList (core.map Char.toLower)) s c ↔ SameLetters c.uuid.toList core := by
  have small := (spelling_iff.mp spelling).toLower_eq
  have own : Spelling (String.ofList (core.map Char.toLower)).toList := by
    rw [String.toList_ofList, spelling_iff, small]
    exact spelling_iff.mp spelling
  rw [Wanted, sameUuid_iff listed own, sameLetters_iff, sameLetters_iff, String.toList_ofList, small]

/-- A characteristic that a table lists in full is one to be found if it is the one denoted, and
    was denoted in full. -/
theorem wanted_iff_denoted {s : Service} {c : Characteristic} (listed : FullSpelling c.uuid.toList)
    (spelling : Spelling core) :
    Wanted (String.ofList (core.map Char.toLower)) s c ↔
      FullSpelling core ∧ uuidNumber c.uuid.toList = uuidNumber (inFull core) := by
  rw [wanted_iff_sameLetters listed.spelling spelling, uuidNumber_eq_iff listed spelling.inFull]
  rcases spelling.cases with ⟨count, short, length, -⟩ | full
  · -- Texts of different lengths are never the same.
    have longer : count < 36 := by
      simp only [List.mem_cons, List.not_mem_nil, or_false] at short
      omega
    refine iff_of_false (fun same => ?_) fun denoted => ?_
    · have lengths := List.Forall₂.length_eq same
      rw [listed.length_eq] at lengths
      omega
    · have lengths := denoted.1.length_eq
      omega
  · rw [full.inFull_eq, and_iff_right full]

/-- A search finds only what the identifier denotes. It finds something whenever the table lists
    that, unless the identifier was written in a short form: then it finds nothing. -/
theorem findCharacteristic_denoted (bare : Core value.toList core)
    (normal : normalizeUuid context value = .ok uuid)
    (listed : ∀ s ∈ table, ∀ c ∈ s.characteristics, FullSpelling c.uuid.toList) :
    let number := uuidNumber (inFull core)
    FullSpelling (inFull core) ∧
      (∀ s c, findCharacteristic? uuid table = some (s, c) → uuidNumber c.uuid.toList = number) ∧
      ((findCharacteristic? uuid table).isSome ↔
        FullSpelling core ∧ ListsNumber table number) ∧
      (((findCharacteristic? uuid table).isSome ↔ ListsNumber table number) ↔
        FullSpelling core ∨ ¬ ListsNumber table number) := by
  obtain ⟨spelling, rfl⟩ := (normalizeUuid_eq_ok_iff bare).mp normal
  intro number
  have denoted (s : Service) (member : s ∈ table) (c : Characteristic)
      (among : c ∈ s.characteristics) :
      Wanted (String.ofList (core.map Char.toLower)) s c ↔
        FullSpelling core ∧ uuidNumber c.uuid.toList = number :=
    wanted_iff_denoted (listed s member c among) spelling
  have finds : (findCharacteristic? (String.ofList (core.map Char.toLower)) table).isSome ↔
      FullSpelling core ∧ ListsNumber table number := by
    rw [← not_iff_not, Bool.not_eq_true, Option.isSome_eq_false_iff, Option.isNone_iff_eq_none,
      findCharacteristic_eq_none_iff]
    constructor
    · rintro absent ⟨full, s, member, c, among, same⟩
      exact absent s member c among ((denoted s member c among).mpr ⟨full, same⟩)
    · intro absent s member c among wanted
      obtain ⟨full, same⟩ := (denoted s member c among).mp wanted
      exact absent ⟨full, s, member, c, among, same⟩
  refine ⟨spelling.inFull, fun s c found => ?_, finds, ?_⟩
  · obtain ⟨spot, first, rfl, rfl⟩ := findCharacteristic_eq_some_iff.mp found
    have wanted := first.fits
    rw [denoted _ spot.mem_service _ spot.mem_characteristic] at wanted
    exact wanted.2
  · rw [finds]
    by_cases lists : ListsNumber table number <;> simp [lists]

/-- The heart rate service, with its measurement in full and in capitals. -/
def heartRate : Service where
  uuid := "0000180d-0000-1000-8000-00805f9b34fb"
  characteristics := [⟨"00002A37-0000-1000-8000-00805F9B34FB", true, false⟩]

theorem heartRate_listed :
    ∀ s ∈ [heartRate], ∀ c ∈ s.characteristics, FullSpelling c.uuid.toList := by
  decide +kernel

/-- Blanks and the case of letters do not stand in the way of an identifier in full. -/
theorem findCharacteristic_denoted_full :
    let value := " 00002a37-0000-1000-8000-00805F9B34FB\n"
    let uuid := "00002a37-0000-1000-8000-00805f9b34fb"
    Core value.toList "00002a37-0000-1000-8000-00805F9B34FB".toList ∧
      normalizeUuid "characteristic_uuid" value = .ok uuid ∧
      (∀ s ∈ [heartRate], ∀ c ∈ s.characteristics, FullSpelling c.uuid.toList) ∧
      (findCharacteristic? uuid [heartRate]).isSome := by
  intro value uuid
  have bare : Core value.toList "00002a37-0000-1000-8000-00805F9B34FB".toList :=
    trim_eq_iff.mp (by decide +kernel)
  have normal : normalizeUuid "characteristic_uuid" value = .ok uuid := by
    rw [normalizeUuid_eq_ok_iff bare]
    exact ⟨FullSpelling.spelling (by decide +kernel), by decide +kernel⟩
  obtain ⟨-, -, finds, -⟩ := findCharacteristic_denoted bare normal heartRate_listed
  exact ⟨bare, normal, heartRate_listed, finds.mpr (by decide +kernel)⟩

/-- The short form of the same identifier finds nothing. -/
theorem findCharacteristic_misses_short :
    (∀ s ∈ [heartRate], ∀ c ∈ s.characteristics, FullSpelling c.uuid.toList) ∧
      normalizeUuid "characteristic_uuid" "2a37" = .ok "2a37" ∧
      ListsNumber [heartRate] (uuidNumber (inFull "2a37".toList)) ∧
      findCharacteristic? "2a37" [heartRate] = none := by
  have bare : Core "2a37".toList "2a37".toList := trim_eq_iff.mp (by decide)
  have spelling : Spelling "2a37".toList :=
    ⟨["2a37".toList], by decide, by decide,
      List.forall_mem_singleton.mpr (forall_of_all (by decide))⟩
  refine ⟨heartRate_listed, ?_, by decide +kernel, by decide +kernel⟩
  rw [normalizeUuid_eq_ok_iff bare]
  exact ⟨spelling, by decide⟩

end BezelStream
