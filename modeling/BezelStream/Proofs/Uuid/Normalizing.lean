import BezelStream.Proofs.Text.Blank
import BezelStream.Proofs.Text.Lowercase
import BezelStream.Proofs.Uuid

/-! # Which texts write an identifier

A setting may have blanks around the identifier and capitals in it. Nothing else is accepted, for
no lower case turns a character beyond ASCII into a digit. What two settings are normalised to
differs exactly if they differ in more than this.
-/

namespace BezelStream

open Text

/-- The written forms of identifiers in either letter case. -/
def Spelling (cs : List Char) : Prop :=
  Grouped '-' [[4], [8], [8, 4, 4, 4, 12]] "0123456789abcdefABCDEF".toList cs

variable {context value uuid : String} {cs core : List Char}

theorem toLower_eq_dash_iff (c : Char) : c.toLower = '-' ↔ c = '-' := by
  refine iff_of_ascii (P := fun c => c.toLower = '-') (Q := fun c => c = '-') (by decide)
    (fun c dash => ascii_toLower_iff.mp ?_) (fun c dash => ?_) c
  all_goals rw [dash]; decide

theorem toLower_mem_iff (c : Char) : c.toLower ∈ "0123456789abcdef".toList ↔
    c ∈ "0123456789abcdefABCDEF".toList := by
  have lowerDigits : ∀ c ∈ "0123456789abcdef".toList, c.toNat < 0x80 := forall_of_all (by decide)
  exact iff_of_ascii (by decide +kernel)
    (fun c digit => ascii_toLower_iff.mp (lowerDigits _ digit)) hexDigits_ascii c

theorem spelling_iff : Spelling cs ↔ Identifier (cs.map Char.toLower) := by
  rw [Spelling, identifier_iff_grouped]
  exact (grouped_map_iff Char.toLower toLower_eq_dash_iff toLower_mem_iff (by decide)
    (by decide)).symm

/-- What is true of the dash and of the digits is true of the characters of an identifier. -/
theorem Identifier.forall_of {P : Char → Prop} (identifier : Identifier cs)
    (dash : P '-') (digits : ∀ c ∈ "0123456789abcdef".toList, P c) : ∀ c ∈ cs, P c :=
  (identifier_iff_grouped.mp identifier).forall_of dash digits

theorem Identifier.plain (identifier : Identifier cs) :
    ∀ c ∈ cs, c.toNat < 0x80 ∧ c ≠ 'i' ∧ c ≠ 'k' :=
  identifier.forall_of (by decide) (forall_of_all (by decide))

theorem Identifier.toLower_eq (identifier : Identifier cs) : cs.map Char.toLower = cs := by
  have kept := identifier.forall_of (P := fun c => c.toLower = id c) (by decide)
    (forall_of_all (by decide))
  rw [List.map_congr_left kept, List.map_id]

theorem Identifier.tight (identifier : Identifier cs) : Tight cs :=
  tight_of_unblank (identifier.forall_of (by decide) (forall_of_all (by decide)))

/-- The lower case of a text is an identifier exactly if the text spells one, and it is then no
    other than the one with small letters for the capitals of ASCII. -/
theorem identifier_lowercase_iff : Identifier (lowercase cs) ↔ Spelling cs := by
  rw [spelling_iff]
  constructor
  · intro identifier
    rwa [(lowercase_eq_iff identifier.plain).mp rfl]
  · intro identifier
    rwa [(lowercase_eq_iff identifier.plain).mpr rfl]

theorem lowercase_of_spelling (spelling : Spelling cs) : lowercase cs = cs.map Char.toLower :=
  (lowercase_eq_iff (spelling_iff.mp spelling).plain).mpr rfl

theorem normalizeUuid_eq_ok_iff (bare : Core value.toList core) :
    normalizeUuid context value = .ok uuid ↔
      Spelling core ∧ uuid = String.ofList (core.map Char.toLower) := by
  have trims := trim_eq_iff.mpr bare
  by_cases spelling : Spelling core
  · rw [normalizeUuid_accepts (trims ▸ identifier_lowercase_iff.mpr spelling), trims,
      lowercase_of_spelling spelling, Except.ok.injEq]
    constructor
    · rintro rfl
      exact ⟨spelling, rfl⟩
    · rintro ⟨-, rfl⟩
      rfl
  · rw [normalizeUuid_refuses (trims ▸ mt identifier_lowercase_iff.mp spelling)]
    exact iff_of_false nofun fun accepted => spelling accepted.1

/-- What a text is normalised to has nothing left to normalise. -/
theorem normalizeUuid_of_identifier (identifier : Identifier uuid.toList) :
    normalizeUuid context uuid = .ok uuid := by
  have bare : Core uuid.toList uuid.toList := core_self identifier.tight
  refine (normalizeUuid_eq_ok_iff bare).mpr ⟨spelling_iff.mpr ?_, ?_⟩
  · rwa [identifier.toLower_eq]
  · rw [identifier.toLower_eq, String.ofList_toList]

/-- A text is accepted exactly if it spells an identifier between blanks, and what it is normalised
    to tells the spellings apart as far as they differ in more than the case of letters. -/
theorem normalizeUuid_exact (bare : Core value.toList core) (context : String) :
    (∀ uuid, normalizeUuid context value = .ok uuid ↔
      Spelling core ∧ uuid = String.ofList (core.map Char.toLower)) ∧
    (¬ Spelling core → ∃ fault, normalizeUuid context value = .error fault ∧
      fault.failure? = some .configInvalid) ∧
    (∀ uuid, normalizeUuid context value = .ok uuid →
      ∀ context, normalizeUuid context uuid = .ok uuid) ∧
    (∀ other rest, Core other.toList rest → ∀ uuid twin, normalizeUuid context value = .ok uuid →
      normalizeUuid context other = .ok twin → (uuid = twin ↔ SameLetters core rest)) := by
  refine ⟨fun uuid => normalizeUuid_eq_ok_iff bare, ?_, ?_, ?_⟩
  · intro other
    rw [← identifier_lowercase_iff, ← trim_eq_iff.mpr bare] at other
    exact ⟨_, normalizeUuid_refuses other, rfl⟩
  · intro uuid normal context
    exact normalizeUuid_of_identifier (identifier_of_normalizeUuid normal)
  · intro other rest also uuid twin normal normal'
    obtain ⟨-, rfl⟩ := (normalizeUuid_eq_ok_iff bare).mp normal
    obtain ⟨-, rfl⟩ := (normalizeUuid_eq_ok_iff also).mp normal'
    rw [sameLetters_iff]
    constructor
    · intro same
      simpa using congrArg String.toList same
    · intro same
      rw [same]

/-- Blanks of several kinds around a short form with capitals. -/
theorem normalizeUuid_exact_capitals :
    Core "\u3000\n 2A3f\u0085".toList "2A3f".toList ∧
      normalizeUuid "characteristic_uuid" "\u3000\n 2A3f\u0085" = .ok "2a3f" := by
  have bare : Core "\u3000\n 2A3f\u0085".toList "2A3f".toList := trim_eq_iff.mp (by decide)
  have spelling : Spelling "2A3f".toList :=
    ⟨["2A3f".toList], by decide, by decide,
      List.forall_mem_singleton.mpr (forall_of_all (by decide))⟩
  refine ⟨bare, ?_⟩
  rw [(normalizeUuid_exact bare "characteristic_uuid").1]
  exact ⟨spelling, by decide⟩

end BezelStream
