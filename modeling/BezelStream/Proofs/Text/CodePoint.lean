import BezelStream.Text.CodePoint
import Mathlib.Data.List.Basic

/-! # Texts as code points

Characters and strings are found again in the code points that they give, and no other text gives
them. Numbers below `0x110000` and code points are the same thing.
-/

namespace BezelStream

namespace CodePoint

theorem char_injective : Function.Injective CodePoint.char :=
  fun _ _ same => CodePoint.char.inj same

theorem toNat_ofNat {n : Nat} (below : n < 0x110000) : (ofNat n).toNat = n := by
  unfold ofNat
  split
  next valid =>
    rw [toNat, Char.ofNat, dif_pos valid]
    rfl
  next invalid =>
    -- What is no character below the end lies between the two ranges of characters.
    have between : 0xD800 ≤ n ∧ n < 0xE000 := by
      simp only [Nat.isValidChar, not_or, not_and, Nat.not_lt] at invalid
      omega
    simp only [toNat, Fin.val_ofNat]
    omega

/-- Different numbers are different code points. -/
theorem ofNat_inj {m n : Nat} (belowM : m < 0x110000) (belowN : n < 0x110000) :
    ofNat m = ofNat n ↔ m = n :=
  ⟨fun same => by rw [← toNat_ofNat belowM, same, toNat_ofNat belowN], congrArg ofNat⟩

end CodePoint

namespace CodePoints

variable {cs : List Char} {s : String} {t : CodePoints}

theorem ofChars_inj {ds : List Char} : ofChars cs = ofChars ds ↔ cs = ds :=
  (List.map_injective_iff.mpr CodePoint.char_injective).eq_iff

@[simp]
theorem ofString_inj {r : String} : ofString r = ofString s ↔ r = s := by
  rw [ofString, ofString, ofChars_inj, String.toList_inj]

theorem ofString_ofList (cs : List Char) : ofString (String.ofList cs) = ofChars cs := by
  rw [ofString, String.toList_ofList]

@[simp]
theorem chars?_ofChars : (ofChars cs).chars? = some cs := by
  induction cs with
  | nil => rfl
  | cons c rest ih =>
      change ((ofChars rest).chars?).map (c :: ·) = _
      rw [ih]
      rfl

theorem chars?_eq_some_iff : t.chars? = some cs ↔ t = ofChars cs := by
  refine ⟨fun found => ?_, fun is => is ▸ chars?_ofChars⟩
  induction t generalizing cs with
  | nil =>
      cases found
      rfl
  | cons p rest ih =>
      cases p with
      | half i => cases found
      | char c =>
          obtain ⟨ds, inRest, rfl⟩ := Option.map_eq_some_iff.mp found
          rw [ih inRest]
          rfl

@[simp]
theorem chars?_ofString : (ofString s).chars? = some s.toList :=
  chars?_ofChars

@[simp]
theorem string?_ofString : (ofString s).string? = some s := by
  rw [string?, chars?_ofString, Option.map_some, String.ofList_toList]

theorem string?_eq_some_iff : t.string? = some s ↔ t = ofString s := by
  rw [string?, Option.map_eq_some_iff]
  constructor
  · rintro ⟨cs, found, rfl⟩
    rw [chars?_eq_some_iff.mp found, ofString, String.toList_ofList]
  · rintro rfl
    exact ⟨_, chars?_ofString, String.ofList_toList⟩

/-- A string is shown as it is. -/
@[simp]
theorem printed_ofString : (ofString s).printed = s := by
  have shown (cs : List Char) : (ofChars cs).flatMap CodePoint.written = cs := by
    rw [ofChars, List.flatMap_map]
    exact List.flatMap_singleton' cs
  rw [printed, ofString, shown, String.ofList_toList]

end CodePoints

end BezelStream
