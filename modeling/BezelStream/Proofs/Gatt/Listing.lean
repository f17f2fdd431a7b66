import BezelStream.Gatt
import Mathlib.Data.List.Forall2
import Mathlib.Data.Prod.Lex

/-! # The lines of a table

A table is shown by one line for each of its services and each of their characteristics. The
entries that the lines are about are known by where they stand, so nothing is shown twice unless
the table lists it twice.
-/

namespace BezelStream

/-- What stands in a table, by its place. -/
inductive TableEntry where
  | service (i : Nat)
  | characteristic (i j : Nat)
  deriving Repr, DecidableEq

namespace TableEntry

/-- The place of an entry: that of its service, and then the service itself first. -/
def place : TableEntry → Nat × Nat
  | .service i => (i, 0)
  | .characteristic i j => (i, j + 1)

/-- The order of a table, in which each service is followed by its characteristics. -/
def Before (entry other : TableEntry) : Prop :=
  Prod.Lex (· < ·) (· < ·) entry.place other.place

/-- What stands there is shown by this line. -/
inductive Shows (table : List Service) : TableEntry → String → Prop where
  | service {i : Nat} {s : Service} (stands : table[i]? = some s) :
      Shows table (.service i) ("Service " ++ s.uuid)
  | characteristic {i j : Nat} {s : Service} {c : Characteristic} (stands : table[i]? = some s)
      (listed : s.characteristics[j]? = some c) : Shows table (.characteristic i j) c.line

/-- The entry in a table with one more service ahead. -/
def under : TableEntry → TableEntry
  | .service i => .service (i + 1)
  | .characteristic i j => .characteristic (i + 1) j

variable {table : List Service} {s : Service} {entry other : TableEntry} {line : String}

theorem before_iff : entry.Before other ↔ entry.place.1 < other.place.1 ∨
    entry.place.1 = other.place.1 ∧ entry.place.2 < other.place.2 :=
  Prod.lex_def

theorem place_under (entry : TableEntry) :
    entry.under.place = (entry.place.1 + 1, entry.place.2) := by
  cases entry <;> rfl

theorem before_under (first : entry.place.1 = 0) (other : TableEntry) :
    entry.Before other.under := by
  rw [before_iff, place_under, first]
  exact .inl other.place.1.succ_pos

theorem Before.under (before : entry.Before other) : entry.under.Before other.under := by
  rw [before_iff] at before ⊢
  simpa [place_under] using before

theorem Shows.under (shows : entry.Shows table line) : entry.under.Shows (s :: table) line := by
  cases shows with
  | service stands => exact .service stands
  | characteristic stands listed => exact .characteristic stands listed

end TableEntry

/-- The entries of a table, in its order. -/
def entries : List Service → List TableEntry
  | [] => []
  | s :: rest =>
    .service 0 :: ((List.range s.characteristics.length).map (.characteristic 0) ++
      (entries rest).map TableEntry.under)

/-- The lines show all entries of a table in its order, and each once. -/
structure Lists (table : List Service) (lines : List String) : Prop where
  ordered : (entries table).Pairwise TableEntry.Before
  complete : ∀ entry, entry ∈ entries table ↔ ∃ line, entry.Shows table line
  shows : List.Forall₂ (TableEntry.Shows table) (entries table) lines

theorem entries_ordered (table : List Service) : (entries table).Pairwise TableEntry.Before := by
  induction table with
  | nil => exact .nil
  | cons s rest ih =>
      refine List.pairwise_cons.mpr ⟨fun entry member => ?_, List.pairwise_append.mpr ⟨?_, ?_, ?_⟩⟩
      · rcases List.mem_append.mp member with own | later
        · obtain ⟨j, -, rfl⟩ := List.mem_map.mp own
          exact TableEntry.before_iff.mpr (.inr ⟨rfl, j.succ_pos⟩)
        · obtain ⟨inner, -, rfl⟩ := List.mem_map.mp later
          exact TableEntry.before_under rfl inner
      · refine List.pairwise_lt_range.map _ fun j l earlier => ?_
        exact TableEntry.before_iff.mpr (.inr ⟨rfl, Nat.succ_lt_succ earlier⟩)
      · exact ih.map _ fun _ _ => .under
      · intro own ownMember later laterMember
        obtain ⟨j, -, rfl⟩ := List.mem_map.mp ownMember
        obtain ⟨inner, -, rfl⟩ := List.mem_map.mp laterMember
        exact TableEntry.before_under rfl inner

theorem describe_shows (table : List Service) :
    List.Forall₂ (TableEntry.Shows table) (entries table) (describe table) := by
  induction table with
  | nil => exact .nil
  | cons s rest ih =>
      have own : List.Forall₂ (TableEntry.Shows (s :: rest))
          ((List.range s.characteristics.length).map (.characteristic 0))
          (s.characteristics.map Characteristic.line) := by
        refine List.forall₂_iff_get.mpr ⟨by simp, fun j _ inside => ?_⟩
        have listed : j < s.characteristics.length := by simpa using inside
        have shows : TableEntry.Shows (s :: rest) (.characteristic 0 j) s.characteristics[j].line :=
          .characteristic rfl (List.getElem?_eq_getElem listed)
        simpa using shows
      have later : List.Forall₂ (TableEntry.Shows (s :: rest)) ((entries rest).map TableEntry.under)
          (describe rest) :=
        List.forall₂_map_left_iff.mpr (ih.imp fun _ _ => .under)
      exact .cons (.service rfl) (List.rel_append own later)

theorem mem_entries_iff {table : List Service} {entry : TableEntry} :
    entry ∈ entries table ↔ ∃ line, entry.Shows table line := by
  constructor
  · intro member
    obtain ⟨k, rfl⟩ := List.mem_iff_get.mp member
    have shows := describe_shows table
    exact ⟨_, shows.get k.2 (shows.length_eq ▸ k.2)⟩
  · rintro ⟨line, shows⟩
    induction table generalizing entry with
    | nil => cases shows <;> contradiction
    | cons s rest ih =>
        have below {inner : TableEntry} (shows : inner.Shows rest line) :
            inner.under ∈ entries (s :: rest) :=
          List.mem_cons_of_mem _ (List.mem_append_right _ (List.mem_map_of_mem (ih shows)))
        cases shows with
        | @service i _ stands =>
            cases i with
            | zero => exact List.mem_cons_self
            | succ i => exact below (.service stands)
        | @characteristic i j _ _ stands listed =>
            cases i with
            | zero =>
                cases stands
                obtain ⟨inside, -⟩ := List.getElem?_eq_some_iff.mp listed
                have own := List.mem_map_of_mem (f := TableEntry.characteristic 0)
                  (List.mem_range.mpr inside)
                exact List.mem_cons_of_mem _ (List.mem_append_left _ own)
            | succ i => exact below (.characteristic stands listed)

/-- A table is shown line by line as it stands. -/
theorem describe_lists (table : List Service) : Lists table (describe table) :=
  ⟨entries_ordered table, fun _ => mem_entries_iff, describe_shows table⟩

end BezelStream
