import BezelStream.Proofs.Config.Loading

/-! # The user's file is ignored

Where a file is asked for, the user's is looked for but not read. Trees that differ only in what
the user's files say lead all paths to the same places, and hold the same text wherever the file
that is asked for may be, so a run over either goes the same way to its end.
-/

namespace BezelStream

namespace Files

/-- The paths that the user's configuration is looked for at. -/
def userPaths (files : Files) : List Path :=
  ["config.yaml", "config.yml"].map files.userDirectory.child

/-- At the place is a file that the user's configuration is looked for in. -/
def IsUsers (files : Files) (place : List String) : Prop :=
  ∃ path ∈ files.userPaths, files.fileAt? path = some place

/-- The trees differ at most in what the user's files say. -/
structure AlikeBeside (f g : Files) : Prop where
  working : f.working = g.working
  home : f.home = g.home
  configHome : f.configHome = g.configHome
  entries : ∀ place, f.entryAt? place = g.entryAt? place ∨ f.IsUsers place ∧
    ∃ bytes bytes', f.entryAt? place = some (.file bytes) ∧ g.entryAt? place = some (.file bytes')

namespace AlikeBeside

variable {f g : Files} {path : Path}

theorem walk_eq (alike : AlikeBeside f g) (place names : List String) :
    f.walk place names = g.walk place names := by
  induction names generalizing place with
  | nil => rfl
  | cons name rest ih =>
      rw [walk, walk]
      rcases alike.entries place with same | ⟨-, bytes, bytes', left, right⟩
      · rw [same]
        cases g.entryAt? place with
        | none => rfl
        | some entry =>
            cases entry with
            | file => rfl
            | directory => exact ih _
      · rw [left, right]

theorem userPaths_eq (alike : AlikeBeside f g) : f.userPaths = g.userPaths := by
  rw [userPaths, userDirectory, homePath, alike.home, alike.configHome]
  rfl

/-- A path leads to the same entry of both trees, or to a file of the user's in each. -/
theorem find_cases (alike : AlikeBeside f g) (path : Path) : f.find path = g.find path ∨
    ∃ place bytes bytes', f.IsUsers place ∧ f.find path = .ok (place, .file bytes) ∧
      g.find path = .ok (place, .file bytes') := by
  unfold find
  rw [alike.working, alike.walk_eq]
  cases g.walk (if path.root = "" then g.working else []) path.parts with
  | error e => exact .inl rfl
  | ok place =>
      dsimp only [bind, Except.bind]
      rcases alike.entries place with same | ⟨users, bytes, bytes', left, right⟩
      · rw [same]
        exact .inl rfl
      · rw [left, right]
        exact .inr ⟨place, bytes, bytes', users, rfl, rfl⟩

theorem fileAt_eq (alike : AlikeBeside f g) (path : Path) : f.fileAt? path = g.fileAt? path := by
  unfold fileAt?
  rcases alike.find_cases path with same | ⟨place, bytes, bytes', -, left, right⟩
  · rw [same]
  · rw [left, right]

theorem userFile_eq (alike : AlikeBeside f g) : f.userFile? = g.userFile? := by
  change f.userPaths.find? _ = g.userPaths.find? _
  rw [alike.userPaths_eq]
  simp only [alike.fileAt_eq]

/-- A path that leads to no file of the user's leads to the same entry. -/
theorem find_eq (alike : AlikeBeside f g)
    (others : ∀ place, f.fileAt? path = some place → ¬ f.IsUsers place) :
    f.find path = g.find path := by
  rcases alike.find_cases path with same | ⟨place, bytes, bytes', users, left, -⟩
  · exact same
  · refine absurd users (others place ?_)
    rw [fileAt?, left]

end AlikeBeside

end Files

namespace Config

variable {σ ρ : Type} {stack : Stack} {f g : Files} {path : Path}

/-- The user's file is not the one that is asked for, so it is passed over. -/
theorem passedOver_eq {user : Path} {place : List String} (found : f.userFile? = some user)
    (stands : f.fileAt? path = some place) (others : ¬ f.IsUsers place) :
    passedOver? f path = some user := by
  have among : user ∈ f.userPaths := List.mem_of_find?_eq_some found
  rw [passedOver?, found, Option.filter_some, if_pos]
  refine decide_eq_true fun same => others ⟨user, among, same.trans stands⟩

/-- A run over the file that is asked for does not depend on what the user's files say. It tells
    of the user's file that it is ignored, and of no other. -/
theorem load_ignores (alike : f.AlikeBeside g)
    (others : ∀ place, f.fileAt? path = some place → ¬ f.IsUsers place) (p : Progress σ ρ) :
    (load stack f (some path)).runFrom p = (load stack g (some path)).runFrom p ∧
      ∀ user place, f.userFile? = some user → f.fileAt? path = some place →
        (∃ told, ((load stack f (some path)).runFrom p).2.journal =
            p.journal ++ .log .warning .config (ignored user path) :: told ∧
          ∀ event ∈ told, ∃ text, event = .log .info .config text) ∧
        ∀ loaded, ((load stack f (some path)).runFrom p).1 = .ok loaded →
          loaded.warnings = [ignored user path] := by
  have read : readDocument stack f path = readDocument stack g path := by
    rw [readDocument, readDocument, Files.readText, Files.readText, alike.find_eq others]
  have warnings : warningsFor f (some path) = warningsFor g (some path) := by
    simp only [warningsFor, passedOver?, alike.userFile_eq, alike.fileAt_eq]
  constructor
  · have same := alike.fileAt_eq path
    cases stands : g.fileAt? path with
    | none => rw [load_missing (same.trans stands), load_missing stands]
    | some place =>
        rw [load_runs (.asked (same.trans stands)), load_runs (.asked stands), read, warned, warned,
          warnings]
  · intro user place found stands
    have warnings : warningsFor f (some path) = [ignored user path] := by
      rw [warningsFor, passedOver_eq found stands (others place stands)]
      rfl
    obtain ⟨told, runs, infos, warns⟩ := load_tells (.asked stands) p
    rw [warnings] at warns
    refine ⟨⟨told, ?_, infos⟩, warns⟩
    rw [runs, warned, warnings]
    simp [Progress.noteAll]

/-- A tree with a file in the working directory and a file of the user's, which has these bytes. -/
def withUsers (bytes : List UInt8) : Files where
  entries := [(["a.yaml"], .file (Text.encodeUtf8 "scan_timeout_s: 3\n".toList)),
    (["cfg", "shbctl", "config.yaml"], .file bytes)]
  working := []
  home := "/"
  configHome := some "/cfg"

theorem withUsers_alike (bytes bytes' : List UInt8) : (withUsers bytes).AlikeBeside (withUsers bytes') where
  working := rfl
  home := rfl
  configHome := rfl
  entries place := by
    by_cases users : place = ["cfg", "shbctl", "config.yaml"]
    · subst users
      have found : (withUsers bytes).fileAt? (.child (.child (.ofText "/cfg") "shbctl") "config.yaml") =
          some ["cfg", "shbctl", "config.yaml"] := rfl
      exact .inr ⟨⟨_, List.mem_cons_self, found⟩, bytes, bytes', rfl, rfl⟩
    · have unequal : (place == ["cfg", "shbctl", "config.yaml"]) = false := beq_false_of_ne users
      simp [Files.entryAt?, withUsers, List.lookup_cons, unequal]

/-- The user's file may be no text. -/
theorem load_ignores_bytes :
    let path := Path.ofText "a.yaml"
    let warning := "User config /cfg/shbctl/config.yaml ignored in favour of a.yaml"
    let p : Progress Unit Unit := ⟨(), [], false, ()⟩
    (withUsers []).AlikeBeside (withUsers [0xFF]) ∧
      (∀ place, (withUsers []).fileAt? path = some place → ¬ (withUsers []).IsUsers place) ∧
      (load .unbounded (withUsers [0xFF]) (some path)).runFrom p =
        (load .unbounded (withUsers []) (some path)).runFrom p ∧
      ∃ loaded q, (load .unbounded (withUsers []) (some path)).runFrom p = (.ok loaded, q) ∧
        loaded.warnings = [warning] := by
  intro path warning p
  have stands : (withUsers []).fileAt? path = some ["a.yaml"] := by decide +kernel
  have found : (withUsers []).userFile? = some ⟨"/", ["cfg", "shbctl", "config.yaml"]⟩ := by
    decide +kernel
  have others (place : List String) (leads : (withUsers []).fileAt? path = some place) :
      ¬ (withUsers []).IsUsers place := by
    rw [stands] at leads
    cases leads
    rintro ⟨user, among, same⟩
    have elsewhere : ∀ user ∈ (withUsers []).userPaths,
        (withUsers []).fileAt? user ≠ some ["a.yaml"] := by
      decide +kernel
    exact elsewhere user among same
  obtain ⟨same, told⟩ := load_ignores (withUsers_alike [] [0xFF]) others p
  obtain ⟨q, loads⟩ := exists_runFrom_of_toOption
    (show ((load .unbounded (withUsers []) (some path)).runFrom p).1.toOption =
      some ⟨{ scanTimeout := .ofNat 3 }, [.packaged, .file "a.yaml"], [warning]⟩ by decide +kernel)
  have warnings := (told _ _ found stands).2 _ (congrArg Prod.fst loads)
  exact ⟨withUsers_alike [] [0xFF], others, same.symm, _, q, loads, warnings⟩

end Config

end BezelStream
