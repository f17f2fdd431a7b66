import BezelStream.Proofs.Config.Overlay
import BezelStream.Proofs.Config.Reading

/-! # What a loaded configuration comes from

At most one file lies over the packaged document. A document of it that the schema does not admit
is refused before anything of it is used; of one that is admitted, each setting is read from the
entry under its own key, or else from the packaged entry.
-/

namespace BezelStream.Config

/-- Which file lies over the packaged document: the one that is asked for, or else the user's. -/
inductive LiesOver (files : Files) : Option Path → Path → Prop where
  | asked {path : Path} {place : List String} (stands : files.fileAt? path = some place) :
      LiesOver files (some path) path
  | user {path : Path} (stands : files.userFile? = some path) : LiesOver files none path

/-- What there is to lay over the packaged document: nothing, or the document in a file. -/
inductive GivenOverlay (stack : Stack) (files : Files) (explicit : Option Path) :
    Document → Prop where
  | nothing (unasked : explicit = none) (absent : files.userFile? = none) :
      GivenOverlay stack files explicit []
  | file {path : Path} {doc : Document} (lies : LiesOver files explicit path)
      (read : readDocument stack files path = .ok doc) : GivenOverlay stack files explicit doc

/-- The user's file, if it is another one than the file that is asked for. -/
def passedOver? (files : Files) (path : Path) : Option Path :=
  files.userFile?.filter fun user => files.fileAt? user ≠ files.fileAt? path

/-- What the user is to know about the choice of the file. -/
def warningsFor (files : Files) : Option Path → List String
  | none => []
  | some path => (passedOver? files path).toList.map (ignored · path)

/-- The values of the settings: those of the document, or else the packaged ones. -/
def setting (doc : Document) (name : String) : Value :=
  ((Value.lookup? (.text name) doc).or (Value.lookup? (.text name) packaged)).getD (.scalar .null)

/-- Each field of a configuration is read from one value, which goes by the name of the field. -/
structure ReadFrom (entry : String → Value) (c : Config) : Prop where
  target : c.target = (entry "target_identifier").written
  characteristic :
    readUuid "characteristic_uuid" (entry "characteristic_uuid") = .ok c.characteristic
  scanTimeout : readSeconds (entry "scan_timeout_s") = .ok c.scanTimeout
  proposal : readProposal (entry "selection_default") = .ok c.proposal
  diagnostics : readFlag "diagnostics" (entry "diagnostics") = .ok c.diagnostics
  connectTimeout : readSeconds (entry "connect_timeout_s") = .ok c.connectTimeout

section

variable {stack : Stack} {files : Files} {explicit : Option Path} {path : Path} {doc : Document}

theorem bind_eq_ok_iff {α β : Type} {x : Except Fault α} {next : α → Except Fault β} {b : β} :
    (x >>= next) = .ok b ↔ ∃ a, x = .ok a ∧ next a = .ok b := by
  cases x with
  | error f => exact ⟨nofun, nofun⟩
  | ok a => simp [bind, Except.bind]

theorem map_eq_ok_iff {α β : Type} {x : Except Fault α} {f : α → β} {b : β} :
    x.map f = .ok b ↔ ∃ a, x = .ok a ∧ f a = b := by
  cases x with
  | error e => exact ⟨nofun, nofun⟩
  | ok a => simp [Except.map]

theorem map_eq_error_iff {α β : Type} {x : Except Fault α} {f : α → β} {e : Fault} :
    x.map f = .error e ↔ x = .error e := by
  cases x <;> simp [Except.map]

/-- A document in which every setting has a value makes a configuration exactly if each of its
    fields can be read from the value under its name. -/
theorem ofDocument_eq_ok_iff {entry : String → Value} {c : Config}
    (given : ∀ field ∈ schema.fields, Value.lookup? (.text field.1) doc = some (entry field.1)) :
    ofDocument doc = .ok c ↔ ReadFrom entry c := by
  have reads (name : String) (default : Scalar) (known : name ∈ schema.fields.map Prod.fst) :
      field doc name default = entry name := by
    obtain ⟨⟨_, demands⟩, listed, rfl⟩ := List.mem_map.mp known
    rw [field, given _ listed]
    rfl
  unfold ofDocument
  simp only [bind_eq_ok_iff]
  rw [reads "target_identifier" _ (by decide), reads "characteristic_uuid" _ (by decide),
    reads "scan_timeout_s" _ (by decide), reads "selection_default" _ (by decide),
    reads "diagnostics" _ (by decide), reads "connect_timeout_s" _ (by decide)]
  constructor
  · rintro ⟨characteristic, a, scanTimeout, b, proposal, d, diagnostics, e, connectTimeout, f, ⟨⟩⟩
    exact ⟨rfl, a, b, d, e, f⟩
  · intro read
    obtain ⟨target, _, _, _, _, _⟩ := c
    obtain ⟨rfl, a, b, d, e, f⟩ := read
    exact ⟨_, a, _, b, _, d, _, e, _, f, rfl⟩

/-- The schema admits the packaged document, which has a value for every setting. -/
theorem admits_packaged : schema.Admits packaged :=
  Schema.violation_eq_none_iff.mp (by decide)

theorem lookup_merged (named : Named doc) (keyed : Keyed doc) :
    ∀ field ∈ schema.fields,
      Value.lookup? (.text field.1) (lay doc packaged) = some (setting doc field.1) := by
  intro field listed
  have given : ∀ field ∈ schema.fields, (Value.lookup? (.text field.1) packaged).isSome := by decide
  obtain ⟨value, packed⟩ := Option.isSome_iff_exists.mp (given field listed)
  rw [lookup_lay named keyed, setting, packed]
  cases Value.lookup? (.text field.1) doc <;> rfl

/-- Whatever an admitted document says, each setting has a value that meets the demands. -/
theorem setting_met (admits : schema.Admits doc) (keyed : Keyed doc) :
    ∀ field ∈ schema.fields, ∀ demand ∈ field.2, demand.isMet (setting doc field.1) = true :=
  fun field listed =>
    (admits_lay admits keyed admits_packaged).met field listed _
      (lookup_merged (named_of_admits admits) keyed field listed)

end

/-! ## The run -/

section

variable {σ ρ : Type} {stack : Stack} {files : Files} {explicit : Option Path} {path : Path}
  {doc : Document}

theorem exists_runFrom_of_toOption {α : Type} {x : Op σ ρ α} {a : α} {p : Progress σ ρ}
    (runs : (x.runFrom p).1.toOption = some a) : ∃ q, x.runFrom p = (.ok a, q) := by
  generalize x.runFrom p = ended at runs
  obtain ⟨f | a', q⟩ := ended
  · cases runs
  · cases runs
    exact ⟨q, rfl⟩

/-- A progress whose journal has the warnings about the choice of the file. -/
abbrev warned (files : Files) (explicit : Option Path) (p : Progress σ ρ) : Progress σ ρ :=
  p.noteAll ((warningsFor files explicit).map (.log .warning .config))

theorem overriding_runs (lies : LiesOver files explicit path) (p : Progress σ ρ) :
    (overriding files explicit).runFrom p =
      (.ok (some path, warningsFor files explicit), warned files explicit p) := by
  cases lies with
  | user stands =>
      rw [overriding, stands, warned, warningsFor, List.map_nil, Progress.noteAll_nil]
      rfl
  | @asked _ place stands =>
      rw [overriding, warned, warningsFor, passedOver?, stands]
      cases files.userFile? with
      | none => simp
      | some user =>
          rw [Option.filter_some]
          by_cases same : files.fileAt? user = some place
          · simp [same]
          · simp only [same, ↓reduceIte, ne_eq, not_false_eq_true, decide_true, Option.toList_some,
              List.map_cons, List.map_nil]
            rfl

/-- A run over a file, from where the file is chosen. -/
theorem load_runs (lies : LiesOver files explicit path) (p : Progress σ ρ) :
    (load stack files explicit).runFrom p = Op.runFrom (do
      let doc ← Op.ofResult (readDocument stack files path)
      Op.ofResult (validate stack path.text (.map doc))
      let merged ← overlay path doc packaged
      return ⟨← Op.ofResult (ofDocument merged), [.packaged, .file path.text],
        warningsFor files explicit⟩) (warned files explicit p) := by
  rw [load, Op.runFrom_bind, overriding_runs lies]

/-- A document that the schema does not admit is refused, and no record is made of what is in it. -/
theorem load_refused (lies : LiesOver files explicit path)
    (read : readDocument stack files path = .ok doc)
    {violation : Schema.Violation} (violated : schema.violation? (.map doc) = some violation)
    (p : Progress σ ρ) :
    (load stack files explicit).runFrom p =
      (.error (violationFault stack path.text violation), warned files explicit p) := by
  have refused : validate stack path.text (.map doc) =
      .error (violationFault stack path.text violation) := by
    rw [validate, violated]
  rw [load_runs lies, read, Op.runFrom_bind, Op.runFrom_ofResult]
  dsimp only
  rw [Op.runFrom_bind, Op.runFrom_ofResult, refused]

/-- An admitted document is laid over the packaged one, and the configuration is built of both. -/
theorem load_merged (lies : LiesOver files explicit path)
    (read : readDocument stack files path = .ok doc)
    (admits : schema.Admits doc) (p : Progress σ ρ) :
    (load stack files explicit).runFrom p =
      ((ofDocument (lay doc packaged)).map fun config =>
          ⟨config, [.packaged, .file path.text], warningsFor files explicit⟩,
        (warned files explicit p).noteAll (changes path doc packaged)) := by
  have accepted : validate stack path.text (.map doc) = .ok () := by
    rw [validate, Schema.violation_eq_none_iff.mpr admits]
  have runs := overlay_runs path (named_of_admits admits) (readDocument_keyed read) packaged
    (warned files explicit p)
  rw [load_runs lies, read, Op.runFrom_bind, Op.runFrom_ofResult]
  dsimp only
  rw [Op.runFrom_bind, Op.runFrom_ofResult, accepted]
  dsimp only
  rw [Op.runFrom_bind, runs]
  dsimp only
  rw [Op.runFrom_bind, Op.runFrom_ofResult]
  cases ofDocument (lay doc packaged) <;> rfl

/-- A run over a file tells the warnings, and after them nothing but changes. What it loads comes
    with the warnings. -/
theorem load_tells (lies : LiesOver files explicit path) (p : Progress σ ρ) :
    ∃ told, ((load stack files explicit).runFrom p).2 = (warned files explicit p).noteAll told ∧
      (∀ event ∈ told, ∃ text, event = .log .info .config text) ∧
      ∀ loaded, ((load stack files explicit).runFrom p).1 = .ok loaded →
        loaded.warnings = warningsFor files explicit := by
  cases read : readDocument stack files path with
  | error f =>
      rw [load_unread (overriding_runs lies p) read]
      exact ⟨[], (Progress.noteAll_nil _).symm, List.forall_mem_nil _, nofun⟩
  | ok doc =>
      cases checked : schema.violation? (.map doc) with
      | some violation =>
          rw [load_refused lies read checked]
          exact ⟨[], (Progress.noteAll_nil _).symm, List.forall_mem_nil _, nofun⟩
      | none =>
          rw [load_merged lies read (Schema.violation_eq_none_iff.mp checked)]
          refine ⟨_, rfl, fun event member => ?_, fun loaded made => ?_⟩
          · obtain ⟨key, -, rfl⟩ := List.mem_map.mp member
            exact ⟨_, rfl⟩
          · obtain ⟨config, -, rfl⟩ := map_eq_ok_iff.mp made
            rfl

/-- Without a file the packaged document is all there is. -/
theorem load_packaged (absent : files.userFile? = none) (p : Progress σ ρ) :
    (load stack files none).runFrom p =
      ((ofDocument packaged).map fun config => ⟨config, [.packaged], []⟩, p) := by
  have chosen : (overriding files none).runFrom p = (.ok (none, []), p) := by
    rw [overriding, absent]
    rfl
  rw [load, Op.runFrom_bind, chosen]
  dsimp only
  rw [Op.runFrom_bind, Op.runFrom_ofResult]
  cases ofDocument packaged <;> rfl

/-- The file that is asked for must exist. -/
theorem load_missing (missing : files.fileAt? path = none) (p : Progress σ ρ) :
    (load stack files (some path)).runFrom p = (.error (.configMissing path.text), p) := by
  have fails : (overriding files (some path)).runFrom p = (.error (.configMissing path.text), p) := by
    unfold overriding
    dsimp only
    rw [missing]
    rfl
  rw [load, Op.runFrom_bind, fails]

/-- There is no file to lay over the packaged document, or the one that is asked for is missing, or
    there is one. -/
theorem lies_cases (files : Files) (explicit : Option Path) :
    (explicit = none ∧ files.userFile? = none) ∨
      (∃ path, explicit = some path ∧ files.fileAt? path = none) ∨
        ∃ path, LiesOver files explicit path := by
  cases explicit with
  | none =>
      cases stands : files.userFile? with
      | none => exact .inl ⟨rfl, rfl⟩
      | some path => exact .inr (.inr ⟨path, .user stands⟩)
  | some path =>
      cases stands : files.fileAt? path with
      | none => exact .inr (.inl ⟨path, rfl, stands⟩)
      | some place => exact .inr (.inr ⟨path, .asked stands⟩)

/-- Loading writes nothing but records of its own. -/
theorem load_logs (stack : Stack) (files : Files) (explicit : Option Path) (p : Progress σ ρ) :
    ∃ told, ((load stack files explicit).runFrom p).2 = p.noteAll told ∧
      ∀ event ∈ told, ∃ level text, event = .log level .config text := by
  rcases lies_cases files explicit with ⟨rfl, absent⟩ | ⟨path, rfl, missing⟩ | ⟨path, lies⟩
  · rw [load_packaged absent]
    exact ⟨[], (Progress.noteAll_nil p).symm, List.forall_mem_nil _⟩
  · rw [load_missing missing]
    exact ⟨[], (Progress.noteAll_nil p).symm, List.forall_mem_nil _⟩
  · obtain ⟨told, runs, infos, -⟩ := load_tells lies p
    refine ⟨(warningsFor files explicit).map (.log .warning .config) ++ told, ?_, ?_⟩
    · rw [runs, warned, Progress.noteAll_noteAll]
    · refine List.forall_mem_append.mpr ⟨fun event member => ?_, fun event member => ?_⟩
      · obtain ⟨warning, -, rfl⟩ := List.mem_map.mp member
        exact ⟨_, _, rfl⟩
      · obtain ⟨text, rfl⟩ := infos event member
        exact ⟨_, _, rfl⟩

/-- A loaded configuration comes from a document that the schema admits, or from the packaged one
    alone. -/
theorem given_of_load {loaded : Loaded} {p q : Progress σ ρ}
    (loads : (load stack files explicit).runFrom p = (.ok loaded, q)) :
    ∃ doc, GivenOverlay stack files explicit doc ∧ schema.Admits doc ∧ Keyed doc ∧
      ReadFrom (setting doc) loaded.config := by
  rcases lies_cases files explicit with ⟨rfl, absent⟩ | ⟨path, rfl, missing⟩ | ⟨path, lies⟩
  · have keyed : Keyed ([] : Document) := .nil
    have named : Named [] := List.forall_mem_nil _
    refine ⟨[], .nothing rfl absent, ⟨List.forall_mem_nil _, fun _ _ _ => nofun⟩, keyed, ?_⟩
    rw [load_packaged absent] at loads
    obtain ⟨config, made, rfl⟩ := map_eq_ok_iff.mp (Prod.mk.inj loads).1
    exact (ofDocument_eq_ok_iff (lookup_merged named keyed)).mp made
  · rw [load_missing missing] at loads
    cases loads
  cases read : readDocument stack files path with
  | error f =>
      rw [load_unread (overriding_runs lies p) read] at loads
      cases loads
  | ok doc =>
      have keyed := readDocument_keyed read
      cases checked : schema.violation? (.map doc) with
      | some violation =>
          rw [load_refused lies read checked] at loads
          cases loads
      | none =>
          have admits := Schema.violation_eq_none_iff.mp checked
          refine ⟨doc, .file lies read, admits, keyed, ?_⟩
          rw [load_merged lies read admits] at loads
          obtain ⟨config, made, rfl⟩ := map_eq_ok_iff.mp (Prod.mk.inj loads).1
          exact (ofDocument_eq_ok_iff (lookup_merged (named_of_admits admits) keyed)).mp made

end

end BezelStream.Config
