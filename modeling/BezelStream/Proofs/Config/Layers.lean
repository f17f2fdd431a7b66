import BezelStream.Proofs.Config.Entries
import BezelStream.Proofs.Config.Loading
import BezelStream.Proofs.Yaml.Spelling

/-! # A document over the packaged one

A document that the schema does not admit is refused and leaves no record. One that is admitted is
laid over the packaged document key by key: what results is admitted again, each setting is read
from the entry of its own name, and each entry that changes something is told once, in order.
-/

namespace BezelStream.Config

variable {σ ρ : Type} {stack : Stack} {files : Files} {explicit : Option Path} {path : Path}
  {doc : Document}

/-! ## The packaged document -/

/-- The packaged document as it is written. -/
def packagedText : String :=
  "# Packaged defaults. Override any key in $XDG_CONFIG_HOME/shbctl/config.yaml.\n" ++
  "target_identifier: \"SHB1000\"\n" ++
  "characteristic_uuid: \"f62a9f56-f29e-48a8-a317-47ee37a58999\"\n" ++
  "scan_timeout_s: 10\n" ++
  "selection_default: last\n" ++
  "diagnostics: true\n" ++
  "connect_timeout_s: 10\n"

def packagedGraph : Yaml.Graph :=
  #[.mapping .map [(1, 2), (3, 4), (5, 6), (7, 8), (9, 10), (11, 12)],
    .scalar .str "target_identifier", .scalar .str "SHB1000",
    .scalar .str "characteristic_uuid", .scalar .str "f62a9f56-f29e-48a8-a317-47ee37a58999",
    .scalar .str "scan_timeout_s", .scalar .int "10", .scalar .str "selection_default",
    .scalar .str "last", .scalar .str "diagnostics", .scalar .str "true",
    .scalar .str "connect_timeout_s", .scalar .int "10"]

theorem valueOf_packagedGraph : Yaml.valueOf packagedGraph 0 = .ok (.map packaged) := by
  rfl

/-- What is packaged is the document that its text loads as. -/
theorem documentOf_packagedText (enough : stack.loads packagedText = true) (path : Path) :
    documentOf stack path packagedText = .ok packaged := by
  have composed : Yaml.compose packagedText = .ok (some (packagedGraph, 0)) := by decide +kernel
  rw [documentOf, Yaml.load_of_compose enough composed valueOf_packagedGraph]

/-! ## What lies over it -/

/-- A violation is told if the stack suffices for the values in its text and the text can be
    written. -/
theorem violationFault_isInvalid_iff (source : String) (violation : Schema.Violation) :
    (violationFault stack source violation).failure? = some .configInvalid ↔
      (∀ value ∈ violation.values, stack.shows value = true) ∧ violation.isWritable = true := by
  rw [violationFault, ← List.all_eq_true]
  cases violation.values.all stack.shows with
  | false => exact ⟨nofun, nofun⟩
  | true =>
      cases violation.isWritable with
      | true => exact ⟨fun _ => ⟨rfl, rfl⟩, fun _ => rfl⟩
      | false => exact ⟨nofun, nofun⟩

/-- What a document over the packaged one comes to. -/
theorem load_overlays (lies : LiesOver files explicit path)
    (read : readDocument stack files path = .ok doc) (p : Progress σ ρ) :
    (∀ violation, schema.violation? (.map doc) = some violation →
      ∃ fault, (load stack files explicit).runFrom p = (.error fault, warned files explicit p) ∧
        (fault.failure? = some .configInvalid ↔
          (∀ value ∈ violation.values, stack.shows value = true) ∧
            violation.isWritable = true)) ∧
    (schema.violation? (.map doc) = none →
      ∃ merged, (∀ q : Progress σ ρ, (overlay path doc packaged).runFrom q =
            (.ok merged, q.noteAll (changes path doc packaged))) ∧
        schema.violation? (.map merged) = none ∧
        (∀ loaded, ((load stack files explicit).runFrom p).1 = .ok loaded ↔
          ReadFrom (setting doc) loaded.config ∧
            loaded.sources = [.packaged, .file path.text] ∧
            loaded.warnings = warningsFor files explicit) ∧
        ((load stack files explicit).runFrom p).2 =
          (warned files explicit p).noteAll (changes path doc packaged)) := by
  constructor
  · intro violation violated
    exact ⟨_, load_refused lies read violated p, violationFault_isInvalid_iff path.text violation⟩
  · intro checked
    have admits := Schema.violation_eq_none_iff.mp checked
    have named := named_of_admits admits
    have keyed := readDocument_keyed read
    refine ⟨lay doc packaged, overlay_runs path named keyed packaged, ?_, fun loaded => ?_, ?_⟩
    · exact Schema.violation_eq_none_iff.mpr (admits_lay admits keyed admits_packaged)
    · rw [load_merged lies read admits, map_eq_ok_iff]
      simp only [ofDocument_eq_ok_iff (lookup_merged named keyed)]
      constructor
      · rintro ⟨config, from_, rfl⟩
        exact ⟨from_, rfl, rfl⟩
      · obtain ⟨config, sources, warnings⟩ := loaded
        rintro ⟨from_, rfl, rfl⟩
        exact ⟨config, from_, rfl⟩
    · rw [load_merged lies read admits]

/-- The same number in another kind is no change, and a truth value in the place of the word for it
    is one. -/
theorem load_overlays_kinds :
    let files := lone "a.yaml" (Text.encodeUtf8
      "connect_timeout_s: 10.0\nscan_timeout_s: 3\ndiagnostics: !!bool true\n".toList)
    let path := Path.ofText "a.yaml"
    let p : Progress Unit Unit := ⟨(), [], false, ()⟩
    LiesOver files (some path) path ∧ (∃ doc, readDocument .unbounded files path = .ok doc) ∧
      ((load .unbounded files (some path)).runFrom p).2.journal =
        [.log .info .config "Config 'scan_timeout_s' overridden by a.yaml",
          .log .info .config "Config 'diagnostics' overridden by a.yaml"] := by
  intro files path p
  have lies : LiesOver files (some path) path :=
    .asked (show files.fileAt? path = some ["a.yaml"] by decide +kernel)
  have silent : warningsFor files (some path) = [] := by decide +kernel
  have reads : (readDocument .unbounded files path).toOption.map
      (fun doc => ((schema.violation? (.map doc)).isNone, changedKeys doc packaged)) =
        some (true, [.text "scan_timeout_s", .text "diagnostics"]) := by
    decide +kernel
  cases read : readDocument .unbounded files path with
  | error f =>
      rw [read] at reads
      cases reads
  | ok doc =>
      rw [read] at reads
      obtain ⟨checked, changed⟩ := Prod.mk.inj (Option.some.inj reads)
      obtain ⟨merged, -, -, -, runs⟩ :=
        (load_overlays lies read p).2 (Option.isNone_iff_eq_none.mp checked)
      refine ⟨lies, ⟨doc, rfl⟩, ?_⟩
      rw [runs, warned, silent, changes, changed]
      rfl

theorem find_lone (bytes : List UInt8) :
    (lone "a.yaml" bytes).find (.ofText "a.yaml") = .ok (["a.yaml"], .file bytes) := by
  rfl

theorem readDocument_lone {bytes : List UInt8} {cs : List Char}
    (decoded : Text.decodeUtf8? bytes = some cs) :
    readDocument stack (lone "a.yaml" bytes) (.ofText "a.yaml") =
      documentOf stack (.ofText "a.yaml") (String.ofList (Text.unifyLineEnds cs)) := by
  unfold readDocument Files.readText
  rw [find_lone]
  dsimp only
  rw [decoded]
  rfl

/-- A number in the place of a text is refused without a name if it has too many digits to be
    told. -/
theorem load_refuses_unnamed :
    let spelled := Yaml.fieldName ++ ':' :: ' ' :: '0' :: 'x' :: '1' :: List.replicate 3572 '0' ++ ['\n']
    let files := lone "a.yaml" (Text.encodeUtf8 spelled)
    let path := Path.ofText "a.yaml"
    let p : Progress Unit Unit := ⟨(), [], false, ()⟩
    ∃ doc violation fault q, LiesOver files (some path) path ∧
      readDocument .unbounded files path = .ok doc ∧
      schema.violation? (.map doc) = some violation ∧
      (load .unbounded files (some path)).runFrom p = (.error fault, q) ∧ fault.failure? = none := by
  intro spelled files path p
  have value : Yaml.readInt ('0' :: 'x' :: '1' :: List.replicate 3572 '0') = .ok (16 ^ 3572) := by
    decide +kernel
  have decoded : Text.decodeUtf8? (Text.encodeUtf8 spelled) = some spelled := by
    decide +kernel
  have lines : Text.unifyLineEnds spelled = spelled := by
    decide +kernel
  have digits : ∀ c ∈ '1' :: List.replicate 3572 '0', c ∈ Yaml.sixteenths := by
    refine List.forall_mem_cons.mpr ⟨by decide, fun c among => ?_⟩
    rw [List.eq_of_mem_replicate among]
    decide
  have name : String.ofList Yaml.fieldName = "target_identifier" := by decide +kernel
  have loaded : Yaml.load .unbounded (String.ofList spelled) =
      .ok (.map [(.text "target_identifier", .scalar (.int (16 ^ 3572)))]) := by
    rw [← name]
    exact Yaml.valueIn_spelled digits value
  have lies : LiesOver files (some path) path :=
    .asked (show files.fileAt? path = some ["a.yaml"] by rw [Files.fileAt?, find_lone])
  have read : readDocument .unbounded files path =
      .ok [(.text "target_identifier", .scalar (.int (16 ^ 3572)))] := by
    rw [readDocument_lone decoded, lines, documentOf, loaded]
  have violated (i : Int) : schema.violation? (.map [(.text "target_identifier", .scalar (.int i))]) =
      some (.unmet "target_identifier" (.kind [.text]) (.scalar (.int i))) := by
    rfl
  refine ⟨_, _, _, _, lies, read, violated _, load_refused lies read (violated _) p, ?_⟩
  have unwritable : (Schema.Violation.unmet "target_identifier" (.kind [.text])
      (.scalar (.int (16 ^ 3572)))).isWritable = false := by
    decide +kernel
  rw [violationFault, unwritable]
  rfl

end BezelStream.Config
