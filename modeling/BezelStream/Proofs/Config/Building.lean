import BezelStream.Proofs.Config.Schema
import BezelStream.Proofs.Number.Range
import BezelStream.Proofs.Text.CodePoint
import BezelStream.Proofs.Uuid

/-! # How the building of a configuration ends

The schema leaves three things open: whether a text names a characteristic, whether a text is a word
for a truth value, and how large a number is. The fields are read in their order, and the first of
them that cannot be read decides. Only an integer that is too large for a timeout is refused without
being called invalid.
-/

namespace BezelStream.Config

open Schema (Demand)
open Text

/-- The characteristic of the document is a text that names none. -/
def Misnamed (doc : Document) : Prop :=
  ∃ text, Value.lookup? (.text "characteristic_uuid") doc = some (.scalar (.text text)) ∧
    ∀ s : String, text = s → ¬ Identifier (lowercase (trim s.toList))

/-- The truth value of the document is a text that is no word for one. -/
def Misworded (doc : Document) : Prop :=
  ∃ text, Value.lookup? (.text "diagnostics") doc = some (.scalar (.text text)) ∧
    ∀ s : String, text = s → String.ofList (lowercase (trim s.toList)) ∉ ["true", "false"]

/-- The setting of the document is an integer that no finite number is nearest to. -/
def Oversized (doc : Document) (name : String) : Prop :=
  ∃ i : Int, Value.lookup? (.text name) doc = some (.scalar (.int i)) ∧
    Binary64.leastBeyond ≤ i.natAbs

/-- How the building of a configuration ends: with the first field that cannot be read, or with a
    configuration. -/
inductive BuildsTo (doc : Document) : Except Fault Config → Prop where
  | misnamed (misnamed : Misnamed doc) :
      BuildsTo doc (.error (.notUuid "characteristic_uuid"))
  | longScan (named : ¬ Misnamed doc) (large : Oversized doc "scan_timeout_s") :
      BuildsTo doc (.error (.mismatch .tooLarge))
  | misworded (named : ¬ Misnamed doc) (scan : ¬ Oversized doc "scan_timeout_s")
      (misworded : Misworded doc) : BuildsTo doc (.error (.notBoolean "diagnostics"))
  | longConnect (named : ¬ Misnamed doc) (scan : ¬ Oversized doc "scan_timeout_s")
      (worded : ¬ Misworded doc) (large : Oversized doc "connect_timeout_s") :
      BuildsTo doc (.error (.mismatch .tooLarge))
  | built (config : Config) (named : ¬ Misnamed doc) (scan : ¬ Oversized doc "scan_timeout_s")
      (worded : ¬ Misworded doc) (connect : ¬ Oversized doc "connect_timeout_s") :
      BuildsTo doc (.ok config)

variable {doc : Document} {name : String}

/-! ## The fields -/

theorem readUuid_text (context text : String) :
    readUuid context (.scalar (.text text)) = normalizeUuid context text := by
  rw [readUuid, Value.written, Scalar.written, CodePoints.string?_ofString]

theorem characteristic_reads (admits : schema.Admits doc) (default : String)
    (packed : Identifier (lowercase (trim default.toList))) :
    let value := field doc "characteristic_uuid" (.text default)
    Misnamed doc ∧
        readUuid "characteristic_uuid" value = .error (.notUuid "characteristic_uuid") ∨
      ¬ Misnamed doc ∧ ∃ uuid, readUuid "characteristic_uuid" value = .ok uuid := by
  have met := admits.met ("characteristic_uuid", [.kind [.text], .atLeast 4]) (by decide)
  unfold field Misnamed
  cases given : Value.lookup? (.text "characteristic_uuid") doc with
  | none =>
      dsimp only [Option.getD_none]
      rw [readUuid_text]
      exact .inr ⟨nofun, _, normalizeUuid_accepts packed⟩
  | some value =>
      match value, met value given (.kind [.text]) (by decide) with
      | .scalar (.text t), _ =>
          dsimp only [Option.getD_some]
          cases written : t.string? with
          | none =>
              refine .inl ⟨⟨t, rfl, fun s same => ?_⟩, ?_⟩
              · rw [same, CodePoints.string?_ofString] at written
                cases written
              · rw [readUuid, Value.written, Scalar.written, written]
          | some s =>
              obtain rfl := CodePoints.string?_eq_some_iff.mp written
              rw [readUuid_text]
              by_cases identifier : Identifier (lowercase (trim s.toList))
              · refine .inr ⟨?_, _, normalizeUuid_accepts identifier⟩
                rintro ⟨_, ⟨⟩, other⟩
                exact other s rfl identifier
              · refine .inl ⟨⟨s, rfl, fun r same => ?_⟩, normalizeUuid_refuses identifier⟩
                rwa [← CodePoints.ofString_inj.mp same]

theorem seconds_read (admits : schema.Admits doc) (default : Binary64)
    (timeout : (name, [.kind [.number], .positive]) ∈ schema.fields) :
    let value := field doc name (.float default)
    Oversized doc name ∧ readSeconds value = .error (.mismatch .tooLarge) ∨
      ¬ Oversized doc name ∧ ∃ x, readSeconds value = .ok x := by
  unfold field Oversized readSeconds
  cases given : Value.lookup? (.text name) doc with
  | none => exact .inr ⟨nofun, default, rfl⟩
  | some value =>
      match value, admits.met _ timeout value given (.kind [.number]) List.mem_cons_self with
      | .scalar (.float x), _ => exact .inr ⟨nofun, x, rfl⟩
      | .scalar (.int i), _ =>
          simp only [Option.getD_some, Value.toFloat]
          cases nearest : Binary64.ofInt? i with
          | none => exact .inl ⟨⟨i, rfl, Binary64.ofInt_eq_none_iff.mp nearest⟩, rfl⟩
          | some x =>
              refine .inr ⟨?_, x, rfl⟩
              rintro ⟨j, ⟨⟩, large⟩
              rw [Binary64.ofInt_eq_none_iff.mpr large] at nearest
              cases nearest

theorem proposal_reads (admits : schema.Admits doc) :
    ∃ proposal, readProposal (field doc "selection_default" (.text "last")) = .ok proposal := by
  have met := admits.met ("selection_default", [.oneOf ["last", "first"]]) (by decide)
  unfold field
  cases given : Value.lookup? (.text "selection_default") doc with
  | none => exact ⟨.last, rfl⟩
  | some value =>
      match value, met value given (.oneOf ["last", "first"]) (by decide) with
      | .scalar (.text s), listed =>
          have word : s = ("last" : String) ∨ s = ("first" : String) := by
            simpa [Demand.isMet] using listed
          rcases word with rfl | rfl
          · exact ⟨.last, rfl⟩
          · exact ⟨.first, rfl⟩

theorem not_misworded {t : CodePoints} {word : String}
    (given : Value.lookup? (.text "diagnostics") doc = some (.scalar (.text t)))
    (written : t.chars?.map (fun cs => String.ofList (lowercase (trim cs))) = some word)
    (listed : word ∈ ["true", "false"]) : ¬ Misworded doc := by
  rintro ⟨_, found, other⟩
  obtain ⟨cs, chars, rfl⟩ := Option.map_eq_some_iff.mp written
  rw [given] at found
  cases found
  have same := (CodePoints.chars?_eq_some_iff.mp chars).trans (CodePoints.ofString_ofList cs).symm
  exact other _ same (by rwa [String.toList_ofList])

theorem flag_reads (admits : schema.Admits doc) (default : Bool) :
    let value := field doc "diagnostics" (.bool default)
    Misworded doc ∧ readFlag "diagnostics" value = .error (.notBoolean "diagnostics") ∨
      ¬ Misworded doc ∧ ∃ flag, readFlag "diagnostics" value = .ok flag := by
  have met := admits.met ("diagnostics", [.kind [.bool, .text]]) (by decide)
  unfold field
  cases given : Value.lookup? (.text "diagnostics") doc with
  | none =>
      refine .inr ⟨?_, default, rfl⟩
      rintro ⟨_, found, -⟩
      rw [given] at found
      cases found
  | some value =>
      match value, met value given (.kind [.bool, .text]) (by decide) with
      | .scalar (.bool b), _ =>
          refine .inr ⟨?_, b, rfl⟩
          rintro ⟨_, found, -⟩
          rw [given] at found
          cases found
      | .scalar (.text t), _ =>
          dsimp only [Option.getD_some, readFlag]
          split
          next written => exact .inr ⟨not_misworded given written (by decide), true, rfl⟩
          next written => exact .inr ⟨not_misworded given written (by decide), false, rfl⟩
          next yes no =>
            refine .inl ⟨⟨t, given, ?_⟩, rfl⟩
            rintro s rfl
            rw [CodePoints.chars?_ofString, Option.map_some, Option.some_inj] at yes no
            exact List.not_mem_cons_of_ne_of_not_mem yes (List.not_mem_cons_of_ne_of_not_mem no nofun)

/-! ## The whole -/

theorem ofDocument_buildsTo (admits : schema.Admits doc) : BuildsTo doc (ofDocument doc) := by
  have packed : Identifier (lowercase (trim "f62a9f56-f29e-48a8-a317-47ee37a58999".toList)) :=
    isUuid_iff.mp (by decide)
  unfold ofDocument
  dsimp only
  rcases characteristic_reads admits _ packed with ⟨misnamed, reads⟩ | ⟨named, uuid, reads⟩
  · rw [reads]
    exact .misnamed misnamed
  rw [reads]
  have scanning : ("scan_timeout_s", [.kind [.number], .positive]) ∈ schema.fields := by decide
  rcases seconds_read admits (.ofNat 10) scanning with ⟨large, reads⟩ | ⟨scan, x, reads⟩
  · rw [reads]
    exact .longScan named large
  obtain ⟨proposal, proposed⟩ := proposal_reads admits
  rw [reads, proposed]
  rcases flag_reads admits true with ⟨misworded, reads⟩ | ⟨worded, flag, reads⟩
  · rw [reads]
    exact .misworded named scan misworded
  rw [reads]
  have connecting : ("connect_timeout_s", [.kind [.number], .positive]) ∈ schema.fields := by decide
  rcases seconds_read admits (.ofNat 10) connecting with ⟨large, reads⟩ | ⟨connect, y, reads⟩
  · rw [reads]
    exact .longConnect named scan worded large
  · rw [reads]
    exact .built _ named scan worded connect

/-- A configuration comes of the document, or the document is refused as invalid, and it is refused
    exactly if its characteristic or its truth value cannot be read. -/
def BuildsSoundly (doc : Document) : Prop :=
  ((∃ config, ofDocument doc = .ok config) ∨
    ∃ fault, ofDocument doc = .error fault ∧ fault.failure? = some .configInvalid) ∧
  ((∃ fault, ofDocument doc = .error fault) ↔ Misnamed doc ∨ Misworded doc)

/-- The building of a document that the schema admits is sound, unless a timeout that is read before
    anything unreadable is too large. -/
theorem builds_soundly_iff {stack : Stack} {source : String}
    (accepted : validate stack source (.map doc) = .ok ()) :
    (BuildsSoundly doc ↔ Misnamed doc ∨ ¬ Oversized doc "scan_timeout_s" ∧
      (Misworded doc ∨ ¬ Oversized doc "connect_timeout_s")) ∧
    ((∃ config, ofDocument doc = .ok config) ↔ ¬ Misnamed doc ∧ ¬ Misworded doc ∧
      ¬ Oversized doc "scan_timeout_s" ∧ ¬ Oversized doc "connect_timeout_s") ∧
    ∀ fault, ofDocument doc = .error fault →
      fault.failure? = some .configInvalid ∨ fault = .mismatch .tooLarge := by
  have admits : schema.Admits doc := by
    rw [← Schema.violation_eq_none_iff]
    unfold validate at accepted
    split at accepted
    · cases accepted
    · assumption
  have ends := ofDocument_buildsTo admits
  unfold BuildsSoundly
  generalize ofDocument doc = result at ends ⊢
  cases ends with
  | misnamed misnamed => simp [misnamed, Fault.failure?]
  | longScan named large => simp [named, large, Fault.failure?]
  | misworded named scan misworded => simp [named, scan, misworded, Fault.failure?]
  | longConnect named scan worded large => simp [named, scan, worded, large, Fault.failure?]
  | built config named scan worded connect => simp [named, scan, worded, connect]

/-- The greatest integer that has a number nearest to it, beside a word with blanks and capitals. -/
theorem builds_soundly_largest :
    let doc : Document := [(.text "diagnostics", .scalar (.text " TRUE ")),
      (.text "scan_timeout_s", .scalar (.int (Binary64.leastBeyond - 1)))]
    validate .unbounded "a.yaml" (.map doc) = .ok () ∧ BuildsSoundly doc := by
  intro doc
  have unviolated : (schema.violation? (.map doc)).isNone := by decide +kernel
  have accepted : validate .unbounded "a.yaml" (.map doc) = .ok () := by
    rw [validate, Option.isNone_iff_eq_none.mp unviolated]
  refine ⟨accepted, (builds_soundly_iff accepted).1.mpr (.inr ⟨?_, .inr ?_⟩)⟩
  · rintro ⟨i, given, large⟩
    have found : Value.lookup? (.text "scan_timeout_s") doc =
      some (.scalar (.int (Binary64.leastBeyond - 1))) := rfl
    rw [found, Option.some.injEq, Value.scalar.injEq, Scalar.int.injEq] at given
    rw [← given] at large
    exact absurd large (by decide +kernel)
  · rintro ⟨i, given, large⟩
    have absent : Value.lookup? (.text "connect_timeout_s") doc = none := rfl
    rw [absent] at given
    cases given

/-- The integer after it is admitted, but nothing comes of it. -/
theorem build_exceeds_range :
    let doc : Document := [(.text "scan_timeout_s", .scalar (.int Binary64.leastBeyond))]
    validate .unbounded "a.yaml" (.map doc) = .ok () ∧ ¬ BuildsSoundly doc := by
  intro doc
  have unviolated : (schema.violation? (.map doc)).isNone := by decide +kernel
  have accepted : validate .unbounded "a.yaml" (.map doc) = .ok () := by
    rw [validate, Option.isNone_iff_eq_none.mp unviolated]
  have fails : (faultOf? (ofDocument doc)).map Fault.failure? = some none := by decide +kernel
  refine ⟨accepted, fun sound => ?_⟩
  rcases sound.1 with ⟨config, built⟩ | ⟨fault, failed, invalid⟩
  · rw [built] at fails
    cases fails
  · rw [failed, faultOf?, Option.map_some, invalid] at fails
    cases fails

end BezelStream.Config
