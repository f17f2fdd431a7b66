import BezelStream.Config

/-! # What a schema admits

`Schema.Admits` says of a document as a whole what the check looks for key by key. The check finds
no violation in a document exactly if the schema admits it.
-/

namespace BezelStream.Schema

/-- Every key of the document is a field, and the value of a field meets all that is demanded. -/
structure Admits (schema : Schema) (doc : Document) : Prop where
  known : ∀ entry ∈ doc, ∃ field ∈ schema.fields, entry.1 = .text field.1
  met : ∀ field ∈ schema.fields, ∀ value, Value.lookup? (.text field.1) doc = some value →
    ∀ demand ∈ field.2, demand.isMet value = true

variable {schema : Schema} {doc : Document}

theorem fieldViolation_eq_none_iff {field : String} {demands : List Demand} :
    fieldViolation? doc field demands = none ↔
      ∀ value, Value.lookup? (.text field) doc = some value →
        ∀ demand ∈ demands, demand.isMet value = true := by
  unfold fieldViolation?
  cases Value.lookup? (.text field) doc with
  | none => simp
  | some value => simp [List.find?_eq_none]

theorem surplusKeys_eq_nil_iff :
    schema.surplusKeys doc = [] ↔
      ∀ entry ∈ doc, ∃ field ∈ schema.fields, entry.1 = .text field.1 := by
  simp only [surplusKeys, List.filter_eq_nil_iff, List.forall_mem_map, Bool.not_eq_true',
    Bool.not_eq_false, List.any_eq_true, decide_eq_true_eq]

/-- The check has nothing against a document exactly if the schema admits it. -/
theorem violation_eq_none_iff : schema.violation? (.map doc) = none ↔ schema.Admits doc := by
  have fields : schema.fields.findSome? (fun field => fieldViolation? doc field.1 field.2) = none ↔
      ∀ field ∈ schema.fields, ∀ value, Value.lookup? (.text field.1) doc = some value →
        ∀ demand ∈ field.2, demand.isMet value = true := by
    rw [List.findSome?_eq_none_iff]
    exact forall₂_congr fun field _ => fieldViolation_eq_none_iff
  rw [violation?, documentViolation?]
  cases surplus : schema.surplusKeys doc with
  | nil =>
      have known := surplusKeys_eq_nil_iff.mp surplus
      exact fields.trans ⟨fun met => ⟨known, met⟩, fun admits => admits.met⟩
  | cons key keys =>
      refine ⟨fun none => absurd none (Option.some_ne_none _), fun admits => ?_⟩
      rw [surplusKeys_eq_nil_iff.mpr admits.known] at surplus
      cases surplus

end BezelStream.Schema
