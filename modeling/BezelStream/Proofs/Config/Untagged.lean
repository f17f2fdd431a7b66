import BezelStream.Proofs.Config.Entries
import BezelStream.Proofs.Yaml.Labelling
import BezelStream.Proofs.Yaml.Lexing

/-! # Documents without tags

A text without tags never loads as a value with a truth value in it. Its plain scalars are what they
are by the rules that the language comes with, except for the words of truth values, which are
texts.
-/

namespace BezelStream

/-- A scalar that is somewhere in a value, be it as a key. -/
inductive Value.Holds (s : Scalar) : Value → Prop where
  | scalar : Holds s (.scalar s)
  | item {items : List Value} {item : Value} (listed : item ∈ items) (holds : Holds s item) :
      Holds s (.list items)
  | key {entries : List (Scalar × Value)} {value : Value} (listed : (s, value) ∈ entries) :
      Holds s (.map entries)
  | value {entries : List (Scalar × Value)} {key : Scalar} {value : Value}
      (listed : (key, value) ∈ entries) (holds : Holds s value) : Holds s (.map entries)
  | member {members : List Scalar} (listed : s ∈ members) : Holds s (.set members)
  | first {first second : Value} (holds : Holds s first) : Holds s (.pair first second)
  | second {first second : Value} (holds : Holds s second) : Holds s (.pair first second)

namespace Yaml

variable {stack : Stack} {graph : Graph} {id : Nat} {around : List Nat} {text : String}
  {value : Value}

theorem Key.value_ofNode (id : Nat) (text : CodePoints) (s : Scalar) :
    (ofNode id text s).value = s := by
  unfold ofNode
  split
  next none => exact none.1.symm
  next => rfl

namespace Graph

/-- A truth value is read of a node that has the tag for it. -/
theorem KeyIs.bool_tag {b : Bool} (is : graph.KeyIs id (.bool b)) :
    ∃ node ∈ graph, node.tag = .bool := by
  obtain ⟨_, reads, same⟩ := is
  cases reads with
  | read stands becomes own spells reads =>
      rw [Key.value_ofNode] at same
      have tagged := readScalar_bool (same ▸ reads)
      refine ⟨_, Array.mem_of_getElem? stands, ?_⟩
      rcases becomes with own | ⟨-, spelled⟩
      · rw [← own, tagged]
      · cases tagged.symm.trans spelled

/-- Where nothing is a set, all that a value holds is read of nodes. -/
theorem Denotes.held (setless : ∀ node ∈ graph, node.tag ≠ .set)
    (denotes : graph.Denotes around id value) {s : Scalar} (holds : value.Holds s) :
    ∃ id, graph.KeyIs id s := by
  induction denotes with
  | scalar is =>
      cases holds
      exact ⟨_, is⟩
  | list stands outside each ih =>
      cases holds with
      | item listed holds =>
          obtain ⟨item, among, rfl⟩ := List.mem_map.mp listed
          exact ih item among holds
  | pairs stands tagged outside single first second firsts seconds =>
      cases holds with
      | item listed holds =>
          obtain ⟨pair, among, rfl⟩ := List.mem_map.mp listed
          cases holds with
          | first holds => exact firsts pair among holds
          | second holds => exact seconds pair among holds
  | set stands =>
      -- Members of sets may be taken over, so what is denoted leaves them open.
      exact absurd rfl (setless _ (Array.mem_of_getElem? stands))
  | map stands outside spreads keys values keyed ih =>
      cases holds with
      | key listed =>
          obtain ⟨pair, among, same⟩ := List.mem_map.mp listed
          cases same
          exact ⟨_, keys pair among⟩
      | value listed holds =>
          obtain ⟨pair, among, same⟩ := List.mem_map.mp listed
          cases same
          exact ih pair among holds
  | empty =>
      cases holds with
      | key listed => cases listed
      | value listed => cases listed
  | again => cases holds

end Graph

/-- No node of the text has a tag in front of it. -/
def Untagged (text : String) : Prop :=
  ∀ found, tokens text.toList = .ok found → ∀ handle suffix, .tag handle suffix ∉ found

/-- A plain scalar of the text. A node that is left out is an empty one. -/
def HasPlain (text : String) (t : CodePoints) : Prop :=
  ∃ found, tokens text.toList = .ok found ∧ (.scalar t true ∈ found ∨ t = [])

/-- The value in a text whose plain scalars get tags of their own. -/
def valueInLabelled (label : String → Tag) (text : String) : Except Flaw Value := do
  match ← Tree.ofTokens? (← tokens text.toList) with
  | none => return .scalar .null
  | some tree =>
    let (graph, root) ← Graph.ofTree (tree.labelled label)
    valueOf graph root

/-- That value, if the stack suffices for the text. -/
def loadLabelled (stack : Stack) (label : String → Tag) (text : String) : Except Flaw Value :=
  if stack.loads text then valueInLabelled label text else .error (.mismatch .tooDeep)

theorem PlainLook.empty : PlainLook "" :=
  ⟨by decide, by decide⟩

theorem labels_labelOf {found : List Token} (lexed : tokens text.toList = .ok found) :
    Labels labelOf found where
  listed s member := by
    obtain ⟨other, same, look⟩ := plainLook_of_tokens lexed member
    rw [CodePoints.ofString_inj.mp same]
    exact look.resolve_eq_labelOf.symm
  absent := PlainLook.empty.resolve_eq_labelOf.symm

/-- The plain scalars of a text can be labelled with their stock tags, or as texts where those make
    truth values of them, and nothing changes. -/
theorem valueIn_eq_valueInLabelled (text : String) :
    valueIn text = valueInLabelled labelOf text := by
  refine bind_eq_bind fun found lexed => bind_eq_bind fun document parsed => ?_
  cases document with
  | none => rfl
  | some tree =>
      have of := (Tree.ofTokens_makesTree found).ok parsed tree rfl
      change (Graph.ofTree tree >>= _) = (Graph.ofTree (tree.labelled labelOf) >>= _)
      rw [Graph.ofTree_labelled (labels_labelOf lexed) of]

/-- Without tags in the text, all tags of its graph are implicit ones. -/
theorem compose_implicit (untagged : Untagged text) :
    GivesOrFails (fun composed => ∀ made ∈ composed, ∀ node ∈ made.1, node.tag ∈ Tag.implicit)
      (fun _ => True) (compose text) := by
  refine .through (fun _ _ => trivial) fun found lexed => ?_
  refine .through (fun _ _ => trivial) fun document parsed => ?_
  cases document with
  | none => exact nofun
  | some tree =>
      have of := (Tree.ofTokens_makesTree found).ok parsed tree rfl
      refine .through (fun _ _ => trivial) fun made drafted => ?_
      rintro _ ⟨⟩ node member
      exact of.implicit (untagged found lexed) _ ((Graph.ofTree_tags tree).ok drafted node member)

/-- A text without tags loads without truth values. -/
theorem not_holds_bool (untagged : Untagged text) (loaded : load stack text = .ok value) (b : Bool) :
    ¬ value.Holds (.bool b) := by
  intro holds
  cases loadsAs_of_load loaded with
  | absent => cases holds
  | document composed denotes =>
      have tagged := (compose_implicit untagged).ok composed _ rfl
      have setless : Tag.set ∉ Tag.implicit := by decide
      have truthless : Tag.bool ∉ Tag.implicit := by decide
      obtain ⟨id, is⟩ := denotes.held
        (fun node member same => setless (same ▸ tagged node member)) holds
      obtain ⟨node, member, same⟩ := is.bool_tag
      exact truthless (same ▸ tagged node member)

/-- How a plain scalar is read: as by the rules that the language comes with, if it is no truth
    value by these, and as a text otherwise. -/
structure ReadsTruthless (s : String) : Prop where
  /-- It is looked up in the table of the language without the rule for truth values. -/
  table : resolve s = (stockTable.without .bool).tagOf s
  truth : (∃ b, readStock s = .ok (.bool b)) ↔ s ∈ Look.truthWords
  word : s ∈ Look.truthWords → readScalar (resolve s) s = .ok (.text s)
  other : s ∉ Look.truthWords → resolve s = stockTag s ∧ readScalar (resolve s) s = readStock s

theorem PlainLook.readsTruthless {s : String} (look : PlainLook s) : ReadsTruthless s where
  table := resolve_eq_tagOf look.first
  truth := look.readStock_bool_iff
  word among := by rw [resolve_truthWord among, readScalar]
  other none := by
    have same : Yaml.resolve s = stockTag s := by rw [look.resolve, if_neg none]
    exact ⟨same, by rw [same, readStock]⟩

end Yaml

namespace Config

open Yaml (Graph Untagged HasPlain ReadsTruthless loadLabelled labelOf)

/-- A text without tags loads without a truth value anywhere. Its plain scalars are what they are by
    the rules that the language comes with, except for the words of truth values, which are
    texts. -/
theorem load_untagged (stack : Stack) {text : String} (untagged : Untagged text) :
    (∀ value, Yaml.load stack text = .ok value → ∀ b, ¬ value.Holds (.bool b)) ∧
      Yaml.load stack text = loadLabelled stack labelOf text ∧
      ∀ t, HasPlain text t → ∃ s : String, t = s ∧ ReadsTruthless s := by
  refine ⟨fun value loaded => Yaml.not_holds_bool untagged loaded, ?_, ?_⟩
  · rw [Yaml.load, loadLabelled, Yaml.valueIn_eq_valueInLabelled]
  · rintro t ⟨found, lexed, member | rfl⟩
    · obtain ⟨s, rfl, look⟩ := Yaml.plainLook_of_tokens lexed member
      exact ⟨s, rfl, look.readsTruthless⟩
    · exact ⟨"", rfl, Yaml.PlainLook.empty.readsTruthless⟩

/-- The graph of a mapping whose keys are truth words, and whose values are one list. -/
def wordsGraph : Graph :=
  #[.mapping .map [(1, 2), (5, 2)], .scalar .str "yes", .sequence .seq [3, 4], .scalar .str "off",
    .scalar .int "0x1F", .scalar .str "On"]

theorem valueOf_wordsGraph : Yaml.valueOf wordsGraph 0 =
    .ok (.map [(.text "yes", .list [.scalar (.text "off"), .scalar (.int 31)]),
      (.text "On", .list [.scalar (.text "off"), .scalar (.int 31)])]) := by
  rfl

/-- Truth words are texts as keys and in a list, also where an alias stands for the list. -/
theorem load_words_as_texts :
    ∃ value, Untagged "yes: &l [off, 0x1F]\nOn: *l\n" ∧
      Yaml.load .unbounded "yes: &l [off, 0x1F]\nOn: *l\n" = .ok value ∧
      value.Holds (.text "off") ∧ (∀ b, ¬ value.Holds (.bool b)) ∧
      loadLabelled .unbounded labelOf "yes: &l [off, 0x1F]\nOn: *l\n" = .ok value ∧
      Yaml.readScalar (Yaml.resolve "yes") "yes" = .ok (.text "yes") := by
  have lexed : Yaml.tokens "yes: &l [off, 0x1F]\nOn: *l\n".toList = .ok [.blockMappingStart, .key,
      .scalar "yes" true, .value, .anchor "l", .flowSequenceStart, .scalar "off" true, .flowEntry,
      .scalar "0x1F" true, .flowSequenceEnd, .key, .scalar "On" true, .value, .alias "l", .blockEnd,
      .streamEnd] := by decide +kernel
  have composed : Yaml.compose "yes: &l [off, 0x1F]\nOn: *l\n" = .ok (some (wordsGraph, 0)) := by
    decide +kernel
  have untagged : Untagged "yes: &l [off, 0x1F]\nOn: *l\n" := by
    intro found same handle suffix
    cases lexed.symm.trans same
    simp
  have loaded := Yaml.load_of_compose (Yaml.unbounded_loads _) composed valueOf_wordsGraph
  obtain ⟨truthless, labelled, plain⟩ := load_untagged .unbounded untagged
  have word : HasPlain "yes: &l [off, 0x1F]\nOn: *l\n" "yes" := ⟨_, lexed, .inl (by simp)⟩
  obtain ⟨s, same, reads⟩ := plain _ word
  obtain rfl := CodePoints.ofString_inj.mp same
  refine ⟨_, untagged, loaded, ?_, truthless _ loaded, labelled.symm.trans loaded,
    reads.word (by decide)⟩
  exact .value List.mem_cons_self (.item List.mem_cons_self .scalar)

end Config

end BezelStream
