import BezelStream.Yaml.Tree
import BezelStream.Proofs.Yaml.Reading

/-! # What the tree of a text is

The tokens of a text make a tree unless they are malformed or one of them is a flaw. The tree has
no scalars and no tags but those of the text.
-/

namespace BezelStream.Yaml

/-- Properties whose tag is one of the text, if they have one. -/
def Properties.Of (text : List Token) (props : Properties) : Prop :=
  props.tag ≠ none → ∃ handle suffix, .tag handle suffix ∈ text

namespace Tree

/-- A tree with the scalars and tags of a text. What is left out is an empty plain scalar. -/
inductive Of (text : List Token) : Tree → Prop where
  | reference {name : String} : Of text (.alias name)
  | scalar {props : Properties} {t : CodePoints} {plain : Bool} (tagged : props.Of text)
      (worded : .scalar t plain ∈ text ∨ t = [] ∧ plain = true) : Of text (.scalar props t plain)
  | sequence {props : Properties} {items : List Tree} (tagged : props.Of text)
      (each : ∀ item ∈ items, Of text item) : Of text (.sequence props items)
  | mapping {props : Properties} {entries : List (Tree × Tree)} (tagged : props.Of text)
      (keys : ∀ entry ∈ entries, Of text entry.1) (values : ∀ entry ∈ entries, Of text entry.2) :
      Of text (.mapping props entries)

abbrev ItemsOf (text : List Token) (items : List Tree) : Prop :=
  ∀ item ∈ items, item.Of text

abbrev EntriesOf (text : List Token) (entries : List (Tree × Tree)) : Prop :=
  ∀ entry ∈ entries, entry.1.Of text ∧ entry.2.Of text

variable {α : Type} {text tokens : List Token} {handles : Handles} {fuel : Nat}

theorem untagged_of {anchor : Option String} : Properties.Of text ⟨anchor, none⟩ :=
  fun tagged => absurd rfl tagged

theorem absent_of : absent.Of text :=
  .scalar untagged_of (.inr ⟨rfl, rfl⟩)

theorem mapping_of {props : Properties} {entries : List (Tree × Tree)} (tagged : props.Of text)
    (each : EntriesOf text entries) : (mapping props entries).Of text :=
  .mapping tagged (fun entry member => (each entry member).1) fun entry member =>
    (each entry member).2

/-- Why tokens make no tree. -/
abbrev Refusal (text : List Token) (flaw : Flaw) : Prop :=
  flaw = .malformed ∨ .flawed flaw ∈ text

/-- What a reader of part of the tokens comes to. -/
abbrev Parses (text : List Token) (holds : α → Prop) (x : Except Flaw (α × List Token)) : Prop :=
  GivesOrFails (fun read => holds read.1 ∧ read.2 <:+ text) (Refusal text) x

theorem behind {token : Token} {rest : List Token} (inside : token :: rest <:+ text) :
    rest <:+ text :=
  (List.suffix_cons token rest).trans inside

theorem refuse_gives (holds : α × List Token → Prop) (inside : tokens <:+ text) :
    GivesOrFails holds (Refusal text) (refuse tokens) := by
  unfold refuse
  split
  · exact .inr (inside.subset List.mem_cons_self)
  · exact .inl rfl

/-- What is read after a part is put behind it. -/
theorem cons_parses {holds : α → Prop} {read : Except Flaw (List α × List Token)}
    (reads : Parses text (fun more => ∀ a ∈ more, holds a) read) (first : α) (one : holds first) :
    Parses text (fun all => ∀ a ∈ all, holds a) (do
      let (more, rest) ← read
      return (first :: more, rest)) :=
  reads.bind fun _ ⟨others, after⟩ => ⟨List.forall_mem_cons.mpr ⟨one, others⟩, after⟩

theorem comma_gives (inside : tokens <:+ text) :
    GivesOrFails (· <:+ text) (Refusal text) (comma tokens) := by
  unfold comma
  split
  · exact behind inside
  · exact .inr (inside.subset List.mem_cons_self)
  · exact .inl rfl

theorem tagOf_gives (handles : Handles) (handle : Option String) (suffix : String) :
    GivesOrFails (fun _ => True) (Refusal text) (tagOf handles handle suffix) := by
  unfold tagOf
  split
  · trivial
  · split
    · trivial
    · exact .inl rfl

theorem properties_parse (inside : tokens <:+ text) :
    Parses text (Properties.Of text) (properties handles tokens) := by
  unfold properties
  split
  · have among := inside.subset (List.mem_cons_of_mem _ List.mem_cons_self)
    exact (tagOf_gives handles _ _).bind fun _ _ => ⟨fun _ => ⟨_, _, among⟩, behind (behind inside)⟩
  · have among := inside.subset List.mem_cons_self
    exact (tagOf_gives handles _ _).bind fun _ _ => ⟨fun _ => ⟨_, _, among⟩, behind (behind inside)⟩
  · exact ⟨untagged_of, behind inside⟩
  · have among := inside.subset List.mem_cons_self
    exact (tagOf_gives handles _ _).bind fun _ _ => ⟨fun _ => ⟨_, _, among⟩, behind inside⟩
  · exact ⟨untagged_of, inside⟩

theorem bare_parses {props : Properties} (tagged : props.Of text) (inside : tokens <:+ text) :
    Parses text (Of text) (node.bare props tokens) := by
  unfold node.bare
  split
  · exact refuse_gives _ inside
  · exact ⟨.scalar tagged (.inr ⟨rfl, rfl⟩), inside⟩

/-- What all readers of nodes and of their parts come to with so much fuel. -/
structure Parsing (text : List Token) (handles : Handles) (fuel : Nat) : Prop where
  node : ∀ context tokens, tokens <:+ text →
    Parses text (Of text) (node handles context fuel tokens)
  nodeOrAbsent : ∀ context ends tokens, tokens <:+ text →
    Parses text (Of text) (nodeOrAbsent handles context ends fuel tokens)
  blockItems : ∀ tokens, tokens <:+ text →
    Parses text (ItemsOf text) (blockItems handles fuel tokens)
  plainItems : ∀ tokens, tokens <:+ text →
    Parses text (ItemsOf text) (plainItems handles fuel tokens)
  blockEntries : ∀ tokens, tokens <:+ text →
    Parses text (EntriesOf text) (blockEntries handles fuel tokens)
  flowItems : ∀ first tokens, tokens <:+ text →
    Parses text (ItemsOf text) (flowItems handles first fuel tokens)
  flowEntries : ∀ first tokens, tokens <:+ text →
    Parses text (EntriesOf text) (flowEntries handles first fuel tokens)

namespace Parsing

theorem nodeOrAbsent_succ (parsing : Parsing text handles fuel) (context : Context)
    (ends : List Token) (inside : tokens <:+ text) :
    Parses text (Of text) (Tree.nodeOrAbsent handles context ends (fuel + 1) tokens) := by
  rw [Tree.nodeOrAbsent]
  exact .ite ⟨absent_of, inside⟩ (parsing.node context tokens inside)

theorem blockItems_succ (parsing : Parsing text handles fuel) (inside : tokens <:+ text) :
    Parses text (ItemsOf text) (Tree.blockItems handles (fuel + 1) tokens) := by
  unfold Tree.blockItems
  split
  · exact .inl rfl
  next same =>
    cases same
    refine (parsing.nodeOrAbsent _ _ _ (behind inside)).bind fun (item, rest) ⟨one, left⟩ => ?_
    exact cons_parses (parsing.blockItems rest left) item one
  · exact ⟨nofun, behind inside⟩
  · exact refuse_gives _ inside

theorem plainItems_succ (parsing : Parsing text handles fuel) (inside : tokens <:+ text) :
    Parses text (ItemsOf text) (Tree.plainItems handles (fuel + 1) tokens) := by
  unfold Tree.plainItems
  split
  · exact .inl rfl
  next same =>
    cases same
    refine (parsing.nodeOrAbsent _ _ _ (behind inside)).bind fun (item, rest) ⟨one, left⟩ => ?_
    exact cons_parses (parsing.plainItems rest left) item one
  · exact ⟨nofun, inside⟩

/-- An entry with or without a value, and what is made of it. -/
theorem entry_parses (parsing : Parsing text handles fuel) (context : Context)
    (ends valueEnds : List Token) {holds : α → Prop} {next : Tree → Tree → Reader α}
    (goes : ∀ key value rest, key.Of text ∧ value.Of text → rest <:+ text →
      Parses text holds (next key value rest))
    (inside : tokens <:+ text) : Parses text holds (do
      let (key, rest) ← Tree.nodeOrAbsent handles context ends fuel tokens
      match rest with
      | .value :: rest => do
        let (value, rest) ← Tree.nodeOrAbsent handles context valueEnds fuel rest
        next key value rest
      | rest => next key absent rest) := by
  refine (parsing.nodeOrAbsent context ends tokens inside).bind fun (key, rest) ⟨keyed, left⟩ => ?_
  dsimp only
  split
  · exact (parsing.nodeOrAbsent context valueEnds _ (behind left)).bind
      fun (value, rest) ⟨valued, left⟩ => goes key value rest ⟨keyed, valued⟩ left
  · exact goes key absent rest ⟨keyed, absent_of⟩ left

theorem blockEntries_succ (parsing : Parsing text handles fuel) (inside : tokens <:+ text) :
    Parses text (EntriesOf text) (Tree.blockEntries handles (fuel + 1) tokens) := by
  have more (key value : Tree) (rest : List Token) (both : key.Of text ∧ value.Of text)
      (left : rest <:+ text) :=
    cons_parses (parsing.blockEntries rest left) (key, value) both
  unfold Tree.blockEntries
  split
  · exact .inl rfl
  next same =>
    cases same
    exact parsing.entry_parses _ _ _ more (behind inside)
  · exact ⟨nofun, behind inside⟩
  · exact refuse_gives _ inside

/-- The items of a flow sequence from where one may begin. -/
theorem begunItems_parse (parsing : Parsing text handles fuel) :
    tokens <:+ text → Parses text (ItemsOf text) (match tokens with
    | .flowSequenceEnd :: rest => return ([], rest)
    | .key :: rest => do
      let (key, rest) ←
        Tree.nodeOrAbsent handles .flow [.value, .flowEntry, .flowSequenceEnd] fuel rest
      let (value, rest) ← match rest with
        | .value :: rest => Tree.nodeOrAbsent handles .flow [.flowEntry, .flowSequenceEnd] fuel rest
        | rest => pure (absent, rest)
      let (items, rest) ← Tree.flowItems handles false fuel rest
      return (.mapping {} [(key, value)] :: items, rest)
    | tokens => do
      let (item, rest) ← Tree.node handles .flow fuel tokens
      let (items, rest) ← Tree.flowItems handles false fuel rest
      return (item :: items, rest)) := by
  intro inside
  have more (item : Tree) (rest : List Token) (one : item.Of text) (left : rest <:+ text) :=
    cons_parses (parsing.flowItems false rest left) item one
  have single (key value : Tree) (rest : List Token) (both : key.Of text ∧ value.Of text) :=
    more (.mapping {} [(key, value)]) rest
      (mapping_of untagged_of (List.forall_mem_singleton.mpr both))
  split
  · exact ⟨nofun, behind inside⟩
  · exact parsing.entry_parses _ _ _ single (behind inside)
  · exact (parsing.node _ _ inside).bind fun (item, rest) ⟨one, left⟩ => more item rest one left

theorem flowItems_succ (parsing : Parsing text handles fuel) (first : Bool)
    (inside : tokens <:+ text) :
    Parses text (ItemsOf text) (Tree.flowItems handles first (fuel + 1) tokens) := by
  have begun {tokens : List Token} (inside : tokens <:+ text) := parsing.begunItems_parse inside
  unfold Tree.flowItems
  split
  · exact .inl rfl
  · exact ⟨nofun, behind inside⟩
  next same _ =>
    cases same
    exact .ite (begun inside) ((comma_gives inside).bind fun _ => begun)

/-- The entries of a flow mapping from where one may begin. -/
theorem begunEntries_parse (parsing : Parsing text handles fuel) :
    tokens <:+ text → Parses text (EntriesOf text) (match tokens with
    | .flowMappingEnd :: rest => return ([], rest)
    | .key :: rest => do
      let (key, rest) ←
        Tree.nodeOrAbsent handles .flow [.value, .flowEntry, .flowMappingEnd] fuel rest
      let (value, rest) ← match rest with
        | .value :: rest => Tree.nodeOrAbsent handles .flow [.flowEntry, .flowMappingEnd] fuel rest
        | rest => pure (absent, rest)
      let (entries, rest) ← Tree.flowEntries handles false fuel rest
      return ((key, value) :: entries, rest)
    | tokens => do
      let (key, rest) ← Tree.node handles .flow fuel tokens
      let (entries, rest) ← Tree.flowEntries handles false fuel rest
      return ((key, absent) :: entries, rest)) := by
  intro inside
  have more (key value : Tree) (rest : List Token) (both : key.Of text ∧ value.Of text)
      (left : rest <:+ text) :=
    cons_parses (parsing.flowEntries false rest left) (key, value) both
  split
  · exact ⟨nofun, behind inside⟩
  · exact parsing.entry_parses _ _ _ more (behind inside)
  · exact (parsing.node _ _ inside).bind fun (key, rest) ⟨keyed, left⟩ =>
      more key absent rest ⟨keyed, absent_of⟩ left

theorem flowEntries_succ (parsing : Parsing text handles fuel) (first : Bool)
    (inside : tokens <:+ text) :
    Parses text (EntriesOf text) (Tree.flowEntries handles first (fuel + 1) tokens) := by
  have begun {tokens : List Token} (inside : tokens <:+ text) := parsing.begunEntries_parse inside
  unfold Tree.flowEntries
  split
  · exact .inl rfl
  · exact ⟨nofun, behind inside⟩
  next same _ =>
    cases same
    exact .ite (begun inside) ((comma_gives inside).bind fun _ => begun)

theorem node_succ (parsing : Parsing text handles fuel) (context : Context)
    (inside : tokens <:+ text) :
    Parses text (Of text) (Tree.node handles context (fuel + 1) tokens) := by
  unfold Tree.node
  split
  · exact .inl rfl
  · exact ⟨.reference, behind inside⟩
  next same _ =>
    cases same
    refine (properties_parse inside).bind fun (props, rest) ⟨tagged, left⟩ => ?_
    have bare := bare_parses tagged left
    dsimp only
    split
    · refine .ite ?_ bare
      exact (parsing.plainItems _ left).bind fun _ ⟨each, after⟩ => ⟨.sequence tagged each, after⟩
    · exact ⟨.scalar tagged (.inl (left.subset List.mem_cons_self)), behind left⟩
    · exact (parsing.flowItems true _ (behind left)).bind fun _ ⟨each, after⟩ =>
        ⟨.sequence tagged each, after⟩
    · exact (parsing.flowEntries true _ (behind left)).bind fun _ ⟨each, after⟩ =>
        ⟨mapping_of tagged each, after⟩
    · exact .ite bare ((parsing.blockItems _ (behind left)).bind fun _ ⟨each, after⟩ =>
        ⟨.sequence tagged each, after⟩)
    · exact .ite bare ((parsing.blockEntries _ (behind left)).bind fun _ ⟨each, after⟩ =>
        ⟨mapping_of tagged each, after⟩)
    · exact bare

end Parsing

/-- Whatever the fuel, a reader of nodes or of their parts refuses tokens only if they are
    malformed or a flaw is among them. -/
theorem parsing (text : List Token) (handles : Handles) (fuel : Nat) :
    Parsing text handles fuel := by
  induction fuel with
  | zero =>
      constructor
      all_goals
        intros
        exact .inl rfl
  | succ fuel ih =>
      exact ⟨fun context _ => ih.node_succ context, fun context ends _ =>
        ih.nodeOrAbsent_succ context ends, fun _ => ih.blockItems_succ, fun _ => ih.plainItems_succ,
        fun _ => ih.blockEntries_succ, fun first _ => ih.flowItems_succ first,
        fun first _ => ih.flowEntries_succ first⟩

theorem directives_parse (version : Bool) (inside : tokens <:+ text) :
    ReadsWithin text (Refusal text) (directives version handles tokens) := by
  induction tokens generalizing version handles with
  | nil => exact inside
  | cons token rest ih =>
      have further := behind inside
      unfold directives
      split
      next same =>
        cases same
        exact .ite (.inl rfl) (ih true further)
      next same =>
        cases same
        exact .ite (.inl rfl) (ih _ further)
      next same =>
        cases same
        exact ih _ further
      · exact inside

theorem documentEnd_gives (inside : tokens <:+ text) :
    GivesOrFails (fun _ => True) (Refusal text) (documentEnd tokens) := by
  induction tokens with
  | nil => exact .inl rfl
  | cons token rest ih =>
      unfold documentEnd
      split
      next same =>
        cases same
        exact ih (behind inside)
      · trivial
      next same =>
        cases same
        exact .inr (inside.subset List.mem_cons_self)
      · exact .inl rfl

/-- Tokens make a tree of them, or none if there is no document. -/
abbrev MakesTree (text : List Token) (x : Except Flaw (Option Tree)) : Prop :=
  GivesOrFails (fun document => ∀ tree ∈ document, tree.Of text) (Refusal text) x

theorem ended_gives {tree : Tree} (made : tree.Of text) (inside : tokens <:+ text) :
    MakesTree text (do
      documentEnd tokens
      return some tree) :=
  (documentEnd_gives inside).bind fun _ _ => by
    rintro _ ⟨⟩
    exact made

/-- A document that is marked as such makes a tree in the same way. -/
theorem headed_gives (tokens : List Token) : MakesTree tokens (do
      let (handles, rest) ← directives false [] tokens
      match rest with
      | .documentStart :: rest =>
        let ends := startsWith rest [.documentStart, .documentEnd, .streamEnd]
        let (tree, rest) ←
          if ends || document?.startsWithDirective rest then pure (absent, rest)
          else node handles .block (4 * tokens.length + 16) rest
        documentEnd rest
        return some tree
      | rest => return (← refuse rest).1) := by
  refine (directives_parse false List.suffix_rfl).bind fun (handles, rest) left => ?_
  dsimp only
  split
  · have further := behind left
    refine .ite (ended_gives absent_of further) ?_
    exact ((parsing tokens handles _).node _ _ further).bind fun (tree, _) ⟨made, left⟩ =>
      ended_gives made left
  · exact (refuse_gives (fun read => ∀ tree ∈ read.1, Of tokens tree) left).bind fun _ made => made

/-- Tokens make a tree of them, or none if there is no document, unless they are malformed or a
    flaw is among them. -/
theorem document_gives (tokens : List Token) : MakesTree tokens (document? tokens) := by
  unfold document?
  dsimp only
  split
  · exact nofun
  · exact headed_gives _
  · exact headed_gives _
  · exact ((parsing tokens defaultHandles _).node _ _ List.suffix_rfl).bind
      fun (tree, _) ⟨made, left⟩ => ended_gives made left

theorem ofTokens_makesTree (tokens : List Token) : MakesTree tokens (ofTokens? tokens) := by
  have given := document_gives tokens
  unfold ofTokens?
  cases read : document? tokens with
  | ok => exact given.ok read
  | error flaw =>
      change Refusal tokens (if namesFit [] tokens then flaw else .malformed)
      split
      · exact given.error read
      · exact .inl rfl

theorem ofTokens_gives (tokens : List Token) :
    GivesOrFails (fun _ => True) (Refusal tokens) (ofTokens? tokens) :=
  (ofTokens_makesTree tokens).imp (fun _ _ => trivial) fun _ refusal => refusal

end Tree

end BezelStream.Yaml
