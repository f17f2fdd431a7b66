import BezelStream.Config.Loading
import BezelStream.Proofs.Yaml.Repeating

/-! # Entries of a document

No mapping of a document loses an entry: it has one for each pair of its node, in the order of the
text, and a text in which a mapping has two equal keys does not load. Only a set changes this, which
takes the merge keys out of the mappings that it merges.
-/

namespace BezelStream

namespace Yaml

/-- The graph of the document in a text and its root, if there is a document. -/
def compose (text : String) : Except Flaw (Option (Graph × Nat)) := do
  match ← Tree.ofTokens? (← tokens text.toList) with
  | none => return none
  | some tree => return some (← Graph.ofTree tree)

theorem valueIn_eq_compose (text : String) :
    valueIn text = (compose text).bind fun
      | none => .ok (.scalar .null)
      | some (graph, root) => valueOf graph root := by
  unfold valueIn compose
  cases tokens text.toList with
  | error => rfl
  | ok found =>
      change (Tree.ofTokens? found >>= _) = Except.bind (Tree.ofTokens? found >>= _) _
      cases Tree.ofTokens? found with
      | error => rfl
      | ok document =>
          cases document with
          | none => rfl
          | some tree =>
              change (Graph.ofTree tree >>= _) =
                Except.bind (Graph.ofTree tree >>= fun drafted => pure (some drafted)) _
              cases Graph.ofTree tree with
              | error => rfl
              | ok => rfl

/-- What a text loads as: absence, or what the root of its graph denotes. -/
inductive LoadsAs (text : String) : Value → Prop where
  | absent (composed : compose text = .ok none) : LoadsAs text (.scalar .null)
  | document {graph : Graph} {root : Nat} {value : Value}
      (composed : compose text = .ok (some (graph, root))) (denotes : graph.Denotes [] root value) :
      LoadsAs text value

/-- A text that would load if no keys clashed, and whose construction then reaches a mapping with
    two pairs whose keys are equal scalars. -/
inductive HasEqualKeys (text : String) (graph : Graph) : Prop where
  | reached {root id : Nat} {site : Site} {own : List (Nat × Nat)} {first second : Nat × Nat}
      {a b : Key} (composed : compose text = .ok (some (graph, root)))
      (constructed : construct Key.apart graph root = .ok site)
      (stands : graph[id]? = some (.mapping .map own)) (built : (site.shape? id).isSome)
      (listed : [first, second].Sublist own) (earlier : site.shape? first.1 = some (.scalar a))
      (later : site.shape? second.1 = some (.scalar b)) (equal : a.value.equals b.value = true) :
      HasEqualKeys text graph

section

variable {stack : Stack} {text : String} {value : Value} {graph : Graph}

theorem unbounded_loads (text : String) : Stack.unbounded.loads text = true :=
  rfl

/-- Where the stack suffices, it does not matter. -/
theorem load_of_loads (enough : stack.loads text = true) : load stack text = valueIn text :=
  if_pos enough

theorem valueIn_of_load (loaded : load stack text = .ok value) : valueIn text = .ok value := by
  unfold load at loaded
  split at loaded
  · exact loaded
  · cases loaded

/-- A text has the value of its graph. -/
theorem load_of_compose {root : Nat} (enough : stack.loads text = true)
    (composed : compose text = .ok (some (graph, root)))
    (denoted : valueOf graph root = .ok value) : load stack text = .ok value := by
  rw [load_of_loads enough, valueIn_eq_compose, composed]
  exact denoted

theorem loadsAs_of_load (loaded : load stack text = .ok value) : LoadsAs text value := by
  have loaded := valueIn_of_load loaded
  rw [valueIn_eq_compose] at loaded
  cases composed : compose text with
  | error => rw [composed] at loaded; cases loaded
  | ok found =>
      rw [composed] at loaded
      cases found with
      | none =>
          cases loaded
          exact .absent composed
      | some drafted =>
          obtain ⟨graph, root⟩ := drafted
          exact .document composed ((valueOf_gives graph root).ok loaded)

theorem load_refuses (enough : stack.loads text = true) (twice : HasEqualKeys text graph) :
    ∃ key, graph.Repeats Key.same key ∧ load stack text = .error (.duplicateKey key.value) := by
  cases twice with
  | @reached root _ _ _ _ _ _ _ composed constructed stands built listed earlier later equal =>
      obtain ⟨key, repeats, refused⟩ :=
        valueOf_refuses constructed stands built listed earlier later equal
      refine ⟨key, repeats, ?_⟩
      rw [load_of_loads enough, valueIn_eq_compose, composed]
      exact refused

end

end Yaml

namespace Config

open Yaml (Graph Key LoadsAs HasEqualKeys)

/-- What a text loads as has an entry for each pair of each mapping that it follows. Where a mapping
    has two equal keys, and nothing else stands against it, the text is refused for a key that
    stands twice, and the fault names the key if it can be written. -/
theorem load_keeps_entries (stack : Stack) (text : String) :
    (∀ value, Yaml.load stack text = .ok value → LoadsAs text value) ∧
      (stack.loads text = true → ∀ graph, HasEqualKeys text graph →
        ∃ key : Key, graph.Repeats Key.same key ∧
          Yaml.load stack text = .error (.duplicateKey key.value) ∧
          (key.value.isWritable = true → ∀ path, ∃ f, documentOf stack path text = .error f ∧
            f.failure? = some .configInvalid ∧
            f.message =
              "Duplicate key '" ++ key.value.written.printed ++ "' in YAML document")) := by
  refine ⟨fun value => Yaml.loadsAs_of_load, fun enough graph twice => ?_⟩
  obtain ⟨key, repeats, refused⟩ := Yaml.load_refuses enough twice
  refine ⟨key, repeats, refused, fun writable path => ⟨.duplicateKey key.value, ?_, rfl, rfl⟩⟩
  rw [documentOf, refused]
  dsimp only
  rw [faultOf, if_pos writable]

/-- The graph of a document that has one mapping twice. -/
def sharedGraph : Graph :=
  #[.sequence .seq [1, 1], .mapping .map [(2, 3), (4, 5)], .scalar .int "1", .scalar .str "a",
    .scalar .int "0x2", .scalar .str "b"]

theorem valueOf_sharedGraph : Yaml.valueOf sharedGraph 0 =
    .ok (.list [.map [(.int 1, .scalar (.text "a")), (.int 2, .scalar (.text "b"))],
      .map [(.int 1, .scalar (.text "a")), (.int 2, .scalar (.text "b"))]]) := by
  rfl

/-- The graph of a mapping with an integer and a number with a point as its keys. -/
def twiceGraph : Graph :=
  #[.mapping .map [(1, 2), (3, 4)], .scalar .int "1", .scalar .str "a", .scalar .float "1.0",
    .scalar .str "b"]

/-- An integer and a number with a point are one key if they measure the same. -/
theorem hasEqualKeys_twiceGraph : HasEqualKeys "{1: a, 1.0: b}\n" twiceGraph := by
  have composed : Yaml.compose "{1: a, 1.0: b}\n" = .ok (some (twiceGraph, 0)) := by decide +kernel
  let one : Key := .scalar (.int 1)
  let point : Key := .scalar (.float (.finite false (2 ^ 52) (-52)))
  have built : (Yaml.construct Key.apart twiceGraph 0).toOption.map (fun site =>
      ((site.shape? 0).isSome, site.shape? 1, site.shape? 3)) =
        some (true, some (.scalar one), some (.scalar point)) := by decide +kernel
  cases constructed : Yaml.construct Key.apart twiceGraph 0 with
  | error =>
      rw [constructed] at built
      cases built
  | ok site =>
      rw [constructed] at built
      obtain ⟨there, first, second⟩ : (site.shape? 0).isSome = true ∧
          site.shape? 1 = some (.scalar one) ∧ site.shape? 3 = some (.scalar point) := by
        simpa only [Prod.mk.injEq] using Option.some.inj built
      exact .reached composed constructed rfl there (.refl _) first second (by decide +kernel)

/-- Escapes of two halves, of both together and of the character that they could stand for. -/
def halvesText : String :=
  "\x7b\"\\uD83D\": 1, \"\\uDE00\": 2, \"\\uD83D\\uDE00\": 3, \"\\U0001F600\": 4\x7d\n"

/-- The graph of a mapping whose keys are two halves, and then both of them and the character that
    they could stand for. -/
def halvesGraph : Graph :=
  #[.mapping .map [(1, 2), (3, 4), (5, 6), (7, 8)], .scalar .str [.ofNat 0xD83D],
    .scalar .int "1", .scalar .str [.ofNat 0xDE00], .scalar .int "2",
    .scalar .str [.ofNat 0xD83D, .ofNat 0xDE00], .scalar .int "3", .scalar .str [.ofNat 0x1F600],
    .scalar .int "4"]

theorem valueOf_halvesGraph : Yaml.valueOf halvesGraph 0 =
    .ok (.map [(.text [.ofNat 0xD83D], .scalar (.int 1)), (.text [.ofNat 0xDE00], .scalar (.int 2)),
      (.text [.ofNat 0xD83D, .ofNat 0xDE00], .scalar (.int 3)),
      (.text [.ofNat 0x1F600], .scalar (.int 4))]) := by
  rfl

/-- A mapping that stands twice keeps its entries, halves that escapes spell are keys of their own,
    and a mapping with one key twice is refused. -/
theorem load_keeps_shared_refuses_twice :
    (∃ value, Yaml.load .unbounded "[&m {1: a, 0x2: b}, *m]\n" = .ok value ∧
        LoadsAs "[&m {1: a, 0x2: b}, *m]\n" value) ∧
      (∃ entries, Yaml.load .unbounded halvesText = .ok (.map entries) ∧
        LoadsAs halvesText (.map entries) ∧ entries.length = 4) ∧
      HasEqualKeys "{1: a, 1.0: b}\n" twiceGraph ∧
      ∃ key : Key, twiceGraph.Repeats Key.same key ∧
        Yaml.load .unbounded "{1: a, 1.0: b}\n" = .error (.duplicateKey key.value) := by
  have shared : Yaml.compose "[&m {1: a, 0x2: b}, *m]\n" = .ok (some (sharedGraph, 0)) := by
    decide +kernel
  have halves : Yaml.compose halvesText = .ok (some (halvesGraph, 0)) := by decide +kernel
  have loaded := Yaml.load_of_compose (Yaml.unbounded_loads _) shared valueOf_sharedGraph
  have apart := Yaml.load_of_compose (Yaml.unbounded_loads _) halves valueOf_halvesGraph
  have kept := (load_keeps_entries _ _).1 _ loaded
  have keptApart := (load_keeps_entries _ _).1 _ apart
  obtain ⟨key, repeats, refused, -⟩ :=
    (load_keeps_entries .unbounded _).2 (Yaml.unbounded_loads _) _ hasEqualKeys_twiceGraph
  exact ⟨⟨_, loaded, kept⟩, ⟨_, apart, keptApart, rfl⟩, hasEqualKeys_twiceGraph, key, repeats,
    refused⟩

/-- The graph of a document in which a set merges a mapping that has a merge key. -/
def mergedGraph : Graph :=
  #[.sequence .seq [1, 8], .mapping .set [(2, 3)], .scalar .merge "<<",
    .mapping .map [(4, 5), (6, 7)], .scalar .merge "<<", .mapping .map [], .scalar .str "y",
    .scalar .int "2", .sequence .seq [3]]

theorem valueOf_mergedGraph : Yaml.valueOf mergedGraph 0 =
    .ok (.list [.set [.text "y"], .list [.map [(.text "y", .scalar (.int 2))]]]) := by
  rfl

/-- Once a set has merged a mapping, the merge keys of the mapping are gone. Here the mapping has two
    pairs, one of them under a merge key, and what it loads as has one entry. -/
theorem load_drops_merge_key :
    ∃ entries : List (Scalar × Value),
      Yaml.compose "[!!set {<<: &m {<<: {}, y: 2}}, [*m]]\n" = .ok (some (mergedGraph, 0)) ∧
        mergedGraph[0]? = some (.sequence .seq [1, 8]) ∧
        mergedGraph[8]? = some (.sequence .seq [3]) ∧
        mergedGraph[3]? = some (.mapping .map [(4, 5), (6, 7)]) ∧
        Yaml.load .unbounded "[!!set {<<: &m {<<: {}, y: 2}}, [*m]]\n" =
          .ok (.list [.set [.text "y"], .list [.map entries]]) ∧
        entries.length = 1 := by
  have composed : Yaml.compose "[!!set {<<: &m {<<: {}, y: 2}}, [*m]]\n" =
      .ok (some (mergedGraph, 0)) := by decide +kernel
  have loaded := Yaml.load_of_compose (Yaml.unbounded_loads _) composed valueOf_mergedGraph
  exact ⟨_, composed, rfl, rfl, rfl, loaded, rfl⟩

end Config

end BezelStream
