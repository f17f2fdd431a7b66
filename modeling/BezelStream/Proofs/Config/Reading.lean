import BezelStream.CommandLine.Run
import BezelStream.Proofs.Yaml.Denoting
import BezelStream.Proofs.Yaml.Drafting
import BezelStream.Proofs.Yaml.Lexing
import BezelStream.Proofs.Yaml.Parsing

/-! # Why a file gives no document

A file that can be read gives a document, or a fault that the program reports, or one that it has
no name for. The latter has a cause in the file: its bytes are no text, a number of its text is out
of range, the stack does not suffice for it, a node of its document does not fit, or a key that
stands twice cannot be told.
-/

namespace BezelStream

open CommandLine

namespace Config

/-- Why bytes come to a fault that the program has no name for. -/
inductive Unforeseen (stack : Stack) (bytes : List UInt8) : Mismatch → Prop where
  | undecodable (none : Text.decodeUtf8? bytes = none) : Unforeseen stack bytes .undecodable
  | number {cs : List Char} {reason : Mismatch} (decoded : Text.decodeUtf8? bytes = some cs)
      (range : Yaml.OutOfRange (Text.unifyLineEnds cs) reason) : Unforeseen stack bytes reason
  | tooDeep {cs : List Char} (decoded : Text.decodeUtf8? bytes = some cs)
      (deep : stack.loads (String.ofList (Text.unifyLineEnds cs)) = false) :
      Unforeseen stack bytes .tooDeep
  | unfit {cs : List Char} {tokens : List Yaml.Token} {tree : Yaml.Tree} {graph : Yaml.Graph}
      {root : Nat} {reason : Mismatch} (decoded : Text.decodeUtf8? bytes = some cs)
      (lexed : Yaml.tokens (Text.unifyLineEnds cs) = .ok tokens)
      (parsed : Yaml.Tree.ofTokens? tokens = .ok (some tree))
      (drafted : Yaml.Graph.ofTree tree = .ok (graph, root)) (unfit : graph.Unfit reason) :
      Unforeseen stack bytes reason
  /-- A key that stands twice has too many digits to be told. -/
  | key {cs : List Char} {key : Scalar} (decoded : Text.decodeUtf8? bytes = some cs)
      (twice : Yaml.load stack (String.ofList (Text.unifyLineEnds cs)) =
        .error (.duplicateKey key))
      (long : key.isWritable = false) : Unforeseen stack bytes .badValue

section

variable {stack : Stack} {bytes : List UInt8} {cs : List Char}

/-- What a document of these bytes may fail for. -/
def Foreseen (stack : Stack) (bytes : List UInt8) (flaw : Yaml.Flaw) : Prop :=
  ∀ reason, flaw = .mismatch reason → Unforeseen stack bytes reason

theorem valueIn_gives (decoded : Text.decodeUtf8? bytes = some cs) :
    Yaml.GivesOrFails Value.IsKeyed (Foreseen stack bytes)
      (Yaml.valueIn (String.ofList (Text.unifyLineEnds cs))) := by
  have malformed : Foreseen stack bytes .malformed := nofun
  have lexes := Yaml.tokens_gives (Text.unifyLineEnds cs)
  unfold Yaml.valueIn
  rw [String.toList_ofList]
  refine .through (fun f failed => lexes.error failed ▸ malformed) fun tokens lexed => ?_
  have parses := Yaml.Tree.ofTokens_gives tokens
  refine .through (fun f failed => ?_) fun found parsed => ?_
  · rcases parses.error failed with rfl | member
    · exact malformed
    · obtain ⟨reason, rfl, range⟩ := lexes.ok lexed f member
      rintro _ ⟨⟩
      exact .number decoded range
  cases found with
  | none => exact nofun
  | some tree =>
      have drafts := Yaml.Graph.ofTree_gives tree
      refine .through (fun f failed => drafts.error failed ▸ malformed) fun ⟨graph, root⟩ drafted => ?_
      refine (Yaml.valueOf_gives graph root).imp (fun _ denotes => denotes.isKeyed) fun f fails => ?_
      rintro reason rfl
      cases fails with
      | unfit unfit => exact .unfit decoded lexed parsed drafted unfit

theorem load_gives (stack : Stack) (decoded : Text.decodeUtf8? bytes = some cs) :
    Yaml.GivesOrFails Value.IsKeyed (Foreseen stack bytes)
      (Yaml.load stack (String.ofList (Text.unifyLineEnds cs))) := by
  unfold Yaml.load
  split
  · exact valueIn_gives decoded
  next deep =>
    rintro _ ⟨⟩
    exact .tooDeep decoded (Bool.not_eq_true _ ▸ deep)

end

variable {stack : Stack} {files : Files} {path : Path} {place : List String} {bytes : List UInt8}

/-- No key of a document stands twice. -/
theorem readDocument_keyed {doc : Document} (read : readDocument stack files path = .ok doc) :
    Keyed doc := by
  unfold readDocument Files.readText at read
  split at read
  · cases read
  · cases read
  next =>
    split at read
    next cs decoded =>
      change documentOf stack path (String.ofList (Text.unifyLineEnds cs)) = .ok doc at read
      unfold documentOf at read
      split at read
      · cases read
      · cases read
        exact .nil
      next entries loaded =>
        cases read
        exact (load_gives stack decoded).ok loaded _ rfl
      · cases read
    · cases read

/-- A file gives a document, or its fault is a configuration that is not valid, or it has a cause
    that the program has no name for. -/
theorem readDocument_fails (stands : files.find path = .ok (place, .file bytes)) {f : Fault}
    (failed : readDocument stack files path = .error f) :
    f.failure? = some .configInvalid ∨
      ∃ reason, f = .mismatch reason ∧ Unforeseen stack bytes reason := by
  unfold readDocument Files.readText at failed
  rw [stands] at failed
  dsimp only at failed
  cases decoded : Text.decodeUtf8? bytes with
  | none =>
      rw [decoded] at failed
      cases failed
      exact .inr ⟨.undecodable, rfl, .undecodable decoded⟩
  | some cs =>
      rw [decoded] at failed
      have loads := load_gives stack decoded
      change documentOf stack path (String.ofList (Text.unifyLineEnds cs)) = .error f at failed
      unfold documentOf at failed
      split at failed
      next flaw loaded =>
        cases failed
        have foreseen := loads.error loaded
        cases flaw with
        | malformed => exact .inl rfl
        | duplicateKey key =>
            cases told : key.isWritable with
            | true =>
                rw [faultOf, told]
                exact .inl rfl
            | false =>
                rw [faultOf, told]
                exact .inr ⟨.badValue, rfl, .key decoded loaded told⟩
        | mismatch reason => exact .inr ⟨reason, rfl, foreseen reason rfl⟩
      · cases failed
      · cases failed
      · cases failed
        exact .inl rfl

section

variable {σ : Type} {c : Console σ} {options : Options} {explicit : Option Path}
  {warnings : List String} {f : Fault} {p q : Progress σ Unit}

theorem load_unread {ρ : Type} {p q : Progress σ ρ}
    (chosen : (overriding files explicit).runFrom p = (.ok (some path, warnings), q))
    (unread : readDocument stack files path = .error f) :
    (load stack files explicit).runFrom p = (.error f, q) := by
  rw [load, Op.runFrom_bind, chosen]
  dsimp only
  rw [Op.runFrom_bind, Op.runFrom_ofResult, unread]

/-- A run that cannot be configured ends at once, in the way of the fault. -/
theorem execute_unconfigured (failed : (configure c options).runFrom p = (.error f, q))
    (command : Command) : (execute c (.run command options)).runFrom p = (endingOf f).runFrom q := by
  have runs : (runCommand c options command).runFrom p = (.error f, q) := by
    rw [runCommand, Op.runFrom_bind, failed]
  rw [execute, Op.runFrom_bind, Op.runFrom_attempt, runs]

theorem execute_unread (chosen : (overriding c.files (options.config.map Path.ofText)).runFrom p =
      (.ok (some path, warnings), q)) (unread : readDocument c.stack c.files path = .error f)
    (command : Command) :
    (execute c (.run command options)).runFrom p = (endingOf f).runFrom q := by
  refine execute_unconfigured ?_ command
  rw [configure, Op.runFrom_bind, load_unread chosen unread]

end

/-- A file that can be read gives a document, or a fault. The fault is a configuration that is not
    valid, and then a run over this file tells it and ends with code 1, or it has a cause in the
    file, and then the run ends with it unexpectedly. -/
theorem read_fails (stack : Stack) (stands : files.find path = .ok (place, .file bytes)) :
    (∃ doc, readDocument stack files path = .ok doc) ∨
      ∃ f, readDocument stack files path = .error f ∧
        (f.failure? = some .configInvalid ∨
          ∃ reason, f = .mismatch reason ∧ Unforeseen stack bytes reason) ∧
        ∀ {σ : Type} (c : Console σ) (command : Command) (options : Options)
          (warnings : List String) (p q : Progress σ Unit), c.stack = stack → c.files = files →
          (overriding files (options.config.map Path.ofText)).runFrom p =
            (.ok (some path, warnings), q) →
          (execute c (.run command options)).runFrom p =
            if f.failure?.isSome then
              (.ok { code := 1 },
                q.note (.printed .error (plain ("Error: " ++ f.message) ++ "\n")))
            else (.ok { code := 1, unexpected := some f }, q) := by
  cases read : readDocument stack files path with
  | ok doc => exact .inl ⟨doc, rfl⟩
  | error f =>
      have known := readDocument_fails stands read
      refine .inr ⟨f, rfl, known, fun c command options warnings p q same holds chosen => ?_⟩
      subst same holds
      rw [execute_unread chosen read command]
      rcases known with named | ⟨reason, rfl, -⟩
      · unfold endingOf
        rw [named]
        rfl
      · rfl

/-- A tree with one file in the working directory. -/
def lone (name : String) (bytes : List UInt8) : Files where
  entries := [([name], .file bytes)]
  working := []
  home := "/"
  configHome := none

/-- A console over these files, without any adapter. -/
def consoleOver (files : Files) : Console Unit where
  files := files
  locate := fun _ => .fail .noAdapter
  readLine := .pure none
  platform := "linux"
  hasTool := true

/-- A key that stands twice is told. -/
theorem read_fails_twice :
    let files := lone "a.yaml" (Text.encodeUtf8 "a: 1\na: 2\n".toList)
    let p : Progress Unit Unit := ⟨(), [], false, ()⟩
    (execute (consoleOver files) (.run .stream { config := some "a.yaml" })).runFrom p =
      (.ok { code := 1 },
        p.note (.printed .error "Error: Duplicate key 'a' in YAML document\n")) := by
  intro files p
  have named : (faultOf? (readDocument .unbounded files (.ofText "a.yaml"))).map
      (fun f => (f.failure?, plain ("Error: " ++ f.message))) =
        some (some .configInvalid, "Error: Duplicate key 'a' in YAML document") := by
    decide +kernel
  have stands : files.find (.ofText "a.yaml") =
      .ok (["a.yaml"], .file (Text.encodeUtf8 "a: 1\na: 2\n".toList)) := by
    decide +kernel
  have chosen : (overriding files (some (.ofText "a.yaml"))).runFrom p =
      (.ok (some (.ofText "a.yaml"), []), p) := by
    have explicit : files.fileAt? (.ofText "a.yaml") = some ["a.yaml"] := by decide +kernel
    have user : files.userFile? = none := by decide +kernel
    unfold overriding
    rw [user]
    dsimp only
    rw [explicit]
    rfl
  rcases read_fails .unbounded stands with ⟨doc, read⟩ | ⟨f, read, -, runs⟩
  · rw [read] at named
    cases named
  · rw [read] at named
    obtain ⟨failure, text⟩ := Prod.mk.inj (Option.some.inj named)
    rw [runs (consoleOver files) .stream { config := some "a.yaml" } [] p p rfl rfl chosen, failure,
      text]
    rfl

/-- Bytes that are no text, a list as a key and a mapping as a moment are faults that the program has
    no name for, and so is any text that the stack does not suffice for. -/
theorem read_unforeseen :
    let failure (stack : Stack) (bytes : List UInt8) : Option (Option Failure) :=
      (faultOf? (readDocument stack (lone "a.yaml" bytes) (.ofText "a.yaml"))).map Fault.failure?
    failure .unbounded [0xFF] = some none ∧
      failure .unbounded (Text.encodeUtf8 "? []\n".toList) = some none ∧
      failure .unbounded (Text.encodeUtf8 "a: !!timestamp \x7b=: 2001-01-01\x7d\n".toList) =
        some none ∧
      failure { Stack.unbounded with loads := fun _ => false }
        (Text.encodeUtf8 "[[]]\n".toList) = some none := by
  decide +kernel

end Config

end BezelStream
