import BezelStream.Yaml.Loading
import BezelStream.Proofs.Yaml.Resolving
import Mathlib.Tactic.FinCases

/-! # Integers of any length

A line that gives a field an integer in base sixteen has the value that its digits are read as,
however many there are. The word is followed through the reading stage by stage: no stage looks
into it but the ones that tell its kind and read it.
-/

namespace BezelStream.Yaml

open Text

/-- The digits of base sixteen in lower case. -/
def sixteenths : List Char :=
  ['0', '1', '2', '3', '4', '5', '6', '7', '8', '9', 'a', 'b', 'c', 'd', 'e', 'f']

/-- The characters of an integer in base sixteen. -/
def spellers : List Char :=
  'x' :: sixteenths

section

variable {c : Char} {word : List Char}

theorem after_speller (speller : c ∈ spellers) (p : Place) (next : Char) :
    p.after c next = ⟨p.index + 1, p.line, p.column + 1⟩ := by
  unfold spellers sixteenths at speller
  fin_cases speller <;> rfl

theorem not_stopsPlain (speller : c ∈ spellers) (next : Char) : stopsPlain false c next = false := by
  unfold spellers sixteenths at speller
  fin_cases speller <;> rfl

theorem plainRun_word (spells : ∀ d ∈ word, d ∈ spellers) (p : Place) :
    plainRun false (Source.ofCharsAt p (word ++ ['\n'])) =
      (word, Source.ofCharsAt ⟨p.index + word.length, p.line, p.column + word.length⟩ ['\n']) := by
  induction word generalizing p with
  | nil => rfl
  | cons c rest ih =>
      obtain ⟨speller, others⟩ := List.forall_mem_cons.mp spells
      rw [List.cons_append, Source.ofCharsAt, after_speller speller, plainRun]
      dsimp only
      rw [not_stopsPlain speller, if_neg Bool.false_ne_true, ih others]
      simp only [List.length_cons, Nat.add_assoc, Nat.add_comm 1]

/-- A plain scalar of one word ends with its line. -/
theorem plainText_word (spells : ∀ d ∈ c :: word, d ∈ spellers) (p : Place) (fuel : Nat) :
    plainText false 1 (fuel + 1) [] false (Source.ofCharsAt p (c :: word ++ ['\n'])) =
      (c :: word, true, Source.ofCharsAt ⟨p.index + word.length + 2, p.line + 1, 0⟩ []) := by
  have start : (Source.ofCharsAt p (c :: word ++ ['\n'])).peek ≠ '#' := by
    have other : '#' ∉ spellers := by decide
    exact ne_of_mem_of_not_mem (spells c List.mem_cons_self) other
  have ends (q : Place) : plainSpace (Source.ofCharsAt q ['\n']) =
      ([' '], true, Source.ofCharsAt ⟨q.index + 1, q.line + 1, 0⟩ []) := rfl
  rw [plainText, if_neg start, plainRun_word spells]
  dsimp only
  rw [ends, if_neg (by simp), if_pos (by simp [Source.ofCharsAt, Source.column, Source.place])]
  rfl

end

/-! ## The tokens -/

/-- The name of the field that the line is about. -/
def fieldName : List Char :=
  ['t', 'a', 'r', 'g', 'e', 't', '_', 'i', 'd', 'e', 'n', 't', 'i', 'f', 'i', 'e', 'r']

section

variable {word rest : List Char} {fuel n : Nat} {read : Array Token} {name : Token}

/-- The reading of the line behind the name, which turns out to be a key. -/
def atColon (name : Token) (word : List Char) : Lexer where
  source := Source.ofCharsAt ⟨17, 0, 17⟩ (':' :: ' ' :: '0' :: word ++ ['\n'])
  tokens := #[name]
  allowsKey := false
  candidates := [(0, ⟨0, false, {}⟩)]

/-- The reading inside the block that the key opened. -/
def inBlock (read : Array Token) (p : Place) (rest : List Char) (allowsKey : Bool) : Lexer where
  source := Source.ofCharsAt p rest
  tokens := read
  indent := 0
  outer := [-1]
  allowsKey := allowsKey

/-- A token that is read and does not end the reading. -/
theorem run_step {x y z : Lexer} (skips : x.skipToToken.dropLapsed = .ok y)
    (stays : y.closeBlocks y.source.column = y) (more : y.source.peek ≠ endMark)
    (reads : y.token = .ok z) (left : z.source ≠ []) :
    Lexer.run (fuel + 1) x = Lexer.run fuel z := by
  rw [Lexer.run, skips]
  change (if (y.closeBlocks y.source.column).source.peek = endMark then _ else _) = _
  rw [stays, if_neg more, reads]
  dsimp only [bind, Except.bind]
  split
  · next none => exact absurd none left
  · rfl

theorem run_name :
    let source := Source.ofChars (fieldName ++ ':' :: ' ' :: '0' :: word ++ ['\n'])
    Lexer.run (fuel + 1) { source } =
      Lexer.run fuel (atColon (.scalar (String.ofList fieldName) true) word) := by
  intro source
  let x : Lexer := { source }
  let behind := atColon (.scalar (String.ofList fieldName) true) word
  have saved : x.saveCandidate = .ok { x with candidates := behind.candidates } := rfl
  have reads : x.token = .ok behind := by
    change x.plainScalar = _
    rw [Lexer.plainScalar, saved]
    rfl
  exact run_step (y := x) rfl rfl (by decide : 't' ≠ endMark) reads nofun

theorem run_colon : Lexer.run (fuel + 1) (atColon name word) =
    Lexer.run fuel (inBlock #[.blockMappingStart, .key, name, .value] ⟨18, 0, 18⟩
      (' ' :: '0' :: word ++ ['\n']) false) := by
  have inserted : ((#[name].insertIdxIfInBounds 0 .key).insertIdxIfInBounds 0 .blockMappingStart) =
      #[.blockMappingStart, .key, name] := by
    simp [Array.insertIdxIfInBounds]
  have run : Lexer.run (fuel + 1) (atColon name word) = Lexer.run fuel (inBlock
      (((#[name].insertIdxIfInBounds 0 .key).insertIdxIfInBounds 0 .blockMappingStart).push .value)
      ⟨18, 0, 18⟩ (' ' :: '0' :: word ++ ['\n']) false) := by
    rfl
  rw [run, inserted]
  rfl

theorem run_word (spells : ∀ d ∈ '0' :: word, d ∈ spellers) :
    Lexer.run (fuel + 1) (inBlock read ⟨18, 0, 18⟩ (' ' :: '0' :: word ++ ['\n']) false) =
      Lexer.run fuel (inBlock (read.push (.scalar (String.ofList ('0' :: word)) true))
        ⟨19 + word.length + 2, 1, 0⟩ [] true) := by
  let x := inBlock read ⟨19, 0, 19⟩ ('0' :: word ++ ['\n']) false
  have text : plainText x.inFlow (x.indent + 1) x.source.length [] false x.source =
      ('0' :: word, true, Source.ofCharsAt ⟨19 + word.length + 2, 1, 0⟩ []) :=
    plainText_word spells ⟨19, 0, 19⟩ _
  have unsaved : x.saveCandidate = .ok x := rfl
  have reads : x.token = .ok (inBlock (read.push (.scalar (String.ofList ('0' :: word)) true))
      ⟨19 + word.length + 2, 1, 0⟩ [] true) := by
    change x.plainScalar = _
    rw [Lexer.plainScalar, unsaved]
    dsimp only [bind, Except.bind]
    rw [text, CodePoints.ofString_ofList]
    rfl
  exact run_step (y := x) rfl rfl (by decide : '0' ≠ endMark) reads nofun

theorem run_end : Lexer.run (fuel + 1) (inBlock read ⟨n + 1, 1, 0⟩ [] true) =
    .ok ((read.push .blockEnd).push .streamEnd) := by
  rfl

end

theorem tokens_spelled {word : List Char} (spells : ∀ d ∈ '0' :: word, d ∈ spellers) :
    tokens (fieldName ++ ':' :: ' ' :: '0' :: word ++ ['\n']) =
      .ok [.blockMappingStart, .key, .scalar (String.ofList fieldName) true, .value,
        .scalar (String.ofList ('0' :: word)) true, .blockEnd, .streamEnd] := by
  have allowed : (fieldName ++ ':' :: ' ' :: '0' :: word ++ ['\n']).all isAllowed = true := by
    have front : (fieldName ++ [':', ' ']).all isAllowed = true := by decide
    have each : spellers.all isAllowed = true := by decide
    have within : ('0' :: word).all isAllowed = true :=
      List.all_eq_true.mpr fun d among => List.all_eq_true.mp each d (spells d among)
    have whole : fieldName ++ ':' :: ' ' :: '0' :: word ++ ['\n'] =
        (fieldName ++ [':', ' ']) ++ ('0' :: word) ++ ['\n'] := rfl
    rw [whole, List.all_append, List.all_append, front, within]
    decide
  have runs : Lexer.run ((Source.ofChars (fieldName ++ ':' :: ' ' :: '0' :: word ++ ['\n'])).length + 1)
      { source := Source.ofChars (fieldName ++ ':' :: ' ' :: '0' :: word ++ ['\n']) } = .ok _ :=
    run_name.trans (run_colon.trans ((run_word spells).trans run_end))
  rw [tokens, if_pos allowed]
  dsimp only
  rw [runs]
  rfl

/-! ## The look -/

section

open Pattern

theorem accepts_never (cs : List Char) : Pattern.never.accepts cs = false := by
  induction cs with
  | nil => rfl
  | cons c rest ih => exact ih

theorem accepts_star {ranges : List (Char × Char)} {cs : List Char}
    (within : ∀ c ∈ cs, ranges.any (fun (a, b) => a ≤ c && c ≤ b) = true) :
    (Pattern.star (.oneOf ranges)).accepts cs = true := by
  induction cs with
  | nil => rfl
  | cons c rest ih =>
      obtain ⟨first, others⟩ := List.forall_mem_cons.mp within
      rw [accepts, derivative, derivative, if_pos first]
      exact ih others

/-- A word in base sixteen looks like an integer and not like another number. -/
theorem resolve_spelled {d : Char} {digits : List Char} (spells : ∀ c ∈ d :: digits, c ∈ sixteenths) :
    resolve (String.ofList ('0' :: 'x' :: d :: digits)) = .int := by
  let ranges := [('0', '9'), ('a', 'f'), ('A', 'F'), ('_', '_')]
  have each : sixteenths.all (fun c => ranges.any fun (a, b) => a ≤ c && c ≤ b) = true := by decide
  have within := List.all_eq_true.mp each
  have visible : visiblePart ('0' :: 'x' :: d :: digits) = '0' :: 'x' :: d :: digits := by
    refine if_neg fun ⟨last, _⟩ => ?_
    have other : '\n' ∉ sixteenths := by decide
    rcases List.mem_cons.mp (List.mem_of_getLast? last) with is | among
    · exact absurd is (by decide)
    rcases List.mem_cons.mp among with is | among
    · exact absurd is (by decide)
    exact other (spells _ among)
  have float : Look.float.accepts ('0' :: 'x' :: d :: digits) = false := by
    have none : (Look.float.derivative '0').derivative 'x' = .never := by decide +kernel
    rw [accepts, accepts, none]
    exact accepts_never _
  have int : Look.int.accepts ('0' :: 'x' :: d :: digits) = true := by
    have left : (Look.int.derivative '0').derivative 'x' =
        .seq (.oneOf ranges) (.star (.oneOf ranges)) := by decide +kernel
    obtain ⟨first, others⟩ := List.forall_mem_cons.mp spells
    rw [accepts, accepts, left, accepts, derivative, derivative, if_pos (within d first)]
    exact accepts_star fun c among => within c (others c among)
  have order : rules = (.float, Look.float) :: (.int, Look.int) :: rules.drop 2 := by decide +kernel
  rw [resolve, resolveBy, String.toList_ofList, visible, order]
  simp only [List.find?_cons, float, int]

end

/-! ## The value -/

theorem scalarText_runs {site : Site} {id fuel : Nat} {tag : Tag} {text : CodePoints}
    (node : site.nodes[id]? = some (.scalar tag text)) :
    (Building.scalarText (fuel + 1) id).run site = .ok (text, site) := by
  simp [Building.scalarText, Building.nodeAt, node]
  rfl

/-- Building a scalar that is not built yet gives it what its text is read as. -/
theorem build_scalar {clash : Key → Key → Bool} {site : Site} {id fuel : Nat} {tag : Tag}
    {text : CodePoints} {s : Scalar} (kind : tag = .str ∨ tag = .int)
    (node : site.nodes[id]? = some (.scalar tag text))
    (unbuilt : (site.shapes[id]?).join = none) (idle : id ∉ site.active)
    (read : readScalar tag text = .ok s) :
    (Building.build clash (fuel + 1) id).run site =
      .ok ((), { site with
        shapes := site.shapes.setIfInBounds id (some (.scalar (.ofNode id text s))) }) := by
  have spells {other : Site} (same : other.nodes = site.nodes) (fuel : Nat) :
      (Building.scalarText (fuel + 1) id).run other = .ok (text, other) :=
    scalarText_runs (by rw [same]; exact node)
  have made : Building.scalarOf (.scalar tag text) text = .ok s := read
  rw [Building.build]
  rcases kind with rfl | rfl
  all_goals
    simp only [Building.shapeAt?, bind_pure_comp, List.contains_eq_mem, decide_eq_true_eq,
      Building.nodeAt, Node.tag, Building.setShape, LawfulMonadStateOf.modify_bind_modify,
      List.isEmpty_iff, bind_assoc, bind_map_left, StateT.run_bind,
      StateT.run_get, pure_bind, unbuilt, Option.isSome_none, Bool.false_eq_true, ↓reduceIte, idle,
      StateT.run_modify, node, StateT.run_pure, StateT.run_monadLift, monadLift_self,
      Function.comp_apply, Functor.map_map, spells]
    dsimp only [bind, Except.bind]
    rw [made]
    simp

theorem valueOf_entry {name text : CodePoints} {i : Int}
    (read : readScalar .int text = .ok (.int i)) :
    valueOf #[.mapping .map [(1, 2)], .scalar .str name, .scalar .int text] 0 =
      .ok (.map [(.text name, .scalar (.int i))]) := by
  let site (shapes : Array (Option Shape)) (active : List Nat) : Site :=
    ⟨#[.mapping .map [(1, 2)], .scalar .str name, .scalar .int text], shapes, active, []⟩
  let key : Option Shape := some (.scalar (.scalar (.text name)))
  let value : Option Shape := some (.scalar (.scalar (.int i)))
  let build := Building.build Key.same
  have first : (build 4 1).run (site #[none, none, none] [0]) =
      .ok ((), site #[none, key, none] [0]) :=
    build_scalar (.inl rfl) rfl rfl (by simp [site]) rfl
  have second : (build 4 2).run (site #[none, key, none] [0]) =
      .ok ((), site #[none, key, value] [0]) :=
    build_scalar (.inr rfl) rfl rfl (by simp [site]) read
  have entries : (Building.mapEntries Key.same (build 4) [(1, 2)] []).run
      (site #[none, none, none] [0]) =
        .ok ([(.scalar (.text name), 2)], site #[none, key, value] [0]) := by
    rw [Building.mapEntries, StateT.run_bind, first]
    change ((do
      build 4 2
      Building.mapEntries Key.same (build 4) [] [(.scalar (.text name), 2)]) : Building _).run
        (site #[none, key, none] [0]) = _
    rw [StateT.run_bind, second]
    rfl
  have builds : (build 5 0).run (site #[none, none, none] []) =
      .ok ((), site #[some (.map [(.scalar (.text name), 2)]), key, value] []) := by
    rw [show build 5 0 = Building.build Key.same 5 0 from rfl, Building.build]
    change ((do
      let entries ← Building.mapEntries Key.same (build 4) [(1, 2)] []
      Building.setShape 0 (.map entries)
      modify fun site => { site with active := site.active.erase 0 }) : Building Unit).run
        (site #[none, none, none] [0]) = _
    rw [StateT.run_bind, entries]
    rfl
  change (do
    let built ← (do
      let built ← ((do
        build 5 0
        Building.fillAll (build 5) 5) : Building Unit).run (site #[none, none, none] [])
      return built.2)
    return unfold built.shapes 5 [] 0) = _
  rw [StateT.run_bind, builds]
  rfl

/-- The document of the line has the integer that its digits are read as. -/
theorem valueIn_spelled {d : Char} {digits : List Char} {i : Int}
    (spells : ∀ c ∈ d :: digits, c ∈ sixteenths) (read : readInt ('0' :: 'x' :: d :: digits) = .ok i) :
    valueIn (String.ofList (fieldName ++ ':' :: ' ' :: '0' :: 'x' :: d :: digits ++ ['\n'])) =
      .ok (.map [(.text (String.ofList fieldName), .scalar (.int i))]) := by
  let name := String.ofList fieldName
  let text := String.ofList ('0' :: 'x' :: d :: digits)
  have spellers : ∀ c ∈ '0' :: 'x' :: d :: digits, c ∈ spellers := by
    refine List.forall_mem_cons.mpr ⟨by decide, List.forall_mem_cons.mpr ⟨by decide, ?_⟩⟩
    exact fun c among => List.mem_cons_of_mem _ (spells c among)
  have tree : Tree.ofTokens? [.blockMappingStart, .key, .scalar name true, .value,
      .scalar text true, .blockEnd, .streamEnd] =
        .ok (some (.mapping {} [(.scalar {} name true, .scalar {} text true)])) := rfl
  have graph : Graph.ofTree (.mapping {} [(.scalar {} name true, .scalar {} text true)]) =
      .ok (#[.mapping .map [(1, 2)], .scalar (tagByLook name) name,
        .scalar (tagByLook text) text], 0) :=
    rfl
  have named : resolve name = .str := by decide +kernel
  have value : readScalar .int text = .ok (.int i) := by
    have chars : CodePoints.chars? text = some ('0' :: 'x' :: d :: digits) := by
      rw [CodePoints.chars?_ofString, String.toList_ofList]
    unfold readScalar
    rw [chars]
    dsimp only
    rw [read]
    rfl
  rw [valueIn, String.toList_ofList, tokens_spelled spellers]
  dsimp only [bind, Except.bind]
  rw [tree]
  dsimp only
  rw [graph, tagByLook_ofString, tagByLook_ofString, named, resolve_spelled spells]
  exact valueOf_entry value

end BezelStream.Yaml
