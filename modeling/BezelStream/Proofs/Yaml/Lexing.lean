import BezelStream.Yaml.Lexer
import BezelStream.Proofs.Yaml.Reading
import BezelStream.Proofs.Yaml.Resolving

/-! # What the tokens of a text are

Every step of a reading leaves an end of the text and fails only because the text is malformed. A
token that stands for a flaw is pushed where an escape is beyond the last code point or a version
has too many digits, and nowhere else. A plain scalar begins with no indicator and ends with no gap.
-/

namespace BezelStream.Yaml

open Text

/-- What follows the name of a directive for a version that has too many digits to be read. -/
def IsLongVersion (cs : List Char) : Prop :=
  ∃ front digits, cs = front ++ digits ∧ (∀ c ∈ front, c = ' ' ∨ c = '.' ∨ c.isDigit = true) ∧
    digits.all Char.isDigit = true ∧ Numeral.mostDigits < digits.length

/-- Why a number in a text is out of range. -/
inductive OutOfRange (cs : List Char) : Mismatch → Prop where
  | escape {reason : Mismatch} (far : HasFarEscape cs reason) : OutOfRange cs reason
  | version {version : List Char} (long : IsLongVersion version)
      (inside : '%' :: ("YAML".toList ++ version) <:+: cs) : OutOfRange cs .badValue

/-- What is wrong with a part of a text: its form, or a number. -/
def FlawWithin (text : Source) (flaw : Flaw) : Prop :=
  flaw = .malformed ∨ ∃ reason, flaw = .mismatch reason ∧ OutOfRange (text.map Spot.char) reason

/-- A token that is no flaw, or that of a number of the text. A plain scalar looks like one. -/
def Token.Harmless (text : Source) : Token → Prop
  | .flawed flaw => ∃ reason, flaw = .mismatch reason ∧ OutOfRange (text.map Spot.char) reason
  | .scalar t true => ∃ s : String, t = s ∧ PlainLook s
  | _ => True

/-- What a reader of a token comes to within a text. -/
abbrev ReadsToken (text : Source) (x : Except Flaw (Token × Source)) : Prop :=
  GivesOrFails (fun read => read.1.Harmless text ∧ read.2 <:+ text) (· = .malformed) x

namespace Lexer

variable {text src : Source}

/-! ## Directives, names and tags -/

section

variable {flaws : Flaw → Prop} (malformed : flaws .malformed)

include malformed

/-- A number of a version leaves what follows its digits. -/
theorem versionNumber_gives (long : ∀ version, IsLongVersion version →
      version <+: src.map Spot.char → flaws (.mismatch .badValue)) :
    GivesOrFails (fun read => read.2 <:+ src ∧ ∃ digits, digits.all Char.isDigit = true ∧
      digits ++ read.2.map Spot.char = src.map Spot.char) flaws (versionNumber src) := by
  have digits := src.span_all Char.isDigit
  have whole := src.span_chars Char.isDigit
  unfold versionNumber
  dsimp only
  split
  · exact malformed
  split
  next most => exact long _ ⟨[], _, rfl, nofun, digits, most⟩ ⟨_, whole⟩
  next => exact ⟨src.span_suffix _, _, digits, whole⟩

theorem version_reads (inside : src <:+ text) (long : ∀ version, IsLongVersion version →
      version <+: src.map Spot.char → flaws (.mismatch .badValue)) :
    ReadsWithin text flaws (directiveBody "YAML" src) := by
  have blanks := src.span_all (· = ' ')
  have whole := src.span_chars (· = ' ')
  have left := src.span_suffix (· = ' ')
  unfold directiveBody
  rw [if_pos rfl, Source.skipWhile_eq_span]
  generalize src.span (· = ' ') = spanned at blanks whole left
  obtain ⟨front, numbers⟩ := spanned
  have blank : ∀ c ∈ front, c = ' ' ∨ c = '.' ∨ c.isDigit = true := fun c member =>
    .inl (of_decide_eq_true (List.all_eq_true.mp blanks c member))
  refine (versionNumber_gives malformed fun version many ahead => ?_).bind
    fun (major, rest) ⟨ends, digits, decimal, split⟩ => ?_
  · obtain ⟨before, digits, rfl, numeric, decimal, most⟩ := many
    refine long _ ⟨front ++ before, digits, rfl, ?_, decimal, most⟩ ?_
    · exact List.forall_mem_append.mpr ⟨blank, numeric⟩
    · rw [← whole, List.append_assoc]
      exact (List.prefix_append_right_inj front).mpr ahead
  dsimp only
  split
  · exact malformed
  next point =>
    have point : rest.peek = '.' := by simpa using point
    refine (versionNumber_gives malformed fun version many ahead => ?_).bind
      fun (minor, more) ⟨later, _⟩ => ?_
    · obtain ⟨before, digits', rfl, numeric, decimal', most⟩ := many
      have ahead := prefix_after_peek point ahead (by
        rw [List.length_append]
        have few : 1 < Numeral.mostDigits := by decide
        omega)
      refine long _ ⟨front ++ (digits ++ '.' :: before), digits', rfl, ?_, decimal', most⟩ ?_
      · refine List.forall_mem_append.mpr ⟨blank, List.forall_mem_append.mpr ⟨?_, ?_⟩⟩
        · exact fun c member => .inr (.inr (List.all_eq_true.mp decimal c member))
        · exact List.forall_mem_cons.mpr ⟨.inr (.inl rfl), numeric⟩
      · rw [← whole, ← split, List.append_assoc, List.append_assoc]
        exact (List.prefix_append_right_inj front).mpr
          ((List.prefix_append_right_inj digits).mpr ahead)
    dsimp only
    split
    · exact ((later.trans (Source.skip_suffix rest)).trans (ends.trans left)).trans inside
    · exact malformed

end

theorem tagHandle_reads (inside : src <:+ text) :
    ReadsWithin text (· = .malformed) (tagHandle src) := by
  have past := src.skip_suffix.trans inside
  have name := (src.skip.span_suffix isNameChar).trans past
  unfold tagHandle
  dsimp only
  split
  · rfl
  split
  · exact past
  split
  · exact (Source.skip_suffix _).trans name
  · rfl

theorem tagEscapes_reads (fuel : Nat) (inside : src <:+ text) :
    ReadsWithin text (· = .malformed) (tagEscapes fuel src) := by
  induction fuel generalizing src with
  | zero => rfl
  | succ fuel ih =>
      rw [tagEscapes]
      split
      · split
        next byte rest escape =>
          have left := ((hexEscape_some escape).1.trans src.skip_suffix).trans inside
          exact (ih left).bind fun _ more => more
        next => rfl
      · exact inside

theorem tagChars_reads (fuel : Nat) (inside : src <:+ text) :
    ReadsWithin text (· = .malformed) (tagChars fuel src) := by
  induction fuel generalizing src with
  | zero => rfl
  | succ fuel ih =>
      rw [tagChars]
      split
      · refine (tagEscapes_reads _ inside).bind fun (bytes, rest) left => ?_
        dsimp only
        split
        · exact (ih left).bind fun _ more => more
        · rfl
      · dsimp only
        split
        · exact inside
        · exact (ih ((src.span_suffix _).trans inside)).bind fun _ more => more

theorem tagUri_reads (inside : src <:+ text) : ReadsWithin text (· = .malformed) (tagUri src) := by
  unfold tagUri
  split
  · exact (tagChars_reads _ inside).bind fun _ more => more
  · rfl

section

variable {flaws : Flaw → Prop} (malformed : flaws .malformed)

include malformed

theorem directiveBody_reads (name : String) (inside : src <:+ text)
    (long : name = "YAML" → ∀ version, IsLongVersion version →
      version <+: src.map Spot.char → flaws (.mismatch .badValue)) :
    ReadsWithin text flaws (directiveBody name src) := by
  have blanks := (src.skipWhile_suffix (· = ' ')).trans inside
  by_cases versioned : name = "YAML"
  · subst versioned
    exact version_reads malformed inside (long rfl)
  unfold directiveBody
  rw [if_neg versioned]
  split
  · refine ((tagHandle_reads blanks).of_malformed malformed).bind fun (handle, rest) left => ?_
    dsimp only
    split
    · exact malformed
    · have past := (Source.skipWhile_suffix (· = ' ') rest).trans left
      refine ((tagUri_reads past).of_malformed malformed).bind fun (start, rest) left => ?_
      dsimp only
      split
      · exact left
      · exact malformed
  · exact (src.skipWhile_suffix _).trans inside

theorem directive_reads (inside : src <:+ text)
    (long : ∀ version, IsLongVersion version →
      "YAML".toList ++ version <+: src.map Spot.char → flaws (.mismatch .badValue)) :
    ReadsWithin text flaws (directive src) := by
  have whole := src.span_chars isNameChar
  have left := (src.span_suffix isNameChar).trans inside
  unfold directive
  generalize src.span isNameChar = spanned at whole left
  obtain ⟨name, rest⟩ := spanned
  dsimp only
  split
  · exact malformed
  · refine (directiveBody_reads malformed _ left fun versioned version many ahead => ?_).bind
      fun (d, rest) left => ?_
    · refine long version many ?_
      have named : name = "YAML".toList := by rw [← versioned, String.toList_ofList]
      rw [← whole, ← named]
      exact (List.prefix_append_right_inj name).mpr ahead
    have comment := (Source.skipComment_suffix rest).trans left
    dsimp only
    split
    · exact (Source.lineBreak_suffix _).trans comment
    · exact malformed

end

theorem anchorName_reads (inside : src <:+ text) :
    ReadsWithin text (· = .malformed) (anchorName src) := by
  unfold anchorName
  dsimp only
  split
  · rfl
  split
  · exact (src.span_suffix _).trans inside
  · rfl

/-- An anchor or an alias, from its indicator on. -/
theorem named_reads (kind : String → Token) (harmless : ∀ name, (kind name).Harmless text)
    (inside : src <:+ text) : ReadsToken text (do
      let (name, src) ← anchorName src.skip
      return (kind name, src)) :=
  (anchorName_reads (src.skip_suffix.trans inside)).bind fun (name, _) left =>
    ⟨harmless name, left⟩

theorem tag_reads (inside : src <:+ text) : ReadsToken text (tag src) := by
  have past := src.skip_suffix.trans inside
  have ends {rest : Source} (handle : Option String) (suffix : String) (left : rest <:+ text) :
      ReadsToken text (if endsWord rest.peek then pure (.tag handle suffix, rest)
        else .error .malformed) := by
    split
    · exact ⟨trivial, left⟩
    · rfl
  unfold tag
  dsimp only
  split
  · refine (tagUri_reads ((src.skipMany_suffix 2).trans inside)).bind fun (uri, rest) left => ?_
    dsimp only
    split
    · exact ends none uri ((Source.skip_suffix rest).trans left)
    · rfl
  split
  · exact ends none "!" past
  split
  · refine (tagHandle_reads inside).bind fun (handle, rest) left => ?_
    exact (tagUri_reads left).bind fun (suffix, _) left => ends (some handle) suffix left
  · exact (tagUri_reads past).bind fun (suffix, _) left => ends (some "!") suffix left

/-! ## Steps -/

/-- What is known of a reading within a text. -/
structure Within (text : Source) (x : Lexer) : Prop where
  source : x.source <:+ text
  tokens : ∀ token ∈ x.tokens, token.Harmless text

/-- What a step comes to within a text. -/
abbrev Steps (text : Source) (x : Except Flaw Lexer) : Prop :=
  GivesOrFails (Within text) (· = .malformed) x

variable {x : Lexer}

theorem insert_harmless {tokens : Array Token} (harmless : ∀ token ∈ tokens, token.Harmless text)
    (i : Nat) (token : Token) (new : token.Harmless text) :
    ∀ t ∈ tokens.insertIdxIfInBounds i token, t.Harmless text := by
  intro t member
  unfold Array.insertIdxIfInBounds at member
  split at member
  next fits =>
    rcases (Array.mem_insertIdx (h := fits)).mp member with same | earlier
    · exact same ▸ new
    · exact harmless t earlier
  next => exact harmless t member

namespace Within

theorem push (within : x.Within text) (token : Token) (harmless : token.Harmless text) :
    (x.push token).Within text where
  source := within.source
  tokens := by
    intro t member
    rcases Array.mem_push.mp member with earlier | rfl
    · exact within.tokens t earlier
    · exact harmless

theorem pushMark (within : x.Within text) (token : Token) (harmless : token.Harmless text)
    (n : Nat) : (x.pushMark token n).Within text :=
  ⟨(x.source.skipMany_suffix n).trans within.source, (within.push token harmless).tokens⟩

theorem openBlock (within : x.Within text) (column : Int) : (x.openBlock column).2.Within text := by
  unfold Lexer.openBlock
  split
  · exact ⟨within.source, within.tokens⟩
  · exact within

theorem closeBlocks (within : x.Within text) (column : Int) :
    (x.closeBlocks column).Within text := by
  have closes (outer : List Int) : (closeBlocks.go column outer x).Within text := by
    induction outer generalizing x with
    | nil => exact within
    | cons around rest ih =>
        rw [closeBlocks.go]
        split
        · have closed := within.push .blockEnd trivial
          exact ih ⟨closed.source, closed.tokens⟩
        · exact within
  unfold Lexer.closeBlocks
  split
  · exact within
  · exact closes x.outer

theorem skipToToken (within : x.Within text) : x.skipToToken.Within text := by
  have goes (fuel : Nat) (src : Source) : (skipToToken.go fuel src).2 <:+ src := by
    induction fuel generalizing src with
    | zero => exact List.suffix_rfl
    | succ fuel ih =>
        have comment := src.skipComment_suffix
        rw [skipToToken.go]
        split
        · exact ((ih _).trans (Source.lineBreak_suffix _)).trans comment
        · exact comment
  refine ⟨(goes _ _).trans ?_, within.tokens⟩
  split
  · exact x.source.skip_suffix.trans within.source
  · exact within.source

theorem dropLapsed (within : x.Within text) : Steps text x.dropLapsed := by
  unfold Lexer.dropLapsed
  dsimp only
  split
  · rfl
  · exact ⟨within.source, within.tokens⟩

theorem dropCandidate (within : x.Within text) : Steps text x.dropCandidate := by
  unfold Lexer.dropCandidate
  split
  · split
    · rfl
    · exact ⟨within.source, within.tokens⟩
  · exact within

theorem saveCandidate (within : x.Within text) : Steps text x.saveCandidate := by
  unfold Lexer.saveCandidate
  split
  · exact within.dropCandidate.bind fun _ dropped => ⟨dropped.source, dropped.tokens⟩
  · exact within

theorem atMargin (within : x.Within text) : Steps text x.atMargin :=
  (within.closeBlocks (-1)).dropCandidate.bind fun _ dropped => ⟨dropped.source, dropped.tokens⟩

theorem openFlow (within : x.Within text) (token : Token) (harmless : token.Harmless text) :
    Steps text (x.openFlow token) := by
  refine within.saveCandidate.bind fun _ saved => ?_
  have pushed := saved.pushMark token harmless 1
  exact ⟨pushed.source, pushed.tokens⟩

theorem closeFlow (within : x.Within text) (token : Token) (harmless : token.Harmless text) :
    Steps text (x.closeFlow token) := by
  unfold Lexer.closeFlow
  split
  · rfl
  · refine within.dropCandidate.bind fun _ dropped => ?_
    have pushed := dropped.pushMark token harmless 1
    exact ⟨pushed.source, pushed.tokens⟩

/-- Ends a step: with the candidate of the level dropped, one token is pushed. -/
theorem dropped_pushMark {allowsKey : Bool} (within : x.Within text) (token : Token)
    (harmless : token.Harmless text) : Steps text (do
      let x ← { x with allowsKey }.dropCandidate
      return x.pushMark token 1) := by
  have same : { x with allowsKey }.Within text := ⟨within.source, within.tokens⟩
  exact same.dropCandidate.bind fun _ dropped => dropped.pushMark token harmless 1

theorem startBlock (within : x.Within text) (token : Token) (harmless : token.Harmless text) :
    Steps text (x.startBlock token) := by
  have opened := within.openBlock x.source.column
  unfold Lexer.startBlock
  split
  · exact within
  split
  · rfl
  · dsimp only
    split
    · exact opened.push token harmless
    · exact opened

theorem item (within : x.Within text) : Steps text x.item :=
  (within.startBlock .blockSequenceStart trivial).bind fun _ started =>
    started.dropped_pushMark .blockEntry trivial

theorem explicitKey (within : x.Within text) : Steps text x.explicitKey :=
  (within.startBlock .blockMappingStart trivial).bind fun _ started =>
    started.dropped_pushMark .key trivial

theorem mappingValue (within : x.Within text) : Steps text x.mappingValue := by
  unfold Lexer.mappingValue
  split
  next k _ =>
    extract_lets y
    have same : y.Within text := ⟨within.source, within.tokens⟩
    split
    next opened z begun =>
      have begins : z.Within text := by
        split at begun
        · cases begun
          exact same
        · have opens := same.openBlock k.place.column
          rwa [begun] at opens
      extract_lets keyed inserted
      have keys := insert_harmless begins.tokens k.tokensBefore .key trivial
      have all : ∀ token ∈ inserted, token.Harmless text := by
        dsimp only [inserted]
        split
        · exact insert_harmless keys k.tokensBefore .blockMappingStart trivial
        · exact keys
      have ready : Lexer.Within text { z with tokens := inserted, allowsKey := false } :=
        ⟨begins.source, all⟩
      exact ready.pushMark .value trivial 1
  · exact (within.startBlock .blockMappingStart trivial).bind fun _ started =>
      started.dropped_pushMark .value trivial

theorem node {read : Source → Except Flaw (Token × Source)} (within : x.Within text)
    (reads : ∀ src, src <:+ text → ReadsToken text (read src)) : Steps text (x.node read) := by
  refine within.saveCandidate.bind fun _ saved => ?_
  refine (reads _ saved.source).bind fun (token, source) ⟨harmless, left⟩ => ?_
  exact ⟨left, (saved.push token harmless).tokens⟩

end Within

theorem tokenOf_reads {α : Type} (make : α → Token) (harmless : ∀ a, (make a).Harmless text)
    {part : Except Flaw (α × Source)} (reads : ReadsWithin text (FlawWithin text) part) :
    ReadsToken text (tokenOf make part) := by
  match part, reads with
  | .ok (a, src), left => exact ⟨harmless a, left⟩
  | .error _, .inl rfl => rfl
  | .error _, .inr ⟨reason, rfl, range⟩ => exact ⟨⟨reason, rfl, range⟩, List.nil_suffix⟩

theorem dropCandidate_source {y : Lexer} (came : x.dropCandidate = .ok y) : y.source = x.source := by
  unfold Lexer.dropCandidate at came
  split at came
  · split at came
    · cases came
    · cases came
      rfl
  · cases came
    rfl

theorem closeBlocks_source (x : Lexer) (column : Int) : (x.closeBlocks column).source = x.source := by
  have closes (outer : List Int) : (closeBlocks.go column outer x).source = x.source := by
    induction outer generalizing x with
    | nil => rfl
    | cons around rest ih =>
        rw [closeBlocks.go]
        split
        · exact ih _
        · rfl
  unfold closeBlocks
  split
  · rfl
  · exact closes x.outer

theorem atMargin_source {y : Lexer} (came : x.atMargin = .ok y) : y.source = x.source := by
  cases dropped : (x.closeBlocks (-1)).dropCandidate with
  | error =>
      rw [atMargin, dropped] at came
      cases came
  | ok z =>
      rw [atMargin, dropped] at came
      cases came
      exact (dropCandidate_source dropped).trans (x.closeBlocks_source (-1))

theorem saveCandidate_source {y : Lexer} (came : x.saveCandidate = .ok y) : y.source = x.source := by
  unfold Lexer.saveCandidate at came
  split at came
  · cases dropped : x.dropCandidate with
    | error =>
        rw [dropped] at came
        cases came
    | ok z =>
        rw [dropped] at came
        cases came
        have same : z.source = x.source := dropCandidate_source dropped
        exact same
  · cases came
    rfl

theorem plainText_looks (inFlow : Bool) (indent : Int) (fuel : Nat) (broken : Bool)
    {within : Bool} {next : Char} (starts : startsPlain within src.peek next = true) :
    PlainLook (String.ofList (plainText inFlow indent fuel [] broken src).1) := by
  have begins := plainText_head inFlow indent fuel broken src
  have ends := plainText_last inFlow indent fuel [] broken src
  generalize (plainText inFlow indent fuel [] broken src).1 = cs at begins ends
  constructor <;> rw [String.toList_ofList]
  · cases first : cs.head? with
    | none => rw [Unindicated, first]; decide
    | some c =>
        obtain rfl := begins c first
        rw [Unindicated, first]
        intro indicates
        have indicates : src.peek = '!' ∨ src.peek = '&' ∨ src.peek = '*' := by
          simpa using indicates
        rcases indicates with same | same | same
        · simp [startsPlain, same] at starts
        · simp [startsPlain, same] at starts
        · simp [startsPlain, same] at starts
  · intro last
    cases ends _ last

namespace Within

theorem quotedScalar (within : x.Within text) (double : Bool) :
    Steps text (x.quotedScalar double) := by
  refine within.node fun src inside => tokenOf_reads (.scalar · false) (fun _ => trivial) ?_
  exact quotedText_reads (.inl rfl) double _ ((Source.skip_suffix src).trans inside) fun _ far =>
    .inr ⟨_, rfl, .escape far⟩

theorem blockScalar (within : x.Within text) (folded : Bool) :
    Steps text (x.blockScalar folded) := by
  have same : { x with allowsKey := true }.Within text := ⟨within.source, within.tokens⟩
  refine same.dropCandidate.bind fun y dropped => ?_
  have past := y.source.skip_suffix.trans dropped.source
  have reads : ReadsWithin text (FlawWithin text) (blockText folded y.indent y.source.skip) :=
    blockText_reads (.inl rfl) folded y.indent past
  exact (tokenOf_reads (fun cs => .scalar (.ofChars cs) false) (fun _ => trivial) reads).bind
    fun (token, source) ⟨harmless, left⟩ => ⟨left, (dropped.push token harmless).tokens⟩

theorem directiveLine (within : x.Within text) (begins : x.source.peek = '%') :
    Steps text x.directiveLine := by
  refine .through (fun _ failed => within.atMargin.error failed) fun y came => ?_
  have margin := within.atMargin.ok came
  rw [← atMargin_source came] at begins
  have past := y.source.skip_suffix.trans margin.source
  have reads : ReadsWithin text (FlawWithin text) (directive y.source.skip) := by
    refine directive_reads (.inl rfl) past fun version long ahead => .inr ⟨_, rfl, ?_⟩
    have several : 1 < ("YAML".toList ++ version).length := by
      rw [List.length_append]
      exact Nat.lt_add_right _ (by decide)
    have here := prefix_after_peek begins ahead several
    exact .version long (here.isInfix.trans (margin.source.map _).isInfix)
  exact (tokenOf_reads .directive (fun _ => trivial) reads).bind
    fun (token, source) ⟨harmless, left⟩ => ⟨left, (margin.push token harmless).tokens⟩

theorem plainScalar (within : x.Within text)
    (starts : startsPlain x.inFlow x.source.peek (x.source.peekAt 1) = true) :
    Steps text x.plainScalar := by
  refine .through (fun _ failed => within.saveCandidate.error failed) fun y came => ?_
  have saved := within.saveCandidate.ok came
  have left := (plainText_suffix y.inFlow (y.indent + 1) y.source.length [] false y.source).trans
    saved.source
  rw [← saveCandidate_source came] at starts
  have look := plainText_looks y.inFlow (y.indent + 1) y.source.length false starts
  exact ⟨left, (saved.push (.scalar _ true) ⟨_, (CodePoints.ofString_ofList _).symm, look⟩).tokens⟩

theorem token (within : x.Within text) : Steps text x.token := by
  have marked (token : Token) (harmless : token.Harmless text) : Steps text (do
      return (← x.atMargin).pushMark token 3) :=
    within.atMargin.bind fun _ margin => margin.pushMark token harmless 3
  unfold Lexer.token
  extract_lets c next column
  by_cases mark : (c = '%' && column = 0) = true
  · rw [if_pos mark]
    exact within.directiveLine (of_decide_eq_true (Bool.and_eq_true_iff.mp mark).1)
  rw [if_neg mark]
  refine .ite (marked .documentStart trivial) (.ite (marked .documentEnd trivial) ?_)
  refine .ite (within.openFlow .flowSequenceStart trivial) ?_
  refine .ite (within.openFlow .flowMappingStart trivial) ?_
  refine .ite (within.closeFlow .flowSequenceEnd trivial) ?_
  refine .ite (within.closeFlow .flowMappingEnd trivial) ?_
  refine .ite (within.dropped_pushMark .flowEntry trivial) ?_
  refine .ite within.item (.ite within.explicitKey (.ite within.mappingValue ?_))
  refine .ite (within.node fun _ => named_reads .alias fun _ => trivial) ?_
  refine .ite (within.node fun _ => named_reads .anchor fun _ => trivial) ?_
  refine .ite (within.node fun _ => tag_reads) ?_
  refine .ite (within.blockScalar false) (.ite (within.blockScalar true) ?_)
  refine .ite (within.quotedScalar false) (.ite (within.quotedScalar true) ?_)
  split
  next starts => exact within.plainScalar starts
  next => rfl

end Within

theorem mem_of_mem_extract {tokens : Array Token} {first last : Nat} {token : Token}
    (member : token ∈ tokens.extract first last) : token ∈ tokens := by
  rw [← Array.mem_toList_iff, Array.toList_extract, List.extract_eq_take_drop] at member
  exact Array.mem_toList_iff.mp (List.mem_of_mem_drop (List.mem_of_mem_take member))

/-- A reading of a whole text fails only because that is malformed. -/
theorem run_gives (fuel : Nat) (within : x.Within text) :
    GivesOrFails (fun tokens => ∀ token ∈ tokens, token.Harmless text) (· = .malformed)
      (run fuel x) := by
  induction fuel generalizing x with
  | zero => rfl
  | succ fuel ih =>
      refine within.skipToToken.dropLapsed.bind fun y live => ?_
      have closed := live.closeBlocks y.source.column
      dsimp only
      split
      · exact (closed.closeBlocks (-1)).dropCandidate.bind fun _ dropped =>
          (dropped.push .streamEnd trivial).tokens
      · refine closed.token.bind fun z stepped => ?_
        split
        · intro token member
          refine stepped.tokens token ?_
          exact (Array.mem_append.mp member).elim mem_of_mem_extract mem_of_mem_extract
        · exact ih stepped

end Lexer

/-- What holds another character last stands before the end mark. -/
theorem infix_of_marked {part cs : List Char} (last : ∀ c ∈ part.getLast?, c ≠ endMark)
    (inside : part <:+: cs ++ [endMark]) : part <:+: cs := by
  rcases List.infix_concat_iff.mp inside with ends | inside
  · rcases List.suffix_concat_iff.mp ends with rfl | ⟨front, rfl, -⟩
    · exact List.nil_infix
    · exact absurd rfl (last endMark List.getLast?_concat)
  · exact inside

theorem getLast_mem_of_append (front : List Char) {digits : List Char} {c : Char}
    (some : 0 < digits.length) (last : c ∈ (front ++ digits).getLast?) : c ∈ digits := by
  rw [List.getLast?_append, Option.or_of_isSome
    (List.getLast?_isSome.mpr (List.ne_nil_of_length_pos some))] at last
  exact List.mem_of_getLast? last

theorem OutOfRange.of_marked {cs : List Char} {reason : Mismatch}
    (range : OutOfRange (cs ++ [endMark]) reason) : OutOfRange cs reason := by
  cases range with
  | escape far =>
      obtain ⟨digits, inside, length, hex, beyond⟩ := far
      refine .escape ⟨digits, infix_of_marked (fun c last => ?_) inside, length, hex, beyond⟩
      have among := getLast_mem_of_append ['\\', 'U'] (by omega) last
      rintro rfl
      exact absurd (List.all_eq_true.mp hex _ among) (by decide)
  | version long inside =>
      refine .version long (infix_of_marked (fun c last => ?_) inside)
      obtain ⟨front, digits, rfl, -, decimal, most⟩ := long
      rw [← List.append_assoc, ← List.cons_append] at last
      have among := getLast_mem_of_append _ (by omega) last
      rintro rfl
      exact absurd (List.all_eq_true.mp decimal _ among) (by decide)

/-- The tokens of a text are read unless it is malformed, and none of them is harmful. -/
theorem tokens_harmless (cs : List Char) :
    GivesOrFails (fun tokens => ∀ token ∈ tokens, token.Harmless (.ofChars cs)) (· = .malformed)
      (tokens cs) := by
  have start : Lexer.Within (.ofChars cs) { source := .ofChars cs } := ⟨List.suffix_rfl, nofun⟩
  unfold tokens
  split
  · exact (Lexer.run_gives _ start).bind fun read harmless token member =>
      harmless token (Array.mem_toList_iff.mp member)
  · rfl

/-- The tokens of a text are read unless it is malformed, and a flaw among them is that of a number
    out of range. -/
theorem tokens_gives (cs : List Char) :
    GivesOrFails (fun tokens => ∀ flaw, .flawed flaw ∈ tokens →
        ∃ reason, flaw = .mismatch reason ∧ OutOfRange cs reason)
      (· = .malformed) (tokens cs) := by
  refine (tokens_harmless cs).imp (fun tokens harmless flaw member => ?_) fun _ same => same
  obtain ⟨reason, rfl, range⟩ := harmless _ member
  rw [Source.ofChars, Source.chars_ofChars] at range
  exact ⟨reason, rfl, range.of_marked⟩

/-- The plain scalars among the tokens of a text look like ones. -/
theorem plainLook_of_tokens {cs : List Char} {found : List Token} {t : CodePoints}
    (lexed : tokens cs = .ok found) (member : .scalar t true ∈ found) :
    ∃ s : String, t = s ∧ PlainLook s :=
  (tokens_harmless cs).ok lexed _ member

end BezelStream.Yaml
