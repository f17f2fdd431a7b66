import BezelStream.CommandLine.Transcript
import BezelStream.Payload.Pump
import BezelStream.Proofs.Text.Digits
import BezelStream.Proofs.Text.Groups
import BezelStream.Proofs.Text.Lines

/-! # Frames read back from their lines

`Frame.ofLine?` reads a line that shows a frame, and `Frame.ofHex?` the pairs of digits in it. They
accept what is written of a frame and nothing else, so no two frames look the same. What is printed
of one frame after another is cut into lines again, each of which gives its frame.
-/

namespace BezelStream

theorem CommandLine.transcript_append (verbose : Bool) (output : Output) (left right : List Event) :
    CommandLine.transcript verbose output (left ++ right) =
      CommandLine.transcript verbose output left ++ CommandLine.transcript verbose output right := by
  simp [CommandLine.transcript]

namespace Frame

open Text CommandLine

/-- The digits of pairs. -/
def upperHexDigits : List Char := "0123456789ABCDEF".toList

/-- Two upper-case digits. -/
structure Pair (group : List Char) : Prop where
  two : group.length = 2
  upper : ∀ c ∈ group, c ∈ upperHexDigits

instance (group : List Char) : Decidable (Pair group) :=
  decidable_of_iff (group.length = 2 ∧ group.all upperHexDigits.contains = true)
    ⟨fun ⟨two, upper⟩ => ⟨two, by simpa using upper⟩,
      fun pair => ⟨pair.two, by simpa using pair.upper⟩⟩

/-- The byte that a pair of digits writes. -/
def byte? (group : List Char) : Option UInt8 :=
  if Pair group then some (.ofNat (hexNumber group)) else none

/-- The groups of a text between single spaces. An empty text has none. -/
def groups (cs : List Char) : List (List Char) :=
  if cs = [] then [] else splitAt ' ' cs

/-- The bytes that are written by pairs of digits with single spaces between them. -/
def ofHex? (cs : List Char) : Option Frame :=
  (groups cs).mapM byte?

/-- The frame that a line shows, if the number in the line is that of its bytes. -/
def ofLine? (cs : List Char) : Option Frame := do
  let rest ← stripStart? "Indication (".toList cs
  let hex ← stripStart? " bytes): ".toList (rest.dropWhile Char.isDigit)
  let frame ← ofHex? hex
  if Decimal (rest.takeWhile Char.isDigit) frame.length then some frame else none

variable {frame first second : Frame} {b : UInt8} {cs group : List Char}

/-! ## What is written and read

Where each text is read as what it was written from, and no other text is read, a list of texts is
read one by one, and nothing else looks like what was written.
-/

section

variable {α β : Type} {read : α → Option β} {write : β → α}

theorem mapM_eq_some_iff (reads : ∀ a b, read a = some b ↔ a = write b) {as : List α}
    {bs : List β} : as.mapM read = some bs ↔ as = bs.map write := by
  induction as generalizing bs with
  | nil => cases bs <;> simp
  | cons a as ih =>
      cases bs with
      | nil => simp [List.mapM_cons, Option.bind_eq_some_iff]
      | cons b bs => simp [List.mapM_cons, Option.bind_eq_some_iff, reads, ih]

theorem injective_of_reads (reads : ∀ a b, read a = some b ↔ a = write b) :
    Function.Injective write := by
  intro first second same
  have here := (reads (write first) first).mpr rfl
  have there := (reads (write first) second).mpr same
  exact Option.some.inj (here.symm.trans there)

end

/-! ## Pairs of digits -/

theorem hexDigit_of_upper : ∀ c ∈ upperHexDigits, HexDigit c :=
  forall_of_all (by decide)

theorem upperHexDigit_digitValue : ∀ c ∈ upperHexDigits, upperHexDigit (digitValue c) = c :=
  forall_of_all (by decide)

theorem upperHexDigit_mem : ∀ v < 16, upperHexDigit v ∈ upperHexDigits := by
  decide

theorem digitValue_upperHexDigit : ∀ v < 16, digitValue (upperHexDigit v) = v := by
  decide

theorem hexNumber_pair (c d : Char) : hexNumber [c, d] = digitValue c * 16 + digitValue d := by
  simp [hexNumber, digitValue]

theorem pair_hexPair (b : UInt8) : Pair (hexPair b) := by
  have whole := b.toNat_lt
  have high := upperHexDigit_mem (b.toNat / 16) (by omega)
  have low := upperHexDigit_mem (b.toNat % 16) (by omega)
  exact ⟨rfl, by simp [hexPair, high, low]⟩

theorem hexNumber_hexPair (b : UInt8) : hexNumber (hexPair b) = b.toNat := by
  have whole := b.toNat_lt
  have high := digitValue_upperHexDigit (b.toNat / 16) (by omega)
  have low := digitValue_upperHexDigit (b.toNat % 16) (by omega)
  rw [hexPair, hexNumber_pair, high, low]
  omega

/-- A pair is the only one that writes its number. -/
theorem Pair.hexPair_eq (pair : Pair group) : hexPair (.ofNat (hexNumber group)) = group := by
  obtain ⟨two, upper⟩ := pair
  obtain ⟨c, d, rfl⟩ := List.length_eq_two.mp two
  have high := upper c (by simp)
  have low := upper d (by simp)
  have highBound := digitValue_lt (hexDigit_of_upper c high)
  have lowBound := digitValue_lt (hexDigit_of_upper d low)
  have number : (UInt8.ofNat (hexNumber [c, d])).toNat = digitValue c * 16 + digitValue d := by
    rw [hexNumber_pair, UInt8.toNat_ofNat']
    omega
  have quotient : (digitValue c * 16 + digitValue d) / 16 = digitValue c := by omega
  have remainder : (digitValue c * 16 + digitValue d) % 16 = digitValue d := by omega
  rw [hexPair, number, quotient, remainder, upperHexDigit_digitValue c high,
    upperHexDigit_digitValue d low]

theorem byte?_eq_some_iff : byte? group = some b ↔ group = hexPair b := by
  unfold byte?
  constructor
  · intro read
    split at read
    next pair =>
      cases read
      exact pair.hexPair_eq.symm
    next => cases read
  · rintro rfl
    rw [if_pos (pair_hexPair b), hexNumber_hexPair, UInt8.ofNat_toNat]

/-! ## The bytes of a frame -/

theorem hexChars_cons (filled : frame ≠ []) :
    hexChars (b :: frame) = hexPair b ++ ' ' :: hexChars frame := by
  cases frame with
  | nil => contradiction
  | cons next rest => rfl

theorem hexChars_append (filled : first ≠ []) (more : second ≠ []) :
    hexChars (first ++ second) = hexChars first ++ ' ' :: hexChars second := by
  induction first with
  | nil => contradiction
  | cons b rest ih =>
      by_cases single : rest = []
      · subst single
        exact hexChars_cons more
      · have joined : rest ++ second ≠ [] := List.append_ne_nil_of_left_ne_nil single second
        rw [List.cons_append, hexChars_cons joined, hexChars_cons single, ih single,
          List.append_assoc, List.cons_append]

theorem toList_hex (frame : Frame) : frame.hex.toList = hexChars frame :=
  String.toList_ofList

theorem hex_append (filled : first ≠ []) (more : second ≠ []) :
    (first ++ second).hex = first.hex ++ " " ++ second.hex := by
  apply String.toList_injective
  rw [String.toList_append, String.toList_append, toList_hex, toList_hex, toList_hex,
    hexChars_append filled more, List.append_assoc]
  rfl

theorem hexChars_eq_intercalate (frame : Frame) :
    hexChars frame = [' '].intercalate (frame.map hexPair) := by
  induction frame with
  | nil => rfl
  | cons b rest ih =>
      by_cases single : rest = []
      · subst single
        exact List.intercalate_singleton.symm
      · have more : rest.map hexPair ≠ [] := mt List.map_eq_nil_iff.mp single
        rw [hexChars_cons single, ih, List.map_cons, List.intercalate_cons_of_ne_nil more,
          List.append_assoc, List.singleton_append]

theorem groups_hexChars (frame : Frame) : groups (hexChars frame) = frame.map hexPair := by
  unfold groups
  split
  next empty =>
    cases frame with
    | nil => rfl
    | cons b rest => cases rest <;> cases empty
  next filled =>
    have some : frame.map hexPair ≠ [] := by
      rintro none
      rw [List.map_eq_nil_iff.mp none] at filled
      exact filled rfl
    have unspaced : ∀ group ∈ frame.map hexPair, ' ' ∉ group := by
      intro group listed space
      obtain ⟨b, -, rfl⟩ := List.mem_map.mp listed
      exact absurd ((pair_hexPair b).upper ' ' space) (by decide)
    rw [splitAt_eq_splitOn, hexChars_eq_intercalate, List.splitOn_intercalate ' ' unspaced some]

theorem intercalate_groups (cs : List Char) : [' '].intercalate (groups cs) = cs := by
  unfold groups
  split
  next empty => rw [empty, List.intercalate_nil]
  next => rw [splitAt_eq_splitOn, List.intercalate_splitOn]

/-- One pair of digits for each byte, in the order of the bytes. -/
theorem grouped_hexChars (frame : Frame) :
    Grouped ' ' [List.replicate frame.length 2] upperHexDigits (hexChars frame) := by
  refine ⟨frame.map hexPair, hexChars_eq_intercalate frame, ?_, ?_⟩
  · have twos : List.length ∘ hexPair = fun _ => 2 := rfl
    rw [List.mem_singleton, List.map_map, twos, List.map_const']
  · intro group listed
    obtain ⟨b, -, rfl⟩ := List.mem_map.mp listed
    exact (pair_hexPair b).upper

theorem groups_read (frame : Frame) :
    (groups (hexChars frame)).map hexNumber = frame.map UInt8.toNat := by
  rw [groups_hexChars, List.map_map]
  exact List.map_congr_left fun b _ => hexNumber_hexPair b

theorem ofHex?_eq_some_iff : ofHex? cs = some frame ↔ cs = hexChars frame := by
  rw [ofHex?, mapM_eq_some_iff fun _ _ => byte?_eq_some_iff]
  constructor
  · intro pairs
    rw [hexChars_eq_intercalate, ← pairs, intercalate_groups]
  · rintro rfl
    exact groups_hexChars frame

/-! ## Lines -/

theorem toList_line (frame : Frame) :
    frame.line.toList = "Indication (".toList ++
      (Nat.toDigits 10 frame.length ++ (" bytes): ".toList ++ hexChars frame)) := by
  simp only [line, hex, String.toList_append, String.toList_ofList, List.append_assoc,
    Nat.toString_eq_ofList_toDigits]

/-- The number in a line ends where the word behind it begins. -/
theorem span_number {number : List Char} (digits : ∀ c ∈ number, c.isDigit = true)
    (text : List Char) :
    (number ++ (" bytes): ".toList ++ text)).takeWhile Char.isDigit = number ∧
      (number ++ (" bytes): ".toList ++ text)).dropWhile Char.isDigit =
        " bytes): ".toList ++ text := by
  constructor
  · rw [List.takeWhile_append_of_pos digits]
    exact List.append_nil number
  · rw [List.dropWhile_append_of_pos digits]
    rfl

theorem ofLine?_line (frame : Frame) : ofLine? frame.line.toList = some frame := by
  have decimal := decimal_toDigits frame.length
  obtain ⟨number, rest⟩ := span_number decimal.digits (hexChars frame)
  simp only [ofLine?, Option.bind_eq_bind, Option.bind_eq_some_iff]
  refine ⟨_, stripStart?_eq_some_iff.mpr (toList_line frame), hexChars frame, ?_, frame,
    ofHex?_eq_some_iff.mpr rfl, ?_⟩
  · rw [rest, stripStart?_eq_some_iff]
  · rw [number, if_pos decimal]

theorem ofLine?_eq_some_iff : ofLine? cs = some frame ↔ cs = frame.line.toList := by
  constructor
  · intro read
    simp only [ofLine?, Option.bind_eq_bind, Option.bind_eq_some_iff] at read
    obtain ⟨rest, begun, hex, counted, bytes, shown, kept⟩ := read
    split at kept
    next decimal =>
      cases kept
      rw [toList_line, stripStart?_eq_some_iff.mp begun, decimal.toDigits_eq,
        ← ofHex?_eq_some_iff.mp shown, ← stripStart?_eq_some_iff.mp counted,
        List.takeWhile_append_dropWhile]
    next => cases kept
  · rintro rfl
    exact ofLine?_line frame

/-! ## What is printed -/

/-- The frames that the lines of a text show, if each of them shows one. -/
def ofLines? (cs : List Char) : Option (List Frame) :=
  (lines cs).mapM ofLine?

theorem unbroken_hexChars (frame : Frame) : Unbroken (hexChars frame) :=
  (grouped_hexChars frame).forall_of rfl (forall_of_all (by decide))

theorem unbroken_line (frame : Frame) : Unbroken frame.line.toList := by
  have opening : Unbroken "Indication (".toList := forall_of_all (by decide)
  have number := unbroken_of_digits (decimal_toDigits frame.length).digits
  have middle : Unbroken " bytes): ".toList := forall_of_all (by decide)
  intro c member
  rw [toList_line, List.mem_append, List.mem_append, List.mem_append] at member
  rcases member with within | within | within | within
  · exact opening c within
  · exact number c within
  · exact middle c within
  · exact unbroken_hexChars frame c within

/-- The text that is printed of frames, one below the other. -/
def page (frames : List Frame) : String :=
  String.join (frames.map fun frame => frame.line ++ "\n")

theorem page_cons (frame : Frame) (rest : List Frame) :
    page (frame :: rest) = frame.line ++ "\n" ++ page rest := by
  rw [page, List.map_cons, String.join_cons, page]

theorem page_prints (frames : List Frame) :
    Prints (frames.map fun frame => frame.line.toList) (page frames).toList := by
  induction frames with
  | nil => exact .nothing
  | cons frame rest ih =>
      have text : (page (frame :: rest)).toList =
          frame.line.toList ++ ['\n'] ++ (page rest).toList := by
        rw [page_cons, String.toList_append, String.toList_append]
        rfl
      rw [List.map_cons, text]
      exact .line (.single rfl) (fun same => absurd same (by decide)) ih

theorem ofLines?_page (frames : List Frame) : ofLines? (page frames).toList = some frames := by
  have unbroken : ∀ line ∈ frames.map fun frame => frame.line.toList, Unbroken line := by
    intro line listed
    obtain ⟨frame, -, rfl⟩ := List.mem_map.mp listed
    exact unbroken_line frame
  rw [ofLines?, lines_of_prints (page_prints frames) unbroken,
    mapM_eq_some_iff fun _ _ => ofLine?_eq_some_iff]

variable {σ ρ : Type}

/-- Frames that are handed to a sink that prints add their lines to what was printed before. -/
theorem transcript_handOn (verbose : Bool) (frames : List Frame) (p : Progress σ ρ) :
    transcript verbose .standard (frames.foldl (Pump.handOn .print) p).journal =
      transcript verbose .standard p.journal ++ page frames := by
  induction frames generalizing p with
  | nil => simp [page]
  | cons frame rest ih =>
      have handed : (Pump.handOn .print p frame).journal =
          p.journal ++ [.frame frame, .printed .standard (frame.line ++ "\n")] := by
        simp [Pump.handOn, Sink.give, Progress.note]
      have shown : transcript verbose .standard
          [.frame frame, .printed .standard (frame.line ++ "\n")] = frame.line ++ "\n" := by
        simp [transcript, List.filterMap_cons, printedBy?]
      rw [List.foldl_cons, ih, handed, transcript_append, shown, String.append_assoc, page_cons]

/-- A line gives the number of bytes of its frame in decimal and one pair of upper-case digits for
    each byte, with single spaces between them. What is read from a line or from such pairs is the
    frame that they were written from, and nothing else can be read, so different frames look
    different. The pairs of two frames stand side by side with a space between them. All that a
    printing sink adds to the output reads as the frames that it was given. -/
theorem line_read_back :
    (∀ frame : Frame, ∃ number : String,
      frame.line = "Indication (" ++ number ++ " bytes): " ++ frame.hex ∧
      Decimal number.toList frame.length ∧
      Grouped ' ' [List.replicate frame.length 2] upperHexDigits frame.hex.toList ∧
      (groups frame.hex.toList).map hexNumber = frame.map UInt8.toNat) ∧
    (∀ (text : String) (frame : Frame),
      (ofLine? text.toList = some frame ↔ text = frame.line) ∧
      (ofHex? text.toList = some frame ↔ text = frame.hex)) ∧
    Function.Injective line ∧ Function.Injective hex ∧
    (∀ first second : Frame, first ≠ [] → second ≠ [] →
      (first ++ second).hex = first.hex ++ " " ++ second.hex) ∧
    ∀ {σ ρ : Type} (verbose : Bool) (frames : List Frame) (p : Progress σ ρ),
      (frames.map fun frame => frame.line.toList).mapM ofLine? = some frames ∧
      ∃ text, transcript verbose .standard (frames.foldl (Pump.handOn .print) p).journal =
          transcript verbose .standard p.journal ++ text ∧
        ofLines? text.toList = some frames := by
  have lines (text : String) (frame : Frame) :
      ofLine? text.toList = some frame ↔ text = frame.line := by
    rw [ofLine?_eq_some_iff, String.toList_inj]
  have pairs (text : String) (frame : Frame) :
      ofHex? text.toList = some frame ↔ text = frame.hex := by
    rw [ofHex?_eq_some_iff, ← toList_hex, String.toList_inj]
  refine ⟨fun frame => ?_, fun text frame => ⟨lines text frame, pairs text frame⟩,
    injective_of_reads lines, injective_of_reads pairs, ?_, ?_⟩
  · refine ⟨toString frame.length, rfl, ?_, ?_, ?_⟩
    · rw [Nat.toString_eq_ofList_toDigits, String.toList_ofList]
      exact decimal_toDigits frame.length
    · rw [toList_hex]
      exact grouped_hexChars frame
    · rw [toList_hex]
      exact groups_read frame
  · intro first second filled more
    exact hex_append filled more
  · intro σ ρ verbose frames p
    refine ⟨(mapM_eq_some_iff fun _ _ => ofLine?_eq_some_iff).mpr rfl, page frames, ?_, ?_⟩
    · exact transcript_handOn verbose frames p
    · exact ofLines?_page frames

/-- Zeros in front are kept, and an empty frame has a line as well. -/
theorem line_read_back_zeros :
    ([0x00, 0x0A] : Frame) ≠ [] ∧ ([0xFF] : Frame) ≠ [] ∧
      hex ([0x00, 0x0A] ++ [0xFF]) = hex [0x00, 0x0A] ++ " " ++ hex [0xFF] ∧
      ofLine? "Indication (3 bytes): 00 0A FF".toList = some [0x00, 0x0A, 0xFF] ∧
      ofLine? "Indication (0 bytes): ".toList = some [] := by
  obtain ⟨-, reads, -, -, joins, -⟩ := line_read_back
  refine ⟨nofun, nofun, joins _ _ nofun nofun, (reads _ _).1.mpr ?_, (reads _ _).1.mpr ?_⟩
  · decide
  · decide

end Frame

end BezelStream
