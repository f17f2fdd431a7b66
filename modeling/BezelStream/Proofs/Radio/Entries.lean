import BezelStream.Proofs.Radio.Adapters
import BezelStream.Proofs.Text.Lines

/-! # A printed list of adapters is read back

The tool prints a line for each adapter. What it prints is read back, but for an adapter with
neither a name nor the mark: the blank that must follow the address is then the last character of
the line, and it has been trimmed before it is looked for.
-/

namespace BezelStream.Radio

open Text

/-- An adapter that the tool prints. Its name stands in one line, has no blanks at its ends, and does
    not end like a line with the mark. -/
structure Entry where
  address : List Char
  name : List Char
  isDefault : Bool
  octets : Octets "0123456789abcdefABCDEF" address
  unbroken : Unbroken name
  tight : Tight name
  unmarked : ¬ Marked name

namespace Entry

variable {entry : Entry}

/-- What a line of the list begins with. -/
def word : List Char :=
  "Controller".toList

def mark (entry : Entry) : List Char :=
  if entry.isDefault then ' ' :: defaultMark else []

def line (entry : Entry) : List Char :=
  word ++ ' ' :: entry.address ++ ' ' :: entry.name ++ entry.mark

/-- The adapter to be found in the line. -/
def chosen (entry : Entry) : Chosen :=
  .named entry.address entry.name

/-- Something stands behind the address. -/
def isLegible (entry : Entry) : Bool :=
  entry.name ≠ [] || entry.isDefault

theorem word_tight : Tight word :=
  tight_of_unblank (forall_of_all (by decide))

theorem mark_tight : Tight defaultMark :=
  tight_of_unblank (forall_of_all (by decide))

theorem blank_singleton : Blank [' '] :=
  List.forall_mem_singleton.mpr rfl

theorem word_ne_nil : word ≠ [] := by
  decide

theorem line_unbroken (entry : Entry) : Unbroken entry.line := by
  have digits : ∀ c ∈ "0123456789abcdefABCDEF".toList, isLineEnd c = false :=
    forall_of_all (by decide)
  have address : Unbroken entry.address := Grouped.forall_of entry.octets rfl digits
  have mark : Unbroken entry.mark := by
    unfold Entry.mark
    split
    · exact forall_of_all (by decide)
    · exact List.forall_mem_nil _
  have word : Unbroken word := forall_of_all (by decide)
  have blank : isLineEnd ' ' = false := rfl
  simp only [line, Unbroken, List.forall_mem_append, List.forall_mem_cons]
  exact ⟨⟨⟨word, blank, address⟩, blank, entry.unbroken⟩, mark⟩

/-! ## The reading of one line -/

theorem form_line (blanks : List Char) {rest : List Char}
    (parts : entry.name ++ entry.mark = blanks ++ rest)
    (blank : Blank blanks) (flush : Flush rest) : Form entry.line entry.address rest where
  parts := by
    refine ⟨word, [' '], ' ' :: blanks, ?_, .refl _, ⟨nofun, blank_singleton⟩, nofun, ?_⟩
    · simp only [line, List.append_assoc, List.cons_append, List.nil_append, parts]
    · exact List.forall_mem_cons.mpr ⟨rfl, blank⟩
  octets := entry.octets
  flush := flush

theorem controller?_of_form {core address rest name : List Char} (tight : Tight core)
    (form : Form core address rest) (named : NameIn rest name) :
    controller? core = some (address, name) :=
  controller?_eq_some_iff.mpr ⟨core, rest, core_self tight, form, named⟩

theorem controller?_named (named : entry.name ≠ []) (plain : entry.isDefault = false) :
    controller? entry.line = some (entry.address, entry.name) := by
  have unmarked : entry.mark = [] := by rw [mark, plain, if_neg Bool.false_ne_true]
  have tight : Tight entry.line := by
    have tight := word_tight.append entry.tight word_ne_nil named (' ' :: entry.address ++ [' '])
    simpa [line, unmarked] using tight
  have form : Form entry.line entry.address entry.name :=
    form_line [] (by simp [unmarked]) (List.forall_mem_nil _) entry.tight.first
  exact controller?_of_form tight form (.plain entry.unmarked (core_self entry.tight))

theorem controller?_marked (marked : entry.isDefault = true) :
    controller? entry.line = some (entry.address, entry.name) := by
  have mark : entry.mark = ' ' :: defaultMark := by rw [mark, marked, if_pos rfl]
  have tight : Tight entry.line := by
    have tight := word_tight.append mark_tight word_ne_nil (by decide)
      (' ' :: entry.address ++ ' ' :: entry.name ++ [' '])
    simpa [line, mark] using tight
  by_cases unnamed : entry.name = []
  -- Two blanks stand in front of the mark if there is no name, and both go before the rest.
  · have form : Form entry.line entry.address ([] ++ defaultMark) :=
      form_line [' '] (by simp [mark, unnamed]) blank_singleton mark_tight.first
    rw [controller?_of_form tight form (.marked (.refl _) (core_self (unnamed ▸ entry.tight))),
      unnamed]
  · have form : Form entry.line entry.address (entry.name ++ [' '] ++ defaultMark) :=
      form_line [] (by simp [mark]) (List.forall_mem_nil _) (by
        rw [List.append_assoc]
        exact flush_append entry.tight.first unnamed)
    have bare : Core (entry.name ++ [' ']) entry.name :=
      ⟨⟨[], [' '], rfl, List.forall_mem_nil _, blank_singleton⟩, entry.tight⟩
    exact controller?_of_form tight form (.marked (.refl _) bare)

/-- Without its last blank the line is too short to have the form. -/
theorem controller?_bare (unnamed : entry.name = []) (plain : entry.isDefault = false) :
    controller? entry.line = none := by
  rw [controller?_eq_none_iff]
  rintro ⟨core, address, rest, bare, form⟩
  have trims : Core entry.line (word ++ [' '] ++ entry.address) := by
    refine ⟨⟨[], [' '], ?_, List.forall_mem_nil _, blank_singleton⟩, ?_⟩
    · simp [line, mark, unnamed, plain]
    · exact word_tight.append (entry.octets.tight (forall_of_all (by decide))) word_ne_nil entry.octets.ne_nil _
  have same := (trim_eq_iff.mpr bare).symm.trans (trim_eq_iff.mpr trims)
  -- The form asks for a second gap, for which no character is left.
  obtain ⟨front, gap, margin, parts, letters, gapped, margined⟩ := form.parts
  have short := congrArg List.length (parts.symm.trans same)
  have frontLength : front.length = word.length := List.Forall₂.length_eq letters
  have gapLength := List.length_pos_of_ne_nil gapped.filled
  have marginLength := List.length_pos_of_ne_nil margined.filled
  have entryLength : entry.address.length = 17 := entry.octets.length_eq
  have addressLength : address.length = 17 := form.octets.length_eq
  simp only [List.length_append, List.length_singleton] at short
  omega

theorem controller?_line (entry : Entry) :
    controller? entry.line =
      if entry.isLegible then some (entry.address, entry.name) else none := by
  unfold isLegible
  cases plain : entry.isDefault with
  | true => rw [controller?_marked plain, Bool.or_true, if_pos rfl]
  | false =>
      by_cases unnamed : entry.name = []
      · rw [controller?_bare unnamed plain]
        simp [unnamed]
      · rw [controller?_named unnamed plain]
        simp [unnamed]

/-! ## The reading of the list -/

/-- What is found in a list of these: the first one whose line is legible. -/
def found (entries : List Entry) : Except Fault Chosen :=
  match entries.find? isLegible with
  | some entry => .ok entry.chosen
  | none => .error .noAdapter

theorem decided_lines (entries : List Entry) :
    decided ((entries.map line).findSome? controller?) = found entries := by
  induction entries with
  | nil => rfl
  | cons entry rest ih =>
      rw [List.map_cons, List.findSome?_cons, controller?_line, found, List.find?_cons]
      cases entry.isLegible with
      | true => rfl
      | false => exact ih

end Entry

/-- The line does not hold the word, in whatever letter case. -/
def Wordless (line : List Char) : Prop :=
  ¬ Entry.word.map Char.toLower <:+: line.map Char.toLower

instance : DecidablePred Wordless := fun _ =>
  inferInstanceAs (Decidable (¬ _))

theorem Wordless.formless {line : List Char} (wordless : Wordless line) : ¬ HasForm line := by
  rintro ⟨core, address, rest, ⟨⟨left, right, rfl, -⟩, -⟩, ⟨front, gap, margin, rfl, same, -⟩, -⟩
  have inside : front <:+: left ++ (front ++ (gap ++ (address ++ (margin ++ rest)))) ++ right :=
    ⟨left, gap ++ (address ++ (margin ++ rest)) ++ right, by simp only [List.append_assoc]⟩
  have lower : front.map Char.toLower = Entry.word.map Char.toLower := sameLetters_iff.mp same
  exact wordless (lower ▸ inside.map Char.toLower)

variable {τ : Type} {host : Host τ} {env : τ} {listing : Listing}

/-- The first adapter of a printed list that has a name or the mark is the one that is found. It is
    as good as the first adapter of all if this is the one, or if another one with its address goes
    by the same name. -/
theorem adapter_of_printed (lists : Lists host env listing) (fine : listing.code = 0)
    {before : List (List Char)} {first : Entry} {rest : List Entry}
    (unbroken : ∀ line ∈ before, Unbroken line) (wordless : ∀ line ∈ before, Wordless line)
    (prints : Prints (before ++ (first :: rest).map Entry.line) listing.output.toList) :
    (host.adapter env).1.result = Entry.found (first :: rest) ∧
    ((host.adapter env).1.result = .ok first.chosen ↔
      first.isLegible ∨
        ∃ entry, rest.find? Entry.isLegible = some entry ∧ entry.chosen = first.chosen) := by
  have whole : ∀ line ∈ before ++ (first :: rest).map Entry.line, Unbroken line := by
    refine List.forall_mem_append.mpr ⟨unbroken, List.forall_mem_map.mpr ?_⟩
    exact fun entry _ => entry.line_unbroken
  have found : (host.adapter env).1.result = Entry.found (first :: rest) := by
    rw [lists.decides fine, lines_of_prints prints whole, List.findSome?_append,
      findSome?_formless fun line member => (wordless line member).formless, Option.none_or,
      Entry.decided_lines]
  refine ⟨found, ?_⟩
  rw [found, Entry.found, List.find?_cons]
  cases first.isLegible with
  | true => simp
  | false => cases rest.find? Entry.isLegible <;> simp

def officeHub : Entry where
  address := "00:1a:7d:da:71:13".toList
  name := "Office [default] hub".toList
  isDefault := true
  octets := isAddress_iff.mp (by decide +kernel)
  unbroken := forall_of_all (by decide)
  tight := tight_of_trim (by decide +kernel)
  unmarked := by decide +kernel

/-- An adapter without a name, which is not the default one. -/
def bareDongle : Entry where
  address := "5C:F3:70:00:00:01".toList
  name := []
  isDefault := false
  octets := isAddress_iff.mp (by decide +kernel)
  unbroken := List.forall_mem_nil _
  tight := tight_of_unblank (List.forall_mem_nil _)
  unmarked := by decide +kernel

/-- A name with the mark inside it, behind lines that end in several ways. -/
theorem adapter_of_printed_hub :
    let listing : Listing := ⟨0, "Agent registered\r\n\u2028" ++
      "Controller 00:1a:7d:da:71:13 Office [default] hub [default]\n" ++
      "Controller 5C:F3:70:00:00:01 ", ""⟩
    ((listingHost listing).adapter ()).1.result =
      .ok ⟨"Office [default] hub", some "00:1A:7D:DA:71:13"⟩ := by
  intro listing
  have text : listing.output.toList = "Agent registered".toList ++ ['\r', '\n'] ++ ([] ++
      ['\u2028'] ++ (officeHub.line ++ ['\n'] ++ bareDongle.line)) := by decide +kernel
  have prints : Prints (["Agent registered".toList, []] ++ [officeHub, bareDongle].map Entry.line)
      listing.output.toList := by
    rw [text]
    have apart {c : Char} (other : [c] ≠ ['\r']) (text : List Char) :
        [c] = ['\r'] → ∀ rest, text ≠ '\n' :: rest := fun same => absurd same other
    refine .line .double (fun same => absurd same (by decide)) ?_
    refine .line (.single rfl) (apart (by decide) _) ?_
    refine .line (.single rfl) (apart (by decide) _) ?_
    exact .unended (by decide +kernel)
  have unbroken : ∀ line ∈ ["Agent registered".toList, []], Unbroken line :=
    List.forall_mem_cons.mpr ⟨forall_of_all (by decide), List.forall_mem_singleton.mpr
      (List.forall_mem_nil _)⟩
  obtain ⟨-, first⟩ := adapter_of_printed (listingHost_lists listing) rfl unbroken
    (by decide +kernel) prints
  have chosen : officeHub.chosen = ⟨"Office [default] hub", some "00:1A:7D:DA:71:13"⟩ := by
    decide +kernel
  rw [first.mpr (.inl rfl), chosen]

/-- The only adapter that is printed is not found. -/
theorem adapter_overlooked :
    let listing : Listing := ⟨0, "Controller 5C:F3:70:00:00:01 \n", ""⟩
    Lists (listingHost listing) () listing ∧ Prints [bareDongle.line] listing.output.toList ∧
      ((listingHost listing).adapter ()).1.result ≠ .ok bareDongle.chosen := by
  intro listing
  have text : listing.output.toList = bareDongle.line ++ ['\n'] ++ [] := by decide +kernel
  have lists := listingHost_lists listing
  refine ⟨lists, ?_, ?_⟩
  · rw [text]
    exact .line (.single rfl) (fun same => absurd same (by decide)) .nothing
  · have overlooked : (lines listing.output.toList).findSome? controller? = none := by
      decide +kernel
    rw [lists.decides rfl, overlooked]
    exact nofun

end BezelStream.Radio
