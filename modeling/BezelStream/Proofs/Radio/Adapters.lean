import BezelStream.Proofs.Radio.Controllers

/-! # Which line decides on the adapter

Whatever a Linux host answers when it is asked for its list, the first line that names an adapter
decides, and lines that name none count for nothing.
-/

namespace BezelStream.Radio

open Text

variable {τ : Type} {host : Host τ} {env : τ} {listing : Listing}
variable {line address name : List Char} {ls xs ys zs : List (List Char)}

/-! ## The list of a host -/

/-- On a Linux host the tool answers with this. -/
structure Lists (host : Host τ) (env : τ) (listing : Listing) : Prop where
  linux : "linux".toList <+: host.platform.toList
  answers : (host.list env).1.result = .ok (some listing)

theorem Lists.result_eq (lists : Lists host env listing) :
    (host.adapter env).1.result = (choose listing).2 := by
  obtain ⟨linux, answers⟩ := lists
  unfold Host.adapter Call.remarked
  rw [if_pos (List.isPrefixOf_iff_prefix.mpr linux)]
  generalize host.list env = reply at answers
  obtain ⟨⟨occurrences, result⟩, later⟩ := reply
  cases answers
  rfl

/-- The adapter with this address and this name. The address stands for a name that is empty. -/
def Chosen.named (address name : List Char) : Chosen :=
  let address := String.ofList (address.map Char.toUpper)
  ⟨if name = [] then address else String.ofList name, some address⟩

/-- What comes of the line that was found. -/
def decided : Option (List Char × List Char) → Except Fault Chosen
  | some (address, name) => .ok (.named address name)
  | none => .error .noAdapter

theorem Lists.decides (lists : Lists host env listing) (fine : listing.code = 0) :
    (host.adapter env).1.result =
      decided ((lines listing.output.toList).findSome? controller?) := by
  rw [lists.result_eq, choose, if_neg (not_not_intro fine), firstController?]
  cases (lines listing.output.toList).findSome? controller? with
  | none => rfl
  | some found =>
      simp only [Option.map_some, decided, Chosen.named, asciiUpper, String.toList_ofList,
        String.isEmpty_iff, String.ofList_eq_empty_iff]

/-! ## The line that decides -/

/-- The first line of these that names an adapter. -/
def Leads (line : List Char) (ls : List (List Char)) : Prop :=
  ∃ before after, ls = before ++ line :: after ∧ HasForm line ∧
    ∀ other ∈ before, ¬ HasForm other

theorem findSome?_formless (formless : ∀ line ∈ ls, ¬ HasForm line) :
    ls.findSome? controller? = none :=
  List.findSome?_eq_none_iff.mpr fun line member =>
    controller?_eq_none_iff.mpr (formless line member)

theorem findSome?_leads (leads : Leads line ls) : ls.findSome? controller? = controller? line := by
  obtain ⟨before, after, rfl, form, formless⟩ := leads
  rw [List.findSome?_append, findSome?_formless formless, Option.none_or, List.findSome?_cons]
  cases found : controller? line with
  | none => exact absurd form (controller?_eq_none_iff.mp found)
  | some parts => rfl

theorem leads_or_formless (ls : List (List Char)) :
    (∃ line, Leads line ls) ∨ ∀ line ∈ ls, ¬ HasForm line := by
  induction ls with
  | nil => exact .inr (List.forall_mem_nil _)
  | cons line rest ih =>
      by_cases form : HasForm line
      · exact .inl ⟨line, [], rest, rfl, form, List.forall_mem_nil _⟩
      rcases ih with ⟨first, before, after, rfl, formed, formless⟩ | formless
      · refine .inl ⟨first, line :: before, after, rfl, formed, ?_⟩
        exact List.forall_mem_cons.mpr ⟨form, formless⟩
      · exact .inr (List.forall_mem_cons.mpr ⟨form, formless⟩)

theorem findSome?_insert (formless : ∀ line ∈ ys, ¬ HasForm line) :
    (xs ++ ys ++ zs).findSome? controller? = (xs ++ zs).findSome? controller? := by
  rw [List.findSome?_append, List.findSome?_append, List.findSome?_append,
    findSome?_formless formless, Option.or_none]

/-! ## The choice -/

/-- An adapter with an address in capitals and with a name that has no blanks at its ends. -/
structure Chosen.Sound (chosen : Chosen) : Prop where
  address : ∃ address, chosen.address = some address ∧ Octets "0123456789ABCDEF" address.toList
  filled : chosen.name ≠ ""
  tight : Tight chosen.name.toList

theorem named_sound (octets : Octets "0123456789abcdefABCDEF" address) (tight : Tight name) :
    (Chosen.named address name).Sound := by
  have upper := octets.upper
  refine ⟨⟨_, rfl, by rwa [String.toList_ofList]⟩, ?_, ?_⟩ <;> unfold Chosen.named <;> dsimp only
  · split
    next => exact mt String.ofList_eq_empty_iff.mp upper.ne_nil
    next filled => exact mt String.ofList_eq_empty_iff.mp filled
  · split
    next =>
      rw [String.toList_ofList]
      exact upper.tight (forall_of_all (by decide))
    next => rwa [String.toList_ofList]

theorem Names.sound (names : Names line address name) : (Chosen.named address name).Sound := by
  obtain ⟨core, rest, -, form, named⟩ := names
  exact named_sound form.octets named.tight

/-- There is no adapter. -/
def NotFound (result : Except Fault Chosen) : Prop :=
  ∃ fault, result = .error fault ∧ fault.failure? = some .adapterNotFound

theorem decided_cases (ls : List (List Char)) :
    NotFound (decided (ls.findSome? controller?)) ∧ (∀ line ∈ ls, ¬ HasForm line) ∨
      (∃ chosen, decided (ls.findSome? controller?) = .ok chosen ∧ chosen.Sound) ∧
        ∃ line ∈ ls, HasForm line := by
  rcases leads_or_formless ls with ⟨line, leads⟩ | formless
  · right
    rw [findSome?_leads leads]
    obtain ⟨before, after, rfl, form, -⟩ := leads
    refine ⟨?_, line, List.mem_append_right _ List.mem_cons_self, form⟩
    cases found : controller? line with
    | none => exact absurd form (controller?_eq_none_iff.mp found)
    | some parts => exact ⟨_, rfl, (controller?_eq_some_iff.mp found).sound⟩
  · left
    rw [findSome?_formless formless]
    exact ⟨⟨.noAdapter, rfl, rfl⟩, formless⟩

/-- Another code than zero means that there is no adapter. Otherwise there is a sound one exactly if
    a line names one. It is the one of the first such line, so it does not depend on what follows
    this line, nor on lines that name none. -/
theorem adapter_by_first_line (lists : Lists host env listing) :
    (listing.code ≠ 0 → NotFound (host.adapter env).1.result) ∧
    (listing.code = 0 →
      (NotFound (host.adapter env).1.result ∨
        ∃ chosen, (host.adapter env).1.result = .ok chosen ∧ chosen.Sound) ∧
      (NotFound (host.adapter env).1.result ↔
        ∀ line ∈ lines listing.output.toList, ¬ HasForm line) ∧
      (∀ line address name, Leads line (lines listing.output.toList) →
        Names line address name → (host.adapter env).1.result = .ok (.named address name)) ∧
      ∀ {σ : Type} (other : Host σ) (later : σ) (changed : Listing),
        Lists other later changed → changed.code = 0 →
        (∀ line, Leads line (lines listing.output.toList) →
          Leads line (lines changed.output.toList) →
          (other.adapter later).1.result = (host.adapter env).1.result) ∧
        (∀ xs ys zs, lines listing.output.toList = xs ++ zs →
          lines changed.output.toList = xs ++ ys ++ zs → (∀ line ∈ ys, ¬ HasForm line) →
          (other.adapter later).1.result = (host.adapter env).1.result)) := by
  constructor
  · intro failed
    rw [lists.result_eq, choose, if_pos failed]
    exact ⟨_, rfl, rfl⟩
  intro fine
  rw [lists.decides fine]
  refine ⟨?_, ?_, ?_, ?_⟩
  · rcases decided_cases (lines listing.output.toList) with ⟨missing, -⟩ | ⟨chosen, -⟩
    · exact .inl missing
    · exact .inr chosen
  · rcases decided_cases (lines listing.output.toList) with
      ⟨missing, formless⟩ | ⟨⟨chosen, found, -⟩, line, member, form⟩
    · exact iff_of_true missing formless
    · refine iff_of_false ?_ fun formless => formless line member form
      rintro ⟨fault, failed, -⟩
      rw [found] at failed
      cases failed
  · intro line address name leads names
    rw [findSome?_leads leads, controller?_eq_some_iff.mpr names, decided]
  · intro σ other later changed alike alsoFine
    rw [alike.decides alsoFine]
    constructor
    · intro line leads alsoLeads
      rw [findSome?_leads leads, findSome?_leads alsoLeads]
    · intro xs ys zs shorter longer formless
      rw [shorter, longer, findSome?_insert formless]

/-- A Linux host whose tool always answers with this, and which can do nothing else. -/
def listingHost (listing : Listing) : Host Unit where
  platform := "linux"
  list := .pure (some listing)
  scanner := ⟨.pure (), fun _ _ => ([], ()), .pure ()⟩
  central := ⟨fun _ => .pure (), fun _ => .pure (), fun _ => .pure [], fun _ _ => .pure (),
    fun _ _ => .pure ()⟩

theorem listingHost_lists (listing : Listing) : Lists (listingHost listing) () listing :=
  ⟨List.prefix_rfl, rfl⟩

/-- The line of the second answer that is not in the first one lacks a pair of its address. -/
theorem adapter_by_first_line_noise :
    let plain : Listing := ⟨0, "CONTROLLER  0a:1b:2c:3d:4e:5f\t[Default]\n", ""⟩
    let noisy : Listing :=
      ⟨0, "Controller 00:1A:7D:DA:71 hub\u2028CONTROLLER  0a:1b:2c:3d:4e:5f\t[Default]\n", "late"⟩
    ((listingHost noisy).adapter ()).1.result = ((listingHost plain).adapter ()).1.result ∧
      ¬ NotFound ((listingHost plain).adapter ()).1.result := by
  intro plain noisy
  obtain ⟨-, decides⟩ := adapter_by_first_line (listingHost_lists plain)
  obtain ⟨-, missing, -, unmoved⟩ := decides rfl
  obtain ⟨-, inserted⟩ := unmoved (listingHost noisy) () noisy (listingHost_lists noisy) rfl
  let noise := "Controller 00:1A:7D:DA:71 hub".toList
  have formless : ∀ line ∈ [noise], ¬ HasForm line := by decide +kernel
  have formed : HasForm "CONTROLLER  0a:1b:2c:3d:4e:5f\t[Default]".toList := by decide +kernel
  have shorter : lines plain.output.toList =
      [] ++ ["CONTROLLER  0a:1b:2c:3d:4e:5f\t[Default]".toList] := by decide +kernel
  have longer : lines noisy.output.toList =
      [] ++ [noise] ++ ["CONTROLLER  0a:1b:2c:3d:4e:5f\t[Default]".toList] := by decide +kernel
  refine ⟨inserted _ _ _ shorter longer formless, ?_⟩
  rw [missing, shorter]
  exact fun formless => formless _ List.mem_cons_self formed

end BezelStream.Radio
