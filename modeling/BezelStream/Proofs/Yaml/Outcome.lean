import BezelStream.Yaml.Flaw

/-! # What is known of computations that may fail

`GivesOrFails` is about a result or a flaw, `ReadsWithin` about a reader of part of a text, and
`EndsOrFails` about a computation with a state.
-/

namespace BezelStream.Yaml

variable {σ α β : Type}

/-- What is known of a result: something holds of it, or the flaw is of a kind. -/
def GivesOrFails (holds : α → Prop) (flaws : Flaw → Prop) : Except Flaw α → Prop
  | .ok a => holds a
  | .error f => flaws f

/-- What a reader comes to within a text. -/
abbrev ReadsWithin (text : List β) (flaws : Flaw → Prop) (x : Except Flaw (α × List β)) : Prop :=
  GivesOrFails (fun read => read.2 <:+ text) flaws x

/-- What comes after a computation matters only where that has a result. -/
theorem bind_eq_bind {x : Except Flaw β} {next other : β → Except Flaw α}
    (same : ∀ b, x = .ok b → next b = other b) : x >>= next = x >>= other := by
  cases x with
  | error => rfl
  | ok b => exact same b rfl

namespace GivesOrFails

variable {holds : α → Prop} {flaws : Flaw → Prop} {x : Except Flaw α}

theorem bind {mid : β → Prop} {x : Except Flaw β} {next : β → Except Flaw α}
    (first : GivesOrFails mid flaws x) (rest : ∀ b, mid b → GivesOrFails holds flaws (next b)) :
    GivesOrFails holds flaws (x >>= next) := by
  cases x with
  | error f => exact first
  | ok b => exact rest b first

theorem error {f : Flaw} (gives : GivesOrFails holds flaws x) (failed : x = .error f) : flaws f := by
  rwa [failed] at gives

theorem ok {a : α} (gives : GivesOrFails holds flaws x) (came : x = .ok a) : holds a := by
  rwa [came] at gives

/-- A computation with another after it, where the first is looked at again. -/
theorem through {x : Except Flaw β} {next : β → Except Flaw α}
    (fails : ∀ f, x = .error f → flaws f)
    (rest : ∀ b, x = .ok b → GivesOrFails holds flaws (next b)) :
    GivesOrFails holds flaws (x >>= next) := by
  cases x with
  | error f => exact fails f rfl
  | ok b => exact rest b rfl

theorem ite {c : Prop} [Decidable c] {y : Except Flaw α} (yes : GivesOrFails holds flaws x)
    (no : GivesOrFails holds flaws y) : GivesOrFails holds flaws (if c then x else y) := by
  split
  · exact yes
  · exact no

theorem imp {few : Flaw → Prop} {mid : α → Prop} (gives : GivesOrFails mid few x)
    (same : ∀ a, mid a → holds a) (more : ∀ f, few f → flaws f) : GivesOrFails holds flaws x := by
  cases x with
  | error f => exact more f gives
  | ok a => exact same a gives

/-- Where nothing but a malformed text can be wrong, no more can be than elsewhere. -/
theorem of_malformed (gives : GivesOrFails holds (· = .malformed) x) (malformed : flaws .malformed) :
    GivesOrFails holds flaws x :=
  gives.imp (fun _ held => held) fun _ same => same ▸ malformed

end GivesOrFails

/-- What is known of a computation from a state on: a flaw of it is of a kind, and something
    holds of its result and the state after it. -/
def EndsOrFails (x : StateT σ (Except Flaw) α) (s : σ) (flaws : Flaw → Prop) (holds : α → σ → Prop) :
    Prop :=
  GivesOrFails (fun ended => holds ended.1 ended.2) flaws (x.run s)

namespace EndsOrFails

variable {flaws : Flaw → Prop} {holds : α → σ → Prop} {s : σ}

theorem pure {a : α} (held : holds a s) : EndsOrFails (pure a) s flaws holds :=
  held

theorem throw {f : Flaw} (flaw : flaws f) : EndsOrFails (throw f) s flaws holds :=
  flaw

theorem bind {x : StateT σ (Except Flaw) β} {next : β → StateT σ (Except Flaw) α}
    {mid : β → σ → Prop} (first : EndsOrFails x s flaws mid)
    (rest : ∀ b t, mid b t → EndsOrFails (next b) t flaws holds) :
    EndsOrFails (x >>= next) s flaws holds := by
  unfold EndsOrFails
  rw [StateT.run_bind]
  exact GivesOrFails.bind first fun (b, t) => rest b t

theorem get_bind {next : σ → StateT σ (Except Flaw) α} (rest : EndsOrFails (next s) s flaws holds) :
    EndsOrFails (get >>= next) s flaws holds :=
  rest

theorem set_bind {next : PUnit → StateT σ (Except Flaw) α} {t : σ}
    (rest : EndsOrFails (next ⟨⟩) t flaws holds) : EndsOrFails (set t >>= next) s flaws holds :=
  rest

theorem modify_bind {next : PUnit → StateT σ (Except Flaw) α} {change : σ → σ}
    (rest : EndsOrFails (next ⟨⟩) (change s) flaws holds) :
    EndsOrFails (modify change >>= next) s flaws holds :=
  rest

/-- A loop, by what every turn of it keeps. -/
theorem mapM {f : β → StateT σ (Except Flaw) α} {kept : σ → Prop} {each : α → Prop} {bs : List β}
    (turn : ∀ b ∈ bs, ∀ t, kept t → EndsOrFails (f b) t flaws fun a u => each a ∧ kept u)
    (begun : kept s) : EndsOrFails (bs.mapM f) s flaws fun as t => (∀ a ∈ as, each a) ∧ kept t := by
  induction bs generalizing s with
  | nil => exact .pure ⟨nofun, begun⟩
  | cons b rest ih =>
      rw [List.mapM_cons]
      refine (turn b List.mem_cons_self s begun).bind fun a t ⟨one, going⟩ => ?_
      refine (ih (fun c member => turn c (List.mem_cons_of_mem b member)) going).bind ?_
      rintro as u ⟨others, ended⟩
      exact .pure ⟨List.forall_mem_cons.mpr ⟨one, others⟩, ended⟩

theorem forM {f : β → StateT σ (Except Flaw) PUnit} {kept : σ → Prop} {bs : List β}
    (turn : ∀ b ∈ bs, ∀ t, kept t → EndsOrFails (f b) t flaws fun _ u => kept u)
    (begun : kept s) : EndsOrFails (bs.forM f) s flaws fun _ t => kept t := by
  induction bs generalizing s with
  | nil => exact .pure begun
  | cons b rest ih =>
      refine (turn b List.mem_cons_self s begun).bind fun _ t going => ?_
      exact ih (fun c member => turn c (List.mem_cons_of_mem b member)) going

theorem of_few {x : StateT σ (Except Flaw) α} {few : Flaw → Prop} (ends : EndsOrFails x s few holds)
    (more : ∀ f, few f → flaws f) : EndsOrFails x s flaws holds :=
  GivesOrFails.imp ends (fun _ held => held) more

theorem imp {x : StateT σ (Except Flaw) α} {more : α → σ → Prop} (ends : EndsOrFails x s flaws holds)
    (weaker : ∀ a t, holds a t → more a t) : EndsOrFails x s flaws more :=
  GivesOrFails.imp ends (fun (a, t) => weaker a t) fun _ flaw => flaw

end EndsOrFails

end BezelStream.Yaml
