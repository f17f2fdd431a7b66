import BezelStream.Proofs.Text.CodePoint
import BezelStream.Proofs.Text.Lowercase
import BezelStream.Proofs.Text.Pattern
import BezelStream.Yaml.ScalarValue
import Mathlib.Data.List.Find

/-! # Plain scalars by the rules of the language

The language keeps its rules for plain scalars in a table, which names for a first character the
rules that are tried on the scalars that begin with it. `resolve` leaves the rule for truth values
out and does not look at first characters. It comes to the same as the table without that rule: a
rule has only looks that begin with its first characters, and the words for truth values have the
look of no other rule, so they are texts, while nothing changes for any other scalar.
-/

namespace BezelStream.Yaml

open Text

/-- A rule for plain scalars, with the first characters of those that it is tried on. The empty
    scalar has none. -/
structure Rule where
  tag : Tag
  look : Pattern
  firsts : List (Option Char)

def starting (s : String) : List (Option Char) :=
  s.toList.map some

/-- The rule for indicators, with which no plain scalar begins. -/
def indicatorRule : Rule :=
  ⟨.unknown, Pattern.words ["!", "&", "*"], starting "!&*"⟩

/-- The other rules that the language comes with, in the order in which they are tried. -/
def plainRules : List Rule := [
  ⟨.bool, Look.bool, starting "yYnNtTfFoO"⟩,
  ⟨.float, Look.float, starting "-+0123456789."⟩,
  ⟨.int, Look.int, starting "-+0123456789"⟩,
  ⟨.merge, Look.merge, starting "<"⟩,
  ⟨.null, Look.null, none :: starting "~nN"⟩,
  ⟨.timestamp, Look.timestamp, starting "0123456789"⟩,
  ⟨.value, Look.value, starting "="⟩]

def stockRules : List Rule :=
  plainRules ++ [indicatorRule]

/-- The rules that are tried on the scalars with a first character. -/
abbrev Table := Option Char → List (Tag × Pattern)

def stockTable : Table := fun first =>
  (stockRules.filter fun rule => rule.firsts.contains first).map fun rule => (rule.tag, rule.look)

namespace Table

/-- The table without the rule for a tag, wherever that is listed. -/
def without (tag : Tag) (table : Table) : Table := fun first =>
  (table first).filter fun rule => rule.1 != tag

/-- The tag of a plain scalar by the rules for its first character. -/
def tagOf (table : Table) (text : String) : Tag :=
  resolveBy (table text.toList.head?) text

end Table

variable {cs : List Char} {text : String} {rule : Rule}

theorem head_visiblePart (cs : List Char) : (visiblePart cs).head? = cs.head? := by
  unfold visiblePart
  split
  next long => rw [List.head?_dropLast, if_pos long.2]
  · rfl

/-- A rule is tried on whatever has its look. -/
theorem head_mem_firsts (listed : rule ∈ stockRules)
    (looks : rule.look.accepts (visiblePart cs) = true) : cs.head? ∈ rule.firsts := by
  have empty : ∀ rule ∈ stockRules, rule.look.nullable = true → none ∈ rule.firsts := by decide
  have ascii : ∀ rule ∈ stockRules, ∀ range ∈ rule.look.starts, range.2.toNat < 0x80 := by
    decide +kernel
  have checked : ∀ rule ∈ stockRules, ∀ range ∈ rule.look.starts, ∀ n < 0x80,
      range.1 ≤ Char.ofNat n ∧ Char.ofNat n ≤ range.2 → some (Char.ofNat n) ∈ rule.firsts := by
    decide +kernel
  rw [← head_visiblePart]
  cases visible : visiblePart cs with
  | nil =>
      rw [visible] at looks
      exact empty rule listed looks
  | cons c rest =>
      rw [visible, Pattern.accepts_iff] at looks
      obtain ⟨range, among, within⟩ := looks.starts
      have bound : c.toNat < 0x80 :=
        Nat.lt_of_le_of_lt (UInt32.le_iff_toNat_le.mp within.2) (ascii rule listed range among)
      exact forall_ascii
        (P := fun c => range.1 ≤ c ∧ c ≤ range.2 → some c ∈ rule.firsts)
        (checked rule listed range among) c bound within

/-- No plain scalar begins with one of the indicators that the last rule is for. -/
abbrev Unindicated (cs : List Char) : Prop :=
  cs.head? ∉ [some '!', some '&', some '*']

theorem resolveBy_eq (rules : List (Tag × Pattern)) (text : String) :
    resolveBy rules text =
      ((rules.find? fun rule => rule.2.accepts (visiblePart text.toList)).map Prod.fst).getD .str := by
  unfold resolveBy
  dsimp only
  split
  next found => simp [found]
  next found => simp [found]

/-- The rule for indicators applies to no plain scalar. -/
theorem not_accepts_indicator (plain : Unindicated cs) :
    indicatorRule.look.accepts (visiblePart cs) = false :=
  Bool.eq_false_iff.mpr fun looks =>
    plain (head_mem_firsts (List.mem_append_right _ (List.mem_singleton_self _)) looks)

/-- Of some of the rules, the one that the table has for a plain scalar is the first one with its
    look. -/
theorem find_stockTable (keep : Tag → Bool) (plain : Unindicated cs) :
    ((stockTable cs.head?).filter fun rule => keep rule.1).find?
        (fun rule => rule.2.accepts (visiblePart cs)) =
      (languageRules.filter fun rule => keep rule.1).find? fun rule =>
        rule.2.accepts (visiblePart cs) := by
  let accepts (look : Pattern) : Bool := look.accepts (visiblePart cs)
  -- A rule that is not listed for the first character would not apply anyway.
  have tried : ∀ rule ∈ stockRules,
      (rule.firsts.contains cs.head? && (keep rule.tag && accepts rule.look)) =
        (keep rule.tag && accepts rule.look) := by
    intro rule listed
    cases looks : accepts rule.look with
    | false => simp
    | true =>
        have member := List.contains_iff_mem.mpr (head_mem_firsts listed looks)
        rw [member, Bool.true_and]
  have never : accepts indicatorRule.look = false := not_accepts_indicator plain
  calc
    _ = (stockRules.find? fun rule => keep rule.tag && accepts rule.look).map
        (fun rule => (rule.tag, rule.look)) := by
      simp only [stockTable, List.find?_filter, List.find?_map, Bool.decide_and,
        Bool.decide_eq_true, Function.comp_def]
      exact congrArg _ (List.find?_congr tried)
    _ = (plainRules.find? fun rule => keep rule.tag && accepts rule.look).map
        (fun rule => (rule.tag, rule.look)) := by
      simp [stockRules, List.find?_append, never]
    _ = _ := by
      rw [show languageRules = plainRules.map fun rule => (rule.tag, rule.look) from rfl]
      simp only [List.find?_filter, List.find?_map, Bool.decide_and, Bool.decide_eq_true,
        Function.comp_def, accepts]

/-! ## Truth words -/

/-- The tag of a plain scalar by the table that the language comes with. -/
def stockTag (text : String) : Tag :=
  stockTable.tagOf text

/-- What a plain scalar is read as by the rules that the language comes with. -/
def readStock (text : String) : Except Flaw Scalar :=
  readScalar (stockTag text) text

/-- The stock tag, except that what is read as a truth value by it is a text. -/
def labelOf (text : String) : Tag :=
  match readStock text with
  | .ok (.bool _) => .str
  | _ => stockTag text

theorem stockTag_eq (plain : Unindicated text.toList) :
    stockTag text = resolveBy languageRules text := by
  have found := find_stockTable (fun _ => true) plain
  simp only [List.filter_true] at found
  rw [stockTag, Table.tagOf, resolveBy_eq, resolveBy_eq, found]

/-- To leave the rule for truth values out of the table comes to the same as not to try it. -/
theorem resolve_eq_tagOf (plain : Unindicated text.toList) :
    resolve text = (stockTable.without .bool).tagOf text := by
  rw [resolve, Table.tagOf, resolveBy_eq, resolveBy_eq, Table.without,
    find_stockTable (fun tag => tag != .bool) plain]
  rfl

/-- How a plain scalar looks: it begins with no indicator, and no line feed ends it. -/
structure PlainLook (text : String) : Prop where
  first : Unindicated text.toList
  last : text.toList.getLast? ≠ some '\n'

theorem accepts_bool_iff : Look.bool.accepts text.toList = true ↔ text ∈ Look.truthWords := by
  simp [Look.bool, Pattern.accepts_iff, Pattern.matches_words_iff, String.toList_inj]

/-- The rule for truth values is the first one, and no other one applies to their words. -/
theorem resolve_truthWord (among : text ∈ Look.truthWords) : resolve text = .str := by
  have all : ∀ word ∈ Look.truthWords, resolve word = .str := by decide +kernel
  exact all text among

theorem PlainLook.resolve (look : PlainLook text) :
    resolve text = if text ∈ Look.truthWords then .str else stockTag text := by
  have visible : visiblePart text.toList = text.toList := if_neg fun ends => look.last ends.1
  split
  next among => exact resolve_truthWord among
  next other =>
    have passed : Look.bool.accepts text.toList = false :=
      Bool.eq_false_iff.mpr (mt accepts_bool_iff.mp other)
    rw [stockTag_eq look.first, Yaml.resolve, resolveBy_eq, resolveBy_eq, visible]
    simp [rules, languageRules, passed]

theorem resolve_mem (text : String) : resolve text ∈ .str :: rules.map Prod.fst := by
  rw [resolve, resolveBy_eq]
  cases found : rules.find? fun rule => rule.2.accepts (visiblePart text.toList) with
  | none => exact List.mem_cons_self
  | some rule =>
      exact List.mem_cons_of_mem _ (List.mem_map_of_mem (List.mem_of_find?_eq_some found))

@[simp]
theorem tagByLook_ofString (text : String) : tagByLook text = resolve text := by
  rw [tagByLook, CodePoints.string?_ofString]

theorem tagByLook_mem (t : CodePoints) : tagByLook t ∈ .str :: rules.map Prod.fst := by
  unfold tagByLook
  split
  · exact resolve_mem _
  · exact List.mem_cons_self

/-- No plain scalar is a truth value. -/
theorem resolve_ne_bool (text : String) : resolve text ≠ .bool := by
  have others : ∀ tag ∈ .str :: rules.map Prod.fst, tag ≠ .bool := by decide
  exact others _ (resolve_mem text)

theorem stockTag_truthWord (among : text ∈ Look.truthWords) : stockTag text = .bool := by
  have all : ∀ word ∈ Look.truthWords, stockTag word = .bool := by decide +kernel
  exact all text among

theorem readBool_truthWord (among : text ∈ Look.truthWords) :
    ∃ b, readBool text.toList = .ok b := by
  have all : ∀ word ∈ Look.truthWords, (readBool word.toList).toOption.isSome = true := by
    decide +kernel
  have reads := all text among
  cases read : readBool text.toList with
  | ok b => exact ⟨b, rfl⟩
  | error => rw [read] at reads; cases reads

/-- What is read of a date or of a moment is no truth value. -/
theorem readTimestamp_ne_bool (cs : List Char) (b : Bool) :
    readTimestamp cs ≠ .ok (.bool b) := by
  have wrapped {α : Type} (kind : α → Scalar) (other : ∀ a, kind a ≠ .bool b) (x : Option α) :
      (do return kind (← orBad x) : Reading Scalar) ≠ .ok (.bool b) := by
    cases x with
    | none => nofun
    | some a => exact fun same => other a (Except.ok.inj same)
  unfold readTimestamp
  generalize timestampParts? cs = parts
  match parts with
  | none => nofun
  | some ⟨_, none⟩ => exact wrapped .date nofun _
  | some ⟨_, some _⟩ => exact wrapped .moment nofun _

/-- Only under the tag of truth values a scalar is read as one. -/
theorem readScalar_bool {tag : Tag} {t : CodePoints} {b : Bool}
    (reads : readScalar tag t = .ok (.bool b)) : tag = .bool := by
  have wrapped {α : Type} (kind : α → Scalar) (other : ∀ a, kind a ≠ .bool b)
      (x : Except Flaw α) : kind <$> x ≠ .ok (.bool b) := by
    cases x with
    | error => nofun
    | ok a => exact fun same => other a (Except.ok.inj same)
  unfold readScalar at reads
  generalize t.chars? = characters at reads
  cases tag with
  | bool => rfl
  | null | str => cases reads
  | omap | pairs | set | seq | map | merge | value | unknown => cases reads
  | int | float | binary =>
      cases characters with
      | none => cases reads
      | some cs => exact absurd reads (wrapped _ nofun _)
  | timestamp =>
      cases characters with
      | none => cases reads
      | some cs =>
          refine absurd ?_ (readTimestamp_ne_bool cs b)
          change ofReading (readTimestamp cs) = _ at reads
          cases read : readTimestamp cs with
          | error => rw [read] at reads; cases reads
          | ok => rw [read] at reads; cases reads; rfl

namespace PlainLook

theorem stockTag_eq_bool_iff (look : PlainLook text) :
    stockTag text = .bool ↔ text ∈ Look.truthWords := by
  constructor
  · intro truth
    by_contra other
    apply resolve_ne_bool text
    rw [look.resolve, if_neg other, truth]
  · exact stockTag_truthWord

/-- By the rules of the language the truth words are read as truth values, and nothing else is. -/
theorem readStock_bool_iff (look : PlainLook text) :
    (∃ b, readStock text = .ok (.bool b)) ↔ text ∈ Look.truthWords := by
  constructor
  · rintro ⟨b, reads⟩
    exact look.stockTag_eq_bool_iff.mp (readScalar_bool reads)
  · intro among
    obtain ⟨b, reads⟩ := readBool_truthWord among
    refine ⟨b, ?_⟩
    rw [readStock, stockTag_truthWord among]
    unfold readScalar
    rw [CodePoints.chars?_ofString]
    dsimp only
    rw [reads]
    rfl

example : readStock "Off" = .ok (.bool false) ∧ Yaml.resolve "Off" = .str := by decide +kernel

theorem resolve_eq_labelOf (look : PlainLook text) : Yaml.resolve text = labelOf text := by
  rw [look.resolve, labelOf]
  split
  next among =>
    obtain ⟨b, reads⟩ := look.readStock_bool_iff.mpr among
    rw [reads]
  next other =>
    split
    next b reads => exact absurd (look.readStock_bool_iff.mp ⟨b, reads⟩) other
    · rfl

end PlainLook

end BezelStream.Yaml
