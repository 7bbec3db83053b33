import SpanWeave.Settings.Loading

/-!
# What the values of a document say

A value of a document is found under a row of keys (`Datum.at?`), and only a text or a number says
anything there (`Writes`, `Counts`). A setting goes by such a value (`GoesBy`): where it says
nothing, and where a section is no mapping, the setting has its default.
-/

set_option autoImplicit false

namespace SpanWeave

namespace Datum

/-! ## Values inside values -/

/-- One value lies within another one: it is the same, or lies within an item, a member, a key or a
value of it. -/
inductive Within (inner : Datum) : Datum → Prop
  | itself : Within inner inner
  | item {x : Datum} {items : List Datum} (mem : x ∈ items) (h : Within inner x) :
    Within inner (.list items)
  | tupleItem {x : Datum} {items : List Datum} (mem : x ∈ items) (h : Within inner x) :
    Within inner (.tuple items)
  | member {x : Datum} {items : List Datum} (mem : x ∈ items) (h : Within inner x) :
    Within inner (.set items)
  | key {k v : Datum} {entries : List (Datum × Datum)} (mem : (k, v) ∈ entries)
    (h : Within inner k) : Within inner (.dict entries)
  | value {k v : Datum} {entries : List (Datum × Datum)} (mem : (k, v) ∈ entries)
    (h : Within inner v) : Within inner (.dict entries)

/-- Whether no whole number within a value is too long to be written out. -/
def IsWritable (d : Datum) : Prop := ∀ x, Within x d → x.isEndless = false

variable {d v : Datum} {entries : List (Datum × Datum)} {key : String} {keys : List String}

theorem isEndless_byte (b : UInt8) : (int b.toNat).isEndless = false := by
  have hpow : ∀ limit, 3 ≤ limit → 10 ^ 3 ≤ Nat.pow 10 limit := by
    intro limit hlimit
    exact Nat.pow_le_pow_right (by decide) hlimit
  unfold isEndless
  rw [decide_eq_false_iff_not, Nat.not_le]
  calc b.toNat < 2 ^ 8 := b.toNat_lt
    _ ≤ 10 ^ 3 := by decide
    _ ≤ Nat.pow 10 Text.digitLimit := hpow _ (by decide)

theorem isWritable_empty : (dict []).IsWritable := by
  intro x hx
  cases hx with
  | itself => rfl
  | key mem _ => cases mem
  | value mem _ => cases mem

theorem mem_of_entryAt? (h : entryAt? key entries = some v) : ∃ k, (k, v) ∈ entries := by
  induction entries with
  | nil => cases h
  | cons entry rest ih =>
    obtain ⟨k, other⟩ := entry
    unfold entryAt? at h
    split at h
    · rename_i later hlater
      cases h
      obtain ⟨k', hmem⟩ := ih hlater
      exact ⟨k', List.mem_cons_of_mem _ hmem⟩
    · split at h
      · split at h <;> cases h
        exact ⟨_, List.mem_cons_self⟩
      · cases h

theorem IsWritable.entry (h : (dict entries).IsWritable) (hentry : entryAt? key entries = some v) :
    v.IsWritable := by
  obtain ⟨k, hmem⟩ := mem_of_entryAt? hentry
  exact fun x hx => h x (.value hmem hx)

/-- No item of a value as a sequence is too long to be written out; those of bytes are bytes. -/
theorem IsWritable.sequence (h : d.IsWritable) : ∀ x ∈ d.sequence, x.isEndless = false := by
  intro x hx
  cases d with
  | list items => exact h x (.item hx .itself)
  | tuple items => exact h x (.tupleItem hx .itself)
  | bytes bs =>
    obtain ⟨b, -, rfl⟩ := List.mem_map.mp hx
    exact isEndless_byte b
  | _ => cases hx

/-! ## Values under keys -/

/-- The value under a row of keys, each of which is looked up in a mapping. -/
def at? : List String → Datum → Option Datum
  | [], d => some d
  | key :: keys, d => (entryAt? key d.entries).bind (at? keys)

theorem at?_key : (dict entries).at? [key] = entryAt? key entries :=
  Option.bind_fun_some _

theorem at?_section {name : String} :
    (dict entries).at? [name, key] = entryAt? key (section? name entries) := by
  unfold section? at?
  dsimp only [Datum.entries]
  cases entryAt? name entries with
  | none => rfl
  | some v => exact Option.bind_fun_some _

/-- The entries of a section are within the document. -/
theorem IsWritable.section? (h : (dict entries).IsWritable) (name : String) :
    (dict (section? name entries)).IsWritable := by
  unfold SpanWeave.section?
  cases hentry : entryAt? name entries with
  | none => exact isWritable_empty
  | some v =>
    cases v with
    | dict es => exact h.entry hentry
    | _ => exact isWritable_empty

/-! ## What single values say -/

/-- A value that counts as a text, with the text: a text or a number, and no truth value. -/
inductive Writes : Datum → String → Prop
  | text (s : String) : Writes (.text s) s
  | int (n : Int) : Writes (.int n) (toString n)
  | float (x : Binary64) : Writes (.float x) x.text

/-- A value that counts as a whole number: it is one, or a text that spells one. -/
inductive Counts : Datum → Int → Prop
  | int (n : Int) : Counts (.int n) n
  | text {s : String} {n : Int} (spelt : Number.whole? s = some n) : Counts (.text s) n

theorem writes_iff {s : String} : d.Writes s ↔ d.asText? = some s := by
  constructor
  · rintro (_ | _ | _) <;> rfl
  · intro h
    cases d <;> cases h
    · exact .int _
    · exact .float _
    · exact .text _

theorem counts_iff {n : Int} : d.Counts n ↔ d.asWhole? = some n := by
  constructor
  · rintro (_ | hspelt)
    · rfl
    · exact hspelt
  · intro h
    cases d with
    | int m =>
      cases h
      exact .int _
    | text s => exact .text h
    | _ => cases h

/-- What the value under a row of keys says as a text. -/
def textAt? (keys : List String) (d : Datum) : Option String := (d.at? keys).bind asText?

theorem textAt?_eq_some_iff {s : String} :
    d.textAt? keys = some s ↔ ∃ v, d.at? keys = some v ∧ v.Writes s := by
  simp only [textAt?, Option.bind_eq_some_iff, writes_iff]

/-- What the value under a row of keys says as a whole number. -/
def wholeAt? (keys : List String) (d : Datum) : Option Int := (d.at? keys).bind asWhole?

theorem wholeAt?_eq_some_iff {n : Int} :
    d.wholeAt? keys = some n ↔ ∃ v, d.at? keys = some v ∧ v.Counts n := by
  simp only [wholeAt?, Option.bind_eq_some_iff, counts_iff]

theorem textAt?_key : (dict entries).textAt? [key] = (entryAt? key entries).bind asText? := by
  rw [textAt?, at?_key]

theorem textAt?_section {name : String} :
    (dict entries).textAt? [name, key] =
      (entryAt? key (section? name entries)).bind asText? := by
  rw [textAt?, at?_section]

theorem wholeAt?_key : (dict entries).wholeAt? [key] = entryWhole? key entries := by
  rw [wholeAt?, at?_key, entryWhole?]

theorem wholeAt?_section {name : String} :
    (dict entries).wholeAt? [name, key] = entryWhole? key (section? name entries) := by
  rw [wholeAt?, at?_section, entryWhole?]

/-- A value that counts as a text with something in it. -/
def WritesSome (d : Datum) (s : String) : Prop := d.Writes s ∧ s ≠ ""

/-- A value that names a licence. -/
def NamesLicense (d : Datum) (l : License) : Prop := ∃ s, d.Writes s ∧ License.ofName? s = some l

/-- A setting goes by the value under a row of keys: it is made from what that value says, and has
its default where there is no value that says anything. -/
structure GoesBy {α β : Type} (d : Datum) (keys : List String) (means : Datum → α → Prop)
    (make : α → β) (default setting : β) : Prop where
  said : ∀ v a, d.at? keys = some v → means v a → setting = make a
  unsaid : (∀ v a, d.at? keys = some v → ¬ means v a) → setting = default

section

variable {α β : Type} {means : Datum → α → Prop} {make : α → β} {default setting : β}

/-- A setting goes by what is found under its keys if it is made from that. -/
theorem GoesBy.of_found {found : Option α}
    (hfound : ∀ a, found = some a ↔ ∃ v, d.at? keys = some v ∧ means v a)
    (h : setting = (found.map make).getD default) : GoesBy d keys means make default setting := by
  constructor
  · intro v a hv ha
    rw [h, (hfound a).mpr ⟨v, hv, ha⟩]
    rfl
  · intro hnone
    have hfound : found = none := by
      rw [Option.eq_none_iff_forall_ne_some]
      intro a ha
      obtain ⟨v, hv, hmeans⟩ := (hfound a).mp ha
      exact hnone v a hv hmeans
    rw [h, hfound]
    rfl

end

theorem filter_textAt?_eq_some_iff {s : String} :
    (d.textAt? keys).filter (· != "") = some s ↔ ∃ v, d.at? keys = some v ∧ v.WritesSome s := by
  simp only [Option.filter_eq_some_iff, textAt?_eq_some_iff, bne_iff_ne, WritesSome]
  constructor
  · rintro ⟨⟨v, hv, hs⟩, hne⟩
    exact ⟨v, hv, hs, hne⟩
  · rintro ⟨v, hv, hs, hne⟩
    exact ⟨⟨v, hv, hs⟩, hne⟩

theorem bind_textAt?_eq_some_iff {l : License} :
    (d.textAt? keys).bind License.ofName? = some l ↔
      ∃ v, d.at? keys = some v ∧ v.NamesLicense l := by
  simp only [Option.bind_eq_some_iff, textAt?_eq_some_iff, NamesLicense]
  constructor
  · rintro ⟨s, ⟨v, hv, hs⟩, hl⟩
    exact ⟨v, hv, s, hs, hl⟩
  · rintro ⟨v, hv, s, hs, hl⟩
    exact ⟨s, ⟨v, hv, hs⟩, hl⟩

end Datum

end SpanWeave
