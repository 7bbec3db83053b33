import SpanWeave.Proofs.Files.WellFormed

/-!
# Trees with more files

A tree may differ from another one only in files at some places, at which no folder stood. Paths
then lead to the same places in both trees, so at every path that does not lead to one of those
places the same thing stands and the same is read.
-/

set_option autoImplicit false

namespace SpanWeave.FileTree

/-- The second tree has files at some of the given places that are not, or not so, in the first one;
all else is the same. -/
def AddsFiles (added : Place → Prop) (t u : FileTree) : Prop :=
  ∀ q, u.entryAt? q = t.entryAt? q ∨
    added q ∧ t.entryAt? q ≠ some .folder ∧ ∃ content, u.entryAt? q = some (.file content)

namespace AddsFiles

variable {added : Place → Prop} {t u : FileTree}

theorem refl (added : Place → Prop) (t : FileTree) : AddsFiles added t t :=
  fun _ => Or.inl rfl

/-- One more file at a given place. -/
theorem set (h : AddsFiles added t u) {p : Place} (hp : added p)
    (hfree : u.entryAt? p ≠ some .folder) (content : List UInt8) :
    AddsFiles added t (u.set p (.file content)) := by
  intro q
  rw [entryAt?_set (place_ne_nil hfree)]
  by_cases hq : q = p
  · subst hq
    right
    refine ⟨hp, ?_, content, if_pos rfl⟩
    intro hfolder
    rcases h q with hsame | ⟨-, hnot, -⟩
    · exact hfree (hsame.trans hfolder)
    · exact hnot hfolder
  · rw [if_neg hq]
    exact h q

/-- The folders are the same. -/
theorem folder_iff (h : AddsFiles added t u) (q : Place) :
    u.entryAt? q = some .folder ↔ t.entryAt? q = some .folder := by
  rcases h q with hsame | ⟨-, hnot, content, hfile⟩
  · rw [hsame]
  · rw [hfile]
    simp [hnot]

/-- What does not stand at a given place is the same. -/
theorem entry_eq (h : AddsFiles added t u) {q : Place} (hq : ¬ added q) :
    u.entryAt? q = t.entryAt? q := by
  rcases h q with hsame | ⟨hadded, -⟩
  · exact hsame
  · exact absurd hadded hq

/-- Paths lead to the same places. -/
theorem locate_iff (h : AddsFiles added t u) {p : Path} {place : Place} :
    u.locate p = .ok place ↔ t.locate p = .ok place :=
  ⟨locate_mono fun q => (h.folder_iff q).mp, locate_mono fun q => (h.folder_iff q).mpr⟩

/-- The same stands at a path to a place that is not a given one. -/
theorem at?_eq (h : AddsFiles added t u) {p : Path} (hp : ¬ added p.place) :
    u.at? p = t.at? p := by
  apply Option.ext
  intro e
  rw [at?_eq_some, at?_eq_some, h.locate_iff, h.entry_eq hp]

theorem holds_eq (h : AddsFiles added t u) {p : Path} (hp : ¬ added p.place) :
    u.holds p = t.holds p := by
  unfold holds
  rw [h.at?_eq hp]

/-- Folders stand at the same paths. -/
theorem holdsFolder_eq (h : AddsFiles added t u) (p : Path) :
    u.holdsFolder p = t.holdsFolder p := by
  rw [Bool.eq_iff_iff, holdsFolder_iff, holdsFolder_iff, h.locate_iff, h.folder_iff]

/-- The same is read at a path to a place that is not a given one, if something stands there. -/
theorem read_eq (h : AddsFiles added t u) {p : Path} (hp : ¬ added p.place)
    (hholds : t.holds p = true) : u.read p = t.read p := by
  unfold holds at hholds
  obtain ⟨e, he⟩ := Option.isSome_iff_exists.mp hholds
  cases e with
  | folder =>
    have hfolder : t.holdsFolder p = true := holdsFolder_iff.mpr (at?_eq_some.mp he)
    have hfolder' := (h.holdsFolder_eq p).trans hfolder
    rw [read_of_holdsFolder hfolder, read_of_holdsFolder hfolder']
  | file content =>
    have hfile := (h.at?_eq hp).trans he
    rw [read_eq_ok.mpr he, read_eq_ok.mpr hfile]

end AddsFiles

/-- Writing to a place where the same file stands already changes nothing. -/
theorem entryAt?_set_same {t : FileTree} {p : Place} {content : List UInt8}
    (h : t.entryAt? p = some (.file content)) (q : Place) :
    (t.set p (.file content)).entryAt? q = t.entryAt? q := by
  have hp : t.entryAt? p ≠ some .folder := by
    rw [h]
    simp
  rw [entryAt?_set (place_ne_nil hp)]
  split
  · rename_i hq
    rw [hq, h]
  · rfl

end SpanWeave.FileTree
