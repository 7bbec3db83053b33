import SpanWeave.Files.Tree
import SpanWeave.Proofs.Files.PathNames
import SpanWeave.Proofs.TracedResult

/-!
# What operations do to a file tree

Every operation is described through `FileTree.entryAt?`. Following a path never depends on more
than the folders on its way, so the place that it leads to is a matter of its names; making folders
and writing a file leave all other places as they are.
-/

set_option autoImplicit false

namespace SpanWeave

/-- The place that one more name leads to. -/
def placeAfter (here : Place) (name : String) : Place :=
  if name = ".." then here.dropLast else here ++ [name]

/-- The place that a path leads to if it leads anywhere. -/
def Path.place (p : Path) : Place := p.names.foldl placeAfter []

/-- Proper names lead to the place of these names. -/
theorem foldl_placeAfter {names : List String} (h : ∀ name ∈ names, IsName name) (here : Place) :
    names.foldl placeAfter here = here ++ names := by
  induction names generalizing here with
  | nil => simp
  | cons name names ih =>
    have hname : placeAfter here name = here ++ [name] :=
      if_neg (h name List.mem_cons_self).not_above
    rw [List.foldl_cons, hname, ih (fun n hn => h n (List.mem_cons_of_mem _ hn))]
    simp

/-- A path of proper names leads to the place of these names. -/
theorem Path.place_of_named {anchor : Anchor} {names : List String}
    (h : ∀ name ∈ names, IsName name) : (Path.mk anchor names).place = names := by
  unfold Path.place
  rw [foldl_placeAfter h, List.nil_append]

/-- A proper name at the end of a path is the last name of its place. -/
theorem Path.place_append_name {p : Path} {name : String} (h : IsName name) :
    (Path.mk p.anchor (p.names ++ [name])).place = p.place ++ [name] := by
  unfold Path.place
  rw [List.foldl_append, List.foldl_cons, List.foldl_nil]
  exact if_neg h.not_above

namespace FileTree

variable {t u v : FileTree}

@[simp] theorem entryAt?_nil (t : FileTree) : t.entryAt? [] = some .folder := rfl

/-- Putting something at a place changes that place only. -/
theorem entryAt?_set {p : Place} (hp : p ≠ []) (t : FileTree) (e : Entry) (q : Place) :
    (t.set p e).entryAt? q = if q = p then some e else t.entryAt? q := by
  by_cases hq : q = []
  · subst hq
    rw [if_neg (Ne.symm hp), entryAt?_nil, entryAt?_nil]
  · have hempty : q.isEmpty = false := by simpa using hq
    unfold entryAt? set
    rw [hempty]
    by_cases hqp : q = p
    · subst hqp
      simp
    · have hpq : (p == q) = false := by simpa using Ne.symm hqp
      simp only [List.find?_cons, hpq, hqp, if_false, Bool.false_eq_true, List.find?_filter]
      congr 1
      refine congrArg (fun f => List.find? f t.entries) ?_
      funext old
      by_cases hold : old.1 = q
      · simp [hold, hqp]
      · simp [hold]

/-! ## Following paths -/

/-- One name is followed from a folder only. -/
theorem follow_cons_eq_ok {here place : Place} {name : String} {rest : List String} :
    t.follow here (name :: rest) = .ok place ↔
      t.entryAt? here = some .folder ∧ t.follow (placeAfter here name) rest = .ok place := by
  rw [follow]
  cases hentry : t.entryAt? here with
  | none => simp
  | some e =>
    cases e with
    | folder => simp [placeAfter]
    | file content => simp

/-- The place that names lead to is a matter of the names alone. -/
theorem follow_eq_foldl {here place : Place} {names : List String}
    (h : t.follow here names = .ok place) : place = names.foldl placeAfter here := by
  induction names generalizing here with
  | nil =>
    simp only [follow, Except.ok.injEq] at h
    exact h.symm
  | cons name rest ih =>
    rw [List.foldl_cons]
    exact ih (follow_cons_eq_ok.mp h).2

/-- Names are followed as well where there are at least the same folders. -/
theorem follow_mono (hfolders : ∀ q, t.entryAt? q = some .folder → u.entryAt? q = some .folder)
    {here place : Place} {names : List String} (h : t.follow here names = .ok place) :
    u.follow here names = .ok place := by
  induction names generalizing here with
  | nil => exact h
  | cons name rest ih =>
    obtain ⟨hhere, hrest⟩ := follow_cons_eq_ok.mp h
    exact follow_cons_eq_ok.mpr ⟨hfolders here hhere, ih hrest⟩

/-- A last name is followed from the folder that the names before it lead to. -/
theorem follow_append_singleton_eq_ok {here place : Place} {names : List String} {name : String} :
    t.follow here (names ++ [name]) = .ok place ↔
      ∃ folder, t.follow here names = .ok folder ∧ t.entryAt? folder = some .folder ∧
        place = placeAfter folder name := by
  induction names generalizing here with
  | nil =>
    rw [List.nil_append, follow_cons_eq_ok]
    constructor
    · rintro ⟨hhere, hplace⟩
      simp only [follow, Except.ok.injEq] at hplace
      exact ⟨here, rfl, hhere, hplace.symm⟩
    · rintro ⟨folder, hfolder, hentry, rfl⟩
      simp only [follow, Except.ok.injEq] at hfolder
      subst hfolder
      exact ⟨hentry, rfl⟩
  | cons first names ih =>
    rw [List.cons_append, follow_cons_eq_ok, ih]
    constructor
    · rintro ⟨hhere, folder, hfolder, hrest⟩
      exact ⟨folder, follow_cons_eq_ok.mpr ⟨hhere, hfolder⟩, hrest⟩
    · rintro ⟨folder, hfolder, hrest⟩
      obtain ⟨hhere, hnames⟩ := follow_cons_eq_ok.mp hfolder
      exact ⟨hhere, folder, hnames, hrest⟩

/-- A path is located where its names lead. -/
theorem locate_eq_ok {p : Path} {place : Place} :
    t.locate p = .ok place ↔ t.follow [] p.names = .ok place := by
  unfold locate
  cases t.follow [] p.names with
  | ok found => simp
  | error fault => simp

/-- A path that is located at all is located at its place. -/
theorem eq_place_of_locate {p : Path} {place : Place} (h : t.locate p = .ok place) :
    place = p.place :=
  follow_eq_foldl (locate_eq_ok.mp h)

/-- A path is located as well where there are at least the same folders. -/
theorem locate_mono (hfolders : ∀ q, t.entryAt? q = some .folder → u.entryAt? q = some .folder)
    {p : Path} {place : Place} (h : t.locate p = .ok place) : u.locate p = .ok place :=
  locate_eq_ok.mpr (follow_mono hfolders (locate_eq_ok.mp h))

/-- Something at a path stands at the path's place. -/
theorem at?_eq_some {p : Path} {e : Entry} :
    t.at? p = some e ↔ t.locate p = .ok p.place ∧ t.entryAt? p.place = some e := by
  unfold at?
  cases hlocate : t.locate p with
  | error f => simp
  | ok place =>
    have hplace := eq_place_of_locate hlocate
    subst hplace
    simp

/-- A folder at a path stands at the path's place. -/
theorem holdsFolder_iff {p : Path} :
    t.holdsFolder p = true ↔ t.locate p = .ok p.place ∧ t.entryAt? p.place = some .folder := by
  unfold holdsFolder
  rw [beq_iff_eq, at?_eq_some]

/-- What is read at a path is the file that stands there. -/
theorem read_eq_ok {p : Path} {content : List UInt8} :
    t.read p = .ok content ↔ t.at? p = some (.file content) := by
  unfold read at?
  cases t.locate p with
  | error e => simp [bind, Except.bind]
  | ok place =>
    simp only [bind, Except.bind]
    split
    · rename_i found hentry
      rw [hentry]
      simp
    · rename_i hentry
      rw [hentry]
      simp
    · rename_i hentry
      rw [hentry]
      simp

/-- A folder cannot be read. -/
theorem read_of_holdsFolder {p : Path} (h : t.holdsFolder p = true) :
    t.read p = .error ⟨.isFolder, p⟩ := by
  obtain ⟨hlocate, hentry⟩ := holdsFolder_iff.mp h
  unfold read
  rw [hlocate]
  simp only [bind, Except.bind, hentry]

/-! ## Changes -/

/-- The second tree differs from the first one at the given places, and elsewhere at most in folders
that are new. -/
structure ChangedOnly (t u : FileTree) (places : List Place) : Prop where
  elsewhere : ∀ q, q ∉ places →
    u.entryAt? q = t.entryAt? q ∨ t.entryAt? q = none ∧ u.entryAt? q = some .folder
  folders : ∀ q, t.entryAt? q = some .folder → u.entryAt? q = some .folder

namespace ChangedOnly

/-- A tree differs nowhere from itself. -/
theorem refl (t : FileTree) : ChangedOnly t t [] :=
  ⟨fun _ _ => Or.inl rfl, fun _ h => h⟩

/-- A change at some places is a change at more of them. -/
theorem mono {ps qs : List Place} (h : ChangedOnly t u ps) (hsub : ps ⊆ qs) : ChangedOnly t u qs :=
  ⟨fun q hq => h.elsewhere q fun hmem => hq (hsub hmem), h.folders⟩

/-- Two changes one after the other differ where either of them does. -/
theorem trans {ps qs : List Place} (first : ChangedOnly t u ps) (second : ChangedOnly u v qs) :
    ChangedOnly t v (ps ++ qs) := by
  constructor
  · intro q hq
    simp only [List.mem_append, not_or] at hq
    rcases second.elsewhere q hq.2 with hsame | ⟨hnone, hfolder⟩
    · rcases first.elsewhere q hq.1 with hsame' | ⟨hnone', hfolder'⟩
      · exact Or.inl (hsame.trans hsame')
      · exact Or.inr ⟨hnone', hsame.trans hfolder'⟩
    · rcases first.elsewhere q hq.1 with hsame' | ⟨_, hfolder'⟩
      · exact Or.inr ⟨hsame'.symm.trans hnone, hfolder⟩
      · rw [hfolder'] at hnone
        cases hnone
  · intro q hq
    exact second.folders q (first.folders q hq)

/-- Elsewhere the same files stand before and after. -/
theorem file_iff {places : List Place} (h : ChangedOnly t u places) {q : Place} (hq : q ∉ places)
    (content : List UInt8) :
    u.entryAt? q = some (.file content) ↔ t.entryAt? q = some (.file content) := by
  rcases h.elsewhere q hq with hsame | ⟨hnone, hfolder⟩
  · rw [hsame]
  · rw [hnone, hfolder]
    simp

end ChangedOnly

/-- A folder is made at the place of its path if nothing stands there. -/
theorem makeFolder_eq_ok {p : Path} :
    t.makeFolder p = .ok u ↔
      t.locate p = .ok p.place ∧ t.entryAt? p.place = none ∧ u = t.set p.place .folder := by
  unfold makeFolder
  cases hlocate : t.locate p with
  | error e => simp [bind, Except.bind]
  | ok place =>
    have hplace := eq_place_of_locate hlocate
    subst hplace
    simp only [bind, Except.bind]
    split
    · rename_i e hentry
      simp [hentry]
    · rename_i hentry
      simp only [hentry, Except.ok.injEq, true_and]
      exact eq_comm

/-- No folder is made where something stands. -/
theorem makeFolder_of_at? {p : Path} {e : Entry} (h : t.at? p = some e) :
    t.makeFolder p = .error ⟨.exists, p⟩ := by
  obtain ⟨hlocate, hentry⟩ := at?_eq_some.mp h
  unfold makeFolder
  rw [hlocate]
  simp only [bind, Except.bind, hentry]

/-- A folder made where nothing stands is all that is new. -/
theorem changedOnly_of_makeFolder {p : Path} (h : t.makeFolder p = .ok u) :
    ChangedOnly t u [] := by
  obtain ⟨-, hentry, rfl⟩ := makeFolder_eq_ok.mp h
  have hplace : p.place ≠ [] := by
    intro hnil
    rw [hnil] at hentry
    simp at hentry
  constructor
  · intro q _
    rw [entryAt?_set hplace]
    by_cases hq : q = p.place
    · rw [if_pos hq, hq]
      exact Or.inr ⟨hentry, rfl⟩
    · exact Or.inl (if_neg hq)
  · intro q hq
    rw [entryAt?_set hplace]
    split
    · rfl
    · exact hq

/-- A folder that is made sure of was there or has been made. -/
theorem ensureFolder_eq_ok {p : Path} (h : t.ensureFolder p = .ok u) :
    u = t ∨ t.makeFolder p = .ok u := by
  unfold ensureFolder at h
  split at h
  · rename_i made hmade
    cases h
    exact Or.inr hmade
  · split at h
    · cases h
      exact Or.inl rfl
    · cases h

/-- What is kept by making one folder is kept by making sure of a folder and those above it. -/
theorem ensureFoldersUpTo_keeps (Kept : FileTree → Prop) (Allowed : Path → Prop)
    (hparent : ∀ p, Allowed p → Allowed p.parent)
    (hmake : ∀ t u p, Allowed p → Kept t → t.makeFolder p = .ok u → Kept u) {p : Path}
    {depth : Nat} (hp : Allowed p) (ht : Kept t) (h : t.ensureFoldersUpTo p depth = .ok u) :
    Kept u := by
  have hone : ∀ t u p, Allowed p → Kept t → t.ensureFolder p = .ok u → Kept u := by
    intro t u p hp ht h
    rcases ensureFolder_eq_ok h with rfl | hmade
    · exact ht
    · exact hmake t u p hp ht hmade
  induction depth generalizing p u with
  | zero => exact hone t u p hp ht h
  | succ depth ih =>
    unfold ensureFoldersUpTo at h
    split at h
    · rename_i made hmade
      cases h
      exact hmake _ _ p hp ht hmade
    · split at h
      · obtain ⟨above, habove, h⟩ := Traced.except_bind_eq_ok.mp h
        exact hone above u p hp (ih (hparent p hp) habove) h
      · split at h
        · cases h
          exact ht
        · cases h

/-- Making sure of a folder and those above it makes at most folders. -/
theorem changedOnly_of_ensureFolders {p : Path} (h : t.ensureFolders p = .ok u) :
    ChangedOnly t u [] := by
  refine ensureFoldersUpTo_keeps (fun v => ChangedOnly t v []) (fun _ => True)
    (fun _ _ => trivial) ?_ trivial (ChangedOnly.refl t) h
  intro v w q _ hv hmade
  exact hv.trans (changedOnly_of_makeFolder hmade)

/-- A folder that is there is left as it is. -/
theorem ensureFolders_of_holdsFolder {p : Path} (h : t.holdsFolder p = true) :
    t.ensureFolders p = .ok t := by
  have hmake := makeFolder_of_at? (at?_eq_some.mpr (holdsFolder_iff.mp h))
  unfold ensureFolders
  cases p.names.length with
  | zero =>
    unfold ensureFoldersUpTo ensureFolder
    rw [hmake]
    simp [h]
  | succ depth =>
    unfold ensureFoldersUpTo
    rw [hmake]
    simp [h]

/-- A file is written at the place of its path, where no folder may stand, and nowhere else. -/
theorem write_eq_ok {p : Path} {content : List UInt8} :
    t.write p content = .ok u ↔
      t.locate p = .ok p.place ∧ t.entryAt? p.place ≠ some .folder ∧
        u = t.set p.place (.file content) := by
  unfold write
  cases hlocate : t.locate p with
  | error e => simp [bind, Except.bind]
  | ok place =>
    have hplace := eq_place_of_locate hlocate
    subst hplace
    simp only [bind, Except.bind]
    split
    · rename_i hentry
      simp [hentry]
    · rename_i hnot
      have hfree : t.entryAt? p.place ≠ some .folder := hnot
      simp only [Except.ok.injEq, hfree, ne_eq, not_false_eq_true, true_and]
      exact eq_comm

/-- The place of a path at which no folder stands is not the root. -/
theorem place_ne_nil {q : Place} (h : t.entryAt? q ≠ some .folder) : q ≠ [] := by
  rintro rfl
  exact h (entryAt?_nil t)

/-- Putting a file where no folder stands changes that place only. -/
theorem changedOnly_of_set {q : Place} (h : t.entryAt? q ≠ some .folder) (content : List UInt8) :
    ChangedOnly t (t.set q (.file content)) [q] := by
  have hq := place_ne_nil h
  constructor
  · intro other hother
    rw [List.mem_singleton] at hother
    rw [entryAt?_set hq, if_neg hother]
    exact Or.inl rfl
  · intro other hother
    rw [entryAt?_set hq, if_neg]
    · exact hother
    · rintro rfl
      exact h hother

end FileTree

end SpanWeave
