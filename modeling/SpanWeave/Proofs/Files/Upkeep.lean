import SpanWeave.Proofs.Files.WellFormed

/-!
# Operations keep file trees well formed

A path is located only through folders. So what an operation puts at the place of an ordinary path
comes under a proper name into a folder, and no operation that succeeds spoils a well-formed tree.
-/

set_option autoImplicit false

namespace SpanWeave

/-- The place of an ordinary path has proper names only. -/
theorem Path.IsOrdinary.place_named {p : Path} (h : p.IsOrdinary) :
    ∀ name ∈ p.place, IsName name := by
  have hfold : ∀ (names : List String) (here : Place), (∀ name ∈ here, IsName name) →
      (∀ name ∈ names, IsName name ∨ name = "..") →
        ∀ name ∈ names.foldl placeAfter here, IsName name := by
    intro names
    induction names with
    | nil => exact fun here hhere _ => hhere
    | cons first names ih =>
      intro here hhere hnames
      obtain ⟨hfirst, hrest⟩ := List.forall_mem_cons.mp hnames
      refine ih _ ?_ hrest
      unfold placeAfter
      split
      · exact fun name hname => hhere name (List.dropLast_subset _ hname)
      · rename_i habove
        exact named_append hhere (hfirst.resolve_right habove)
  exact hfold p.names [] (fun _ hname => absurd hname List.not_mem_nil) h

namespace FileTree.WellFormed

variable {t u : FileTree} {p : Path}

/-- Above every folder there is a folder. -/
theorem folder_dropLast (h : t.WellFormed) {q : Place} (hq : t.entryAt? q = some .folder) :
    t.entryAt? q.dropLast = some .folder := by
  rcases List.eq_nil_or_concat q with rfl | ⟨front, last, rfl⟩
  · exact hq
  · rw [List.concat_eq_append] at hq ⊢
    rw [List.dropLast_concat]
    exact h.folder_of_append_singleton hq

/-- A path that is located where no folder stands leads to a name in a folder. -/
theorem folder_of_locate (h : t.WellFormed) (hlocate : t.locate p = .ok p.place)
    (hfree : t.entryAt? p.place ≠ some .folder) :
    ∃ folder name, p.place = folder ++ [name] ∧ t.entryAt? folder = some .folder := by
  have hfollow := locate_eq_ok.mp hlocate
  rcases List.eq_nil_or_concat p.names with hnil | ⟨front, last, hlast⟩
  · rw [hnil] at hfollow
    exact absurd (Except.ok.inj hfollow).symm (place_ne_nil hfree)
  · rw [hlast, List.concat_eq_append] at hfollow
    obtain ⟨folder, -, hfolder, hplace⟩ := follow_append_singleton_eq_ok.mp hfollow
    unfold placeAfter at hplace
    split at hplace
    · -- a step up from a folder leads to a folder
      rw [hplace] at hfree
      exact absurd (h.folder_dropLast hfolder) hfree
    · exact ⟨folder, last, hplace, hfolder⟩

/-- Putting something at the place of an ordinary path keeps a tree well formed if the path is
located and no folder stands there. -/
theorem set_place (h : t.WellFormed) (hp : p.IsOrdinary) (hlocate : t.locate p = .ok p.place)
    (hfree : t.entryAt? p.place ≠ some .folder) (e : Entry) : (t.set p.place e).WellFormed := by
  obtain ⟨folder, name, hplace, hfolder⟩ := h.folder_of_locate hlocate hfree
  have hname : IsName name := hp.place_named name (by rw [hplace]; simp)
  rw [hplace] at hfree ⊢
  exact h.set hname hfolder hfree e

theorem write (h : t.WellFormed) (hp : p.IsOrdinary) {content : List UInt8}
    (hwrite : t.write p content = .ok u) : u.WellFormed := by
  obtain ⟨hlocate, hfree, rfl⟩ := write_eq_ok.mp hwrite
  exact h.set_place hp hlocate hfree _

theorem makeFolder (h : t.WellFormed) (hp : p.IsOrdinary) (hmake : t.makeFolder p = .ok u) :
    u.WellFormed := by
  obtain ⟨hlocate, hnone, rfl⟩ := makeFolder_eq_ok.mp hmake
  exact h.set_place hp hlocate (by simp [hnone]) _

theorem ensureFolders (h : t.WellFormed) (hp : p.IsOrdinary)
    (hensure : t.ensureFolders p = .ok u) : u.WellFormed :=
  ensureFoldersUpTo_keeps WellFormed Path.IsOrdinary (fun _ hq => hq.parent)
    (fun _ _ _ hq hv hmade => hv.makeFolder hq hmade) hp h hensure

end FileTree.WellFormed

end SpanWeave
