import Mathlib.Data.List.Basic
import Mathlib.Data.List.Induction
import Mathlib.Data.List.Nodup
import Mathlib.Data.List.Perm.Subperm
import SpanWeave.Proofs.Files.TreeView

/-!
# Well-formed file trees

In a file tree as a file system holds it, no place is taken twice, every name is a name that can
stand in a folder, and everything stands in a folder. The folders then have their names in order and
each once, everything can be reached by its path, and writing a file keeps the tree so.
-/

set_option autoImplicit false

namespace SpanWeave.FileTree

/-- What every file system keeps. -/
structure WellFormed (t : FileTree) : Prop where
  distinct : (t.entries.map Prod.fst).Nodup
  named : ∀ e ∈ t.entries, ∀ name ∈ e.1, IsName name
  founded : ∀ e ∈ t.entries, e.1 ≠ [] ∧ t.entryAt? e.1.dropLast = some .folder

instance (t : FileTree) : Decidable t.WellFormed :=
  decidable_of_iff
    ((t.entries.map Prod.fst).Nodup ∧ (∀ e ∈ t.entries, ∀ name ∈ e.1, IsName name) ∧
      ∀ e ∈ t.entries, e.1 ≠ [] ∧ t.entryAt? e.1.dropLast = some .folder)
    ⟨fun ⟨h₁, h₂, h₃⟩ => ⟨h₁, h₂, h₃⟩, fun ⟨h₁, h₂, h₃⟩ => ⟨h₁, h₂, h₃⟩⟩

/-- The empty tree is well formed. -/
theorem wellFormed_empty : WellFormed {} := by
  constructor <;> simp

variable {t u : FileTree}

theorem find?_of_mem {entries : List (Place × Entry)} (hdistinct : (entries.map Prod.fst).Nodup)
    {p : Place} {e : Entry} (h : (p, e) ∈ entries) :
    entries.find? (fun old => old.1 == p) = some (p, e) := by
  induction entries with
  | nil => cases h
  | cons old entries ih =>
    rw [List.map_cons, List.nodup_cons] at hdistinct
    rcases List.mem_cons.mp h with rfl | hmem
    · simp
    · have hne : old.1 ≠ p := by
        rintro rfl
        exact hdistinct.1 (List.mem_map.mpr ⟨_, hmem, rfl⟩)
      rw [List.find?_cons_of_neg (by simpa using hne)]
      exact ih hdistinct.2 hmem

namespace WellFormed

/-- What the entries list is what stands at their places. -/
theorem mem_entries_iff (h : t.WellFormed) {p : Place} {e : Entry} :
    (p, e) ∈ t.entries ↔ p ≠ [] ∧ t.entryAt? p = some e := by
  constructor
  · intro hmem
    have hp : p ≠ [] := (h.founded _ hmem).1
    refine ⟨hp, ?_⟩
    have hempty : p.isEmpty = false := by simpa using hp
    unfold entryAt?
    rw [hempty, find?_of_mem h.distinct hmem]
    rfl
  · rintro ⟨hp, hentry⟩
    have hempty : p.isEmpty = false := by simpa using hp
    unfold entryAt? at hentry
    rw [hempty] at hentry
    simp only [Bool.false_eq_true, if_false, Option.map_eq_some_iff] at hentry
    obtain ⟨⟨q, found⟩, hfind, rfl⟩ := hentry
    have hq : q = p := by simpa using List.find?_some hfind
    subst hq
    exact List.mem_of_find?_eq_some hfind

/-- Where something stands, all names are proper. -/
theorem named_of_entry (h : t.WellFormed) {p : Place} {e : Entry} (hentry : t.entryAt? p = some e) :
    ∀ name ∈ p, IsName name := by
  by_cases hp : p = []
  · subst hp
    simp
  · exact h.named (p, e) (h.mem_entries_iff.mpr ⟨hp, hentry⟩)

/-- What stands somewhere stands in a folder. -/
theorem folder_of_append_singleton (h : t.WellFormed) {p : Place} {name : String} {e : Entry}
    (hentry : t.entryAt? (p ++ [name]) = some e) : t.entryAt? p = some .folder := by
  have hmem := h.mem_entries_iff.mpr ⟨by simp, hentry⟩
  simpa using (h.founded _ hmem).2

/-- Above what stands somewhere there are only folders. -/
theorem folder_of_append (h : t.WellFormed) {p inner : Place} {e : Entry} (hinner : inner ≠ [])
    (hentry : t.entryAt? (p ++ inner) = some e) : t.entryAt? p = some .folder := by
  induction inner using List.reverseRecOn generalizing e with
  | nil => exact absurd rfl hinner
  | append_singleton inner name ih =>
    rw [← List.append_assoc] at hentry
    have habove := h.folder_of_append_singleton hentry
    by_cases hnil : inner = []
    · subst hnil
      simpa using habove
    · exact ih hnil habove

/-- Everything is located at the path of its names. -/
theorem locate_of_entry (h : t.WellFormed) {anchor : Anchor} {p : Place} {e : Entry}
    (hentry : t.entryAt? p = some e) : t.locate ⟨anchor, p⟩ = .ok p := by
  have hreach : ∀ here rest : Place, here ++ rest = p → t.follow here rest = .ok p := by
    intro here rest
    induction rest generalizing here with
    | nil =>
      rintro rfl
      simp [follow]
    | cons name rest ih =>
      intro hsplit
      have hhere : t.entryAt? here = some .folder := by
        rw [← hsplit] at hentry
        exact h.folder_of_append (List.cons_ne_nil name rest) hentry
      have hname : IsName name := h.named_of_entry hentry name (by rw [← hsplit]; simp)
      refine follow_cons_eq_ok.mpr ⟨hhere, ih _ ?_⟩
      rw [placeAfter, if_neg hname.not_above, List.append_assoc]
      exact hsplit
  exact locate_eq_ok.mpr (hreach [] p (List.nil_append p))

/-- Everything stands at the path of its names. -/
theorem at?_of_entry (h : t.WellFormed) {anchor : Anchor} {p : Place} {e : Entry}
    (hentry : t.entryAt? p = some e) : t.at? ⟨anchor, p⟩ = some e := by
  refine at?_eq_some.mpr ?_
  rw [Path.place_of_named (h.named_of_entry hentry)]
  exact ⟨h.locate_of_entry hentry, hentry⟩

/-- What stands deep in a tree stands below as many other things, so no place is longer than the
tree has entries. -/
theorem length_le_entries (h : t.WellFormed) {p : Place} {e : Entry}
    (hentry : t.entryAt? p = some e) : p.length ≤ t.entries.length := by
  have hprefix : ∀ k < p.length, p.take (k + 1) ∈ t.entries.map Prod.fst := by
    intro k hk
    have hne : p.take (k + 1) ≠ [] := by
      intro hnil
      have hlength := congrArg List.length hnil
      rw [List.length_take, List.length_nil] at hlength
      omega
    by_cases hall : k + 1 = p.length
    · rw [hall, List.take_length] at hne ⊢
      exact List.mem_map.mpr ⟨_, h.mem_entries_iff.mpr ⟨hne, hentry⟩, rfl⟩
    · have hrest : p.drop (k + 1) ≠ [] := by
        intro hnil
        rw [List.drop_eq_nil_iff] at hnil
        omega
      have hfolder : t.entryAt? (p.take (k + 1)) = some .folder := by
        rw [← List.take_append_drop (k + 1) p] at hentry
        exact h.folder_of_append hrest hentry
      exact List.mem_map.mpr ⟨_, h.mem_entries_iff.mpr ⟨hne, hfolder⟩, rfl⟩
  -- the beginnings of a place are as many different places as it has names
  have hdistinct : ((List.range p.length).map fun k => p.take (k + 1)).Nodup := by
    refine List.Nodup.map_on ?_ List.nodup_range
    intro i hi j hj heq
    rw [List.mem_range] at hi hj
    have hlength := congrArg List.length heq
    rw [List.length_take, List.length_take] at hlength
    omega
  have hsubset : ((List.range p.length).map fun k => p.take (k + 1)) ⊆ t.entries.map Prod.fst := by
    intro q hq
    obtain ⟨k, hk, rfl⟩ := List.mem_map.mp hq
    exact hprefix k (List.mem_range.mp hk)
  have hle := (hdistinct.subperm hsubset).length_le
  simpa using hle

/-! ## Names in a folder -/

/-- The names in a folder are those at which something stands. -/
theorem mem_namesIn (h : t.WellFormed) {p : Place} {name : String} :
    name ∈ t.namesIn p ↔ ∃ e, t.entryAt? (p ++ [name]) = some e := by
  unfold namesIn
  rw [List.mem_mergeSort, List.mem_filterMap]
  constructor
  · rintro ⟨⟨q, e⟩, hmem, hname⟩
    simp only [Bool.and_eq_true, beq_iff_eq, Bool.not_eq_true', Option.ite_none_right_eq_some]
      at hname
    obtain ⟨⟨hdrop, -⟩, hlast⟩ := hname
    have hq : q = p ++ [name] := by
      rw [← hdrop]
      exact (List.dropLast_append_getLast? name hlast).symm
    subst hq
    exact ⟨e, (h.mem_entries_iff.mp hmem).2⟩
  · rintro ⟨e, hentry⟩
    exact ⟨(p ++ [name], e), h.mem_entries_iff.mpr ⟨by simp, hentry⟩, by simp⟩

/-- A folder has each of its names once. -/
theorem nodup_namesIn (h : t.WellFormed) (p : Place) : (t.namesIn p).Nodup := by
  unfold namesIn
  apply (List.mergeSort_perm _ _).nodup_iff.mpr
  have hplaces : ∀ entries : List (Place × Entry), (entries.map Prod.fst).Nodup →
      (entries.filterMap fun e =>
        if e.1.dropLast == p && !e.1.isEmpty then e.1.getLast? else none).Nodup := by
    intro entries hdistinct
    induction entries with
    | nil => exact List.nodup_nil
    | cons e entries ih =>
      rw [List.map_cons, List.nodup_cons] at hdistinct
      rw [List.filterMap_cons]
      split
      · exact ih hdistinct.2
      · rename_i name hname
        refine List.nodup_cons.mpr ⟨?_, ih hdistinct.2⟩
        -- the folder and the last name together are the place
        have hplace : ∀ f : Place × Entry, (if f.1.dropLast == p && !f.1.isEmpty then f.1.getLast?
            else none) = some name → f.1 = p ++ [name] := by
          intro f hf
          simp only [Bool.and_eq_true, beq_iff_eq, Bool.not_eq_true',
            Option.ite_none_right_eq_some] at hf
          rw [← hf.1.1]
          exact (List.dropLast_append_getLast? name hf.2).symm
        rw [List.mem_filterMap]
        rintro ⟨f, hf, hfname⟩
        exact hdistinct.1 (List.mem_map.mpr ⟨f, hf, (hplace f hfname).trans (hplace e hname).symm⟩)
  exact hplaces t.entries h.distinct

/-- The names in a folder ascend. -/
theorem pairwise_namesIn (h : t.WellFormed) (p : Place) : (t.namesIn p).Pairwise (· < ·) := by
  have hsorted : (t.namesIn p).Pairwise (fun a b => decide (a ≤ b) = true) := by
    refine List.pairwise_mergeSort ?_ ?_ _
    · intro a b c hab hbc
      exact decide_eq_true (String.le_trans (of_decide_eq_true hab) (of_decide_eq_true hbc))
    · intro a b
      simpa using String.le_total a b
  refine (hsorted.and (h.nodup_namesIn p)).imp ?_
  rintro a b ⟨hle, hne⟩
  exact Std.lt_of_le_of_ne (of_decide_eq_true hle) hne

/-- Selections of names from two folders are equal if they have the same members. -/
theorem filter_namesIn_eq (ht : t.WellFormed) (hu : u.WellFormed) {p q : Place}
    {inT inU : String → Bool}
    (h : ∀ name, ((∃ e, t.entryAt? (p ++ [name]) = some e) ∧ inT name = true) ↔
      ((∃ e, u.entryAt? (q ++ [name]) = some e) ∧ inU name = true)) :
    (t.namesIn p).filter inT = (u.namesIn q).filter inU := by
  refine List.Perm.eq_of_pairwise ?_ ((ht.pairwise_namesIn p).filter _)
    ((hu.pairwise_namesIn q).filter _) ?_
  · intro a b _ _ hab hba
    exact absurd hba (String.lt_asymm hab)
  · refine (List.perm_ext_iff_of_nodup ((ht.nodup_namesIn p).filter _)
      ((hu.nodup_namesIn q).filter _)).mpr ?_
    intro name
    rw [List.mem_filter, List.mem_filter, ht.mem_namesIn, hu.mem_namesIn]
    exact h name

/-! ## Writing -/

/-- A tree stays well formed when something is put under a proper name into a folder, where no
folder stands. -/
theorem set (h : t.WellFormed) {p : Place} {name : String} (hname : IsName name)
    (hfolder : t.entryAt? p = some .folder) (hfree : t.entryAt? (p ++ [name]) ≠ some .folder)
    (e : Entry) : (t.set (p ++ [name]) e).WellFormed := by
  have hne : p ++ [name] ≠ [] := place_ne_nil hfree
  have hplaces : ((t.set (p ++ [name]) e).entries.map Prod.fst) =
      (p ++ [name]) :: (t.entries.map Prod.fst).filter fun q => q != p ++ [name] := by
    unfold FileTree.set
    rw [List.map_cons, List.filter_map]
    rfl
  -- what stood in a folder still stands in one, as no folder is replaced
  have hkept : ∀ q, t.entryAt? q = some .folder →
      (t.set (p ++ [name]) e).entryAt? q = some .folder := by
    intro q hq
    rw [entryAt?_set hne, if_neg]
    · exact hq
    · rintro rfl
      exact hfree hq
  have hcases : ∀ old ∈ (t.set (p ++ [name]) e).entries,
      old = (p ++ [name], e) ∨ old ∈ t.entries := by
    intro old hold
    unfold FileTree.set at hold
    exact (List.mem_cons.mp hold).imp_right fun hmem => (List.mem_filter.mp hmem).1
  constructor
  · rw [hplaces, List.nodup_cons]
    exact ⟨by simp, h.distinct.filter _⟩
  · intro old hold
    rcases hcases old hold with rfl | hold
    · exact named_append (h.named_of_entry hfolder) hname
    · exact h.named old hold
  · intro old hold
    rcases hcases old hold with rfl | hold
    · refine ⟨hne, ?_⟩
      rw [List.dropLast_concat]
      exact hkept p hfolder
    · exact ⟨(h.founded old hold).1, hkept _ (h.founded old hold).2⟩

end WellFormed

end SpanWeave.FileTree
