import Mathlib.Data.List.Nodup
import SpanWeave.Proofs.Files.WellFormed
import SpanWeave.Scan

/-!
# The files that a scan finds

A scan gives every file below its root by the joined names that lead to it. No file is found twice,
and whatever is found is a file of the tree.
-/

set_option autoImplicit false

namespace SpanWeave

open SpanWeave.Path (joined)

/-- The names of the files in a folder that the rules leave in. -/
def fileNames (t : FileTree) (rules : List IgnoreRule) (place : Place) (folder : String) :
    List String :=
  (t.namesIn place).filter fun name =>
    !(t.entryAt? (place ++ [name]) == some .folder) &&
      !IgnoreRule.ignores rules (childPath folder name) false

/-- The names of the folders in a folder that the rules leave in. -/
def folderNames (t : FileTree) (rules : List IgnoreRule) (place : Place) (folder : String) :
    List String :=
  (t.namesIn place).filter fun name =>
    t.entryAt? (place ++ [name]) == some .folder && !toolFolders.contains name &&
      !IgnoreRule.ignores rules (childPath folder name) true

/-- The files of a folder come before those of the folders in it. -/
theorem filesBelow_succ (t : FileTree) (rules : List IgnoreRule) (depth : Nat) (place : Place)
    (folder : String) :
    filesBelow t rules (depth + 1) place folder =
      (fileNames t rules place folder).map (childPath folder) ++
        (folderNames t rules place folder).flatMap fun name =>
          filesBelow t rules depth (place ++ [name]) (childPath folder name) := rfl

/-- One more name goes to the end of joined names. -/
theorem childPath_joined {rel : List String} (h : ∀ name ∈ rel, IsName name) (name : String) :
    childPath (joined rel) name = joined (rel ++ [name]) := by
  unfold childPath
  cases rel with
  | nil => simp
  | cons first rel =>
    rw [if_neg (Path.joined_ne_empty h (by simp)), Path.joined_append (by simp) (by simp), Path.joined_singleton]

variable {t : FileTree} {rules : List IgnoreRule} {place : Place} {rel : List String}

/-- A name of a file leads to a file. -/
theorem file_of_mem_fileNames (h : t.WellFormed) {folder name : String}
    (hname : name ∈ fileNames t rules place folder) :
    IsName name ∧ ∃ content, t.entryAt? (place ++ [name]) = some (.file content) := by
  unfold fileNames at hname
  obtain ⟨hmem, hfile⟩ := List.mem_filter.mp hname
  obtain ⟨e, he⟩ := h.mem_namesIn.mp hmem
  refine ⟨h.named_of_entry he name (by simp), ?_⟩
  cases e with
  | folder => simp [he] at hfile
  | file content => exact ⟨content, he⟩

/-- A name of a folder leads to a folder. -/
theorem folder_of_mem_folderNames (h : t.WellFormed) {folder name : String}
    (hname : name ∈ folderNames t rules place folder) :
    IsName name ∧ t.entryAt? (place ++ [name]) = some .folder := by
  unfold folderNames at hname
  obtain ⟨hmem, hfolder⟩ := List.mem_filter.mp hname
  obtain ⟨e, he⟩ := h.mem_namesIn.mp hmem
  refine ⟨h.named_of_entry he name (by simp), ?_⟩
  simp only [Bool.and_eq_true, beq_iff_eq] at hfolder
  exact hfolder.1.1

/-- A found file is a file of the tree, and its path joins the names that lead to it. -/
theorem mem_filesBelow (h : t.WellFormed) {depth : Nat} {path : String}
    (hrel : ∀ name ∈ rel, IsName name) (hmem : path ∈ filesBelow t rules depth place (joined rel)) :
    ∃ inner, inner ≠ [] ∧ (∀ name ∈ inner, IsName name) ∧ path = joined (rel ++ inner) ∧
      ∃ content, t.entryAt? (place ++ inner) = some (.file content) := by
  induction depth generalizing place rel with
  | zero => cases hmem
  | succ depth ih =>
    rw [filesBelow_succ] at hmem
    rcases List.mem_append.mp hmem with hhere | hinside
    · obtain ⟨name, hname, rfl⟩ := List.mem_map.mp hhere
      obtain ⟨hproper, content, hfile⟩ := file_of_mem_fileNames h hname
      exact ⟨[name], by simp, List.forall_mem_singleton.mpr hproper, childPath_joined hrel name,
        content, hfile⟩
    · obtain ⟨name, hname, hmem⟩ := List.mem_flatMap.mp hinside
      have hproper := (folder_of_mem_folderNames h hname).1
      rw [childPath_joined hrel] at hmem
      obtain ⟨inner, hne, hinner, rfl, content, hfile⟩ := ih (named_append hrel hproper) hmem
      exact ⟨name :: inner, by simp, List.forall_mem_cons.mpr ⟨hproper, hinner⟩, by simp, content,
        by simpa using hfile⟩

/-- The path of a file found inside a folder goes on behind the name of that folder. -/
theorem mem_filesBelow_inside (h : t.WellFormed) (hrel : ∀ name ∈ rel, IsName name) {depth : Nat}
    {name path : String} (hname : name ∈ folderNames t rules place (joined rel))
    (hmem : path ∈ filesBelow t rules depth (place ++ [name]) (childPath (joined rel) name)) :
    ∃ inner, inner ≠ [] ∧ (∀ n ∈ name :: inner, IsName n) ∧
      path = joined (rel ++ name :: inner) := by
  have hproper := (folder_of_mem_folderNames h hname).1
  rw [childPath_joined hrel] at hmem
  obtain ⟨inner, hne, hinner, rfl, -⟩ := mem_filesBelow h (named_append hrel hproper) hmem
  exact ⟨inner, hne, List.forall_mem_cons.mpr ⟨hproper, hinner⟩, by simp⟩

/-- No file is found twice. -/
theorem nodup_filesBelow (h : t.WellFormed) (depth : Nat) (hrel : ∀ name ∈ rel, IsName name) :
    (filesBelow t rules depth place (joined rel)).Nodup := by
  induction depth generalizing place rel with
  | zero => exact List.nodup_nil
  | succ depth ih =>
    have hone : ∀ {name : String}, name ∈ fileNames t rules place (joined rel) →
        ∀ n ∈ [name], IsName n :=
      fun hname => List.forall_mem_singleton.mpr (file_of_mem_fileNames h hname).1
    -- paths below one folder are equal only if the names that lead to them are
    rw [filesBelow_succ, List.nodup_append]
    refine ⟨?_, ?_, ?_⟩
    · -- the files of the folder itself
      refine List.Nodup.map_on ?_ ((h.nodup_namesIn place).filter _)
      intro a ha b hb heq
      rw [childPath_joined hrel, childPath_joined hrel] at heq
      have hsame := Path.joined_append_injective hrel (hone ha) (hone hb) heq
      simpa using hsame
    · -- the files of each folder in it
      rw [List.nodup_flatMap]
      constructor
      · intro name hname
        rw [childPath_joined hrel]
        exact ih (named_append hrel (folder_of_mem_folderNames h hname).1)
      · refine List.Pairwise.imp_of_mem ?_ ((h.nodup_namesIn place).filter _)
        intro a b ha hb hne path hpa hpb
        obtain ⟨inner, -, hnames, rfl⟩ := mem_filesBelow_inside h hrel ha hpa
        obtain ⟨inner', -, hnames', heq⟩ := mem_filesBelow_inside h hrel hb hpb
        have hsame := Path.joined_append_injective hrel hnames hnames' heq
        exact hne (List.cons.inj hsame).1
    · -- a file of the folder itself is not one further down
      intro path hhere other hother heq
      subst heq
      obtain ⟨name, hname, rfl⟩ := List.mem_map.mp hhere
      obtain ⟨folder, hfolder, hmem⟩ := List.mem_flatMap.mp hother
      obtain ⟨inner, hne, hnames, heq⟩ := mem_filesBelow_inside h hrel hfolder hmem
      rw [childPath_joined hrel] at heq
      have hsame := Path.joined_append_injective hrel (hone hname) hnames heq
      exact hne (List.cons.inj hsame).2.symm

/-! ## Manifests -/

/-- The paths of the modules among the files that a scan finds. -/
def modulePaths (t : FileTree) (root : Path) (rules : List IgnoreRule) (suffix : String) :
    List String :=
  (filesBelow t rules (t.entries.length + 1) root.names "").filter fun path =>
    isSourceModule suffix (Path.ofText path).name

/-- A scan of a folder lists the modules that its rules leave in. -/
theorem scanTree_eq_ok {root : Path} {asked suffix : String} {excludePaths : List String}
    {output : Option Path} {manifest : Manifest} :
    scanTree t root asked excludePaths output suffix = .ok manifest ↔
      t.at? root = some .folder ∧
        ∃ rules, scanRules t root excludePaths output = .ok rules ∧
          manifest =
            ⟨root.text, (modulePaths t root rules suffix).map (SourceFile.ofPath t root)⟩ := by
  unfold scanTree
  cases t.at? root with
  | none => simp
  | some e =>
    cases e with
    | file content => simp
    | folder =>
      cases scanRules t root excludePaths output with
      | error e =>
        constructor
        · intro h
          cases h
        · rintro ⟨-, rules, h, -⟩
          cases h
      | ok rules =>
        constructor
        · intro h
          cases h
          exact ⟨rfl, rules, rfl, rfl⟩
        · rintro ⟨-, rules', h, rfl⟩
          cases h
          rfl

/-- No module is listed twice. -/
theorem nodup_modulePaths (h : t.WellFormed) (root : Path) (rules : List IgnoreRule)
    (suffix : String) : (modulePaths t root rules suffix).Nodup :=
  (nodup_filesBelow h _ named_nil).filter _

/-- A listed module is a file below the root. -/
theorem mem_modulePaths (h : t.WellFormed) {root : Path} {suffix path : String}
    (hmem : path ∈ modulePaths t root rules suffix) :
    ∃ names, names ≠ [] ∧ (∀ name ∈ names, IsName name) ∧ path = joined names ∧
      ∃ content, t.entryAt? (root.names ++ names) = some (.file content) := by
  obtain ⟨hfound, -⟩ := List.mem_filter.mp hmem
  obtain ⟨names, hne, hnames, rfl, hfile⟩ := mem_filesBelow h named_nil hfound
  exact ⟨names, hne, hnames, rfl, hfile⟩

end SpanWeave
