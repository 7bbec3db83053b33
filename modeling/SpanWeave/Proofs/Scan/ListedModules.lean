import SpanWeave.Proofs.Scan.Rescan
import SpanWeave.Proofs.Scan.RuleOrigins

/-!
# The modules that a scan lists

A walk comes to a file if it may enter every folder on the way and the rules do not leave out the
file itself. A folder may not be entered if tools keep it for themselves or if the rules leave it
out as a folder; what a later rule says about the files in it does not matter then. The files of a
folder come first, by name, and then what lies in its folders, folder by folder. The rules are those
that the ignore file, the excluded paths and the output directory write.
-/

set_option autoImplicit false

namespace SpanWeave

open SpanWeave.Path (joined)
open IgnoreRule (LeaveOut IsIgnored TextsWrite PatternWrites ignores_eq_false_iff isIgnored_iff)

/-! ## Files that a walk comes to -/

/-- A folder that a walk may enter. -/
structure MayEnter (rules : List IgnoreRule) (outer : List String) (folder : String) : Prop where
  not_tool : folder ∉ toolFolders
  kept : ¬ LeaveOut rules (joined (outer ++ [folder])) true

/-- A file that a walk from a place comes to through the given folders. The walk started where
`rel` leads from. -/
structure IsReached (t : FileTree) (rules : List IgnoreRule) (place : Place)
    (rel folders : List String) (name : String) : Prop where
  file : ∃ content, t.entryAt? (place ++ folders ++ [name]) = some (.file content)
  enters : ∀ outer folder inner, folders = outer ++ folder :: inner →
    MayEnter rules (rel ++ outer) folder
  kept : ¬ LeaveOut rules (joined (rel ++ folders ++ [name])) false

variable {t : FileTree} {rules : List IgnoreRule} {place : Place} {rel folders : List String}
  {name folder : String}

/-- Behind the first folder, the walk goes on from there. -/
theorem isReached_cons :
    IsReached t rules place rel (folder :: folders) name ↔
      MayEnter rules rel folder ∧
        IsReached t rules (place ++ [folder]) (rel ++ [folder]) folders name := by
  constructor
  · intro h
    have hfirst := h.enters [] folder folders rfl
    rw [List.append_nil] at hfirst
    refine ⟨hfirst, by simpa using h.file, ?_, by simpa using h.kept⟩
    rintro outer inside inner rfl
    simpa using h.enters (folder :: outer) inside inner rfl
  · rintro ⟨hfirst, h⟩
    refine ⟨by simpa using h.file, ?_, by simpa using h.kept⟩
    intro outer inside inner hsplit
    cases outer with
    | nil =>
      obtain ⟨rfl, rfl⟩ := List.cons.inj hsplit
      rwa [List.append_nil]
    | cons first outer =>
      obtain ⟨rfl, rfl⟩ := List.cons.inj hsplit
      simpa using h.enters outer inside inner rfl

theorem mem_fileNames_iff (h : t.WellFormed) {path : String} :
    name ∈ fileNames t rules place path ↔
      (∃ content, t.entryAt? (place ++ [name]) = some (.file content)) ∧
        ¬ LeaveOut rules (childPath path name) false := by
  unfold fileNames
  rw [List.mem_filter, h.mem_namesIn, Bool.and_eq_true, Bool.not_eq_true', Bool.not_eq_true',
    ignores_eq_false_iff, ← and_assoc]
  refine and_congr_left fun _ => ?_
  constructor
  · rintro ⟨⟨e, he⟩, hfile⟩
    cases e with
    | folder => simp [he] at hfile
    | file content => exact ⟨content, he⟩
  · rintro ⟨content, hfile⟩
    exact ⟨⟨_, hfile⟩, by simp [hfile]⟩

theorem mem_folderNames_iff (h : t.WellFormed) (hrel : ∀ name ∈ rel, IsName name) :
    name ∈ folderNames t rules place (joined rel) ↔
      t.entryAt? (place ++ [name]) = some .folder ∧ MayEnter rules rel name := by
  unfold folderNames
  rw [List.mem_filter, h.mem_namesIn, Bool.and_eq_true, Bool.and_eq_true, Bool.not_eq_true',
    Bool.not_eq_true', ignores_eq_false_iff, childPath_joined hrel, beq_iff_eq]
  constructor
  · rintro ⟨-, ⟨hfolder, htool⟩, hkept⟩
    exact ⟨hfolder, by simpa using htool, hkept⟩
  · rintro ⟨hfolder, htool, hkept⟩
    exact ⟨⟨_, hfolder⟩, ⟨hfolder, by simpa using htool⟩, hkept⟩

/-- A walk that is allowed enough depth finds exactly the files that it comes to. -/
theorem mem_filesBelow_iff (h : t.WellFormed) {depth : Nat} (hdepth : EnoughDepth t place depth)
    (hrel : ∀ name ∈ rel, IsName name) {path : String} :
    path ∈ filesBelow t rules depth place (joined rel) ↔
      ∃ folders name, path = joined (rel ++ folders ++ [name]) ∧
        IsReached t rules place rel folders name := by
  induction depth generalizing place rel with
  | zero => exact absurd hdepth.1 (Nat.lt_irrefl 0)
  | succ depth ih =>
    rw [filesBelow_succ, List.mem_append, List.mem_map, List.mem_flatMap]
    constructor
    · rintro (⟨name, hname, rfl⟩ | ⟨folder, hfolder, hmem⟩)
      · obtain ⟨hfile, hkept⟩ := (mem_fileNames_iff h).mp hname
        rw [childPath_joined hrel] at hkept ⊢
        exact ⟨[], name, by simp, by simpa using hfile, by simp, by simpa using hkept⟩
      · have hproper := (folder_of_mem_folderNames h hfolder).1
        obtain ⟨hentry, henter⟩ := (mem_folderNames_iff h hrel).mp hfolder
        rw [childPath_joined hrel, ih (hdepth.inside hentry) (named_append hrel hproper)] at hmem
        obtain ⟨folders, name, rfl, hreached⟩ := hmem
        exact ⟨folder :: folders, name, by simp, isReached_cons.mpr ⟨henter, hreached⟩⟩
    · rintro ⟨folders, name, rfl, hreached⟩
      cases folders with
      | nil =>
        refine Or.inl ⟨name, (mem_fileNames_iff h).mpr ⟨by simpa using hreached.file, ?_⟩, ?_⟩
        · rw [childPath_joined hrel]
          simpa using hreached.kept
        · rw [childPath_joined hrel, List.append_nil]
      | cons folder folders =>
        obtain ⟨henter, hinside⟩ := isReached_cons.mp hreached
        obtain ⟨content, hfile⟩ := hinside.file
        rw [List.append_assoc] at hfile
        have hentry := h.folder_of_append (by simp) hfile
        have hproper : IsName folder := h.named_of_entry hentry folder (by simp)
        refine Or.inr ⟨folder, (mem_folderNames_iff h hrel).mpr ⟨hentry, henter⟩, ?_⟩
        rw [childPath_joined hrel, ih (hdepth.inside hentry) (named_append hrel hproper)]
        exact ⟨folders, name, by simp, hinside⟩

/-! ## The order of a walk -/

/-- The order of files by the names that lead to them: in each folder its own files come first. -/
def ComesBefore : List String → List String → Prop
  | [], _ => False
  | _, [] => False
  | [a], [b] => a < b
  | [_], _ :: _ :: _ => True
  | _ :: _ :: _, [_] => False
  | a :: a' :: as, b :: b' :: bs => a < b ∨ a = b ∧ ComesBefore (a' :: as) (b' :: bs)

theorem ComesBefore.asymm {p q : List String} (h : ComesBefore p q) : ¬ ComesBefore q p := by
  induction p generalizing q with
  | nil => exact h.elim
  | cons a as ih =>
    match as, q, h with
    | [], [b], h => exact String.lt_asymm h
    | [], b :: b' :: bs, _ => exact id
    | a' :: as, b :: b' :: bs, h =>
      rintro (hlt | ⟨rfl, hback⟩)
      · rcases h with hab | ⟨rfl, -⟩
        · exact String.lt_asymm hab hlt
        · exact String.lt_irrefl _ hlt
      · rcases h with hab | ⟨-, hinner⟩
        · exact String.lt_irrefl _ hab
        · exact ih hinner hback

/-- Names in front of both sides do not change the order. -/
theorem ComesBefore.append_left {p q : List String} (h : ComesBefore p q) (names : List String) :
    ComesBefore (names ++ p) (names ++ q) := by
  induction names with
  | nil => exact h
  | cons name names ih =>
    obtain ⟨a, as, hp⟩ : ∃ a as, names ++ p = a :: as := by
      cases p with
      | nil => exact h.elim
      | cons => exact List.exists_cons_of_ne_nil (by simp)
    obtain ⟨b, bs, hq⟩ : ∃ b bs, names ++ q = b :: bs := by
      cases q with
      | nil => cases p <;> simp [ComesBefore] at h
      | cons => exact List.exists_cons_of_ne_nil (by simp)
    rw [List.cons_append, List.cons_append, hp, hq]
    rw [hp, hq] at ih
    exact Or.inr ⟨rfl, ih⟩

/-- The order of paths by the names on them. -/
def PathBefore (p q : String) : Prop := ComesBefore (Path.ofText p).names (Path.ofText q).names

theorem pathBefore_joined {p q : List String} (hrel : ∀ name ∈ rel, IsName name)
    (hp : ∀ name ∈ p, IsName name) (hq : ∀ name ∈ q, IsName name) (h : ComesBefore p q) :
    PathBefore (joined (rel ++ p)) (joined (rel ++ q)) := by
  unfold PathBefore
  rw [Path.ofText_joined (List.forall_mem_append.mpr ⟨hrel, hp⟩),
    Path.ofText_joined (List.forall_mem_append.mpr ⟨hrel, hq⟩)]
  exact h.append_left rel

/-- A walk finds files in their order. -/
theorem pairwise_filesBelow (h : t.WellFormed) (depth : Nat) (hrel : ∀ name ∈ rel, IsName name) :
    (filesBelow t rules depth place (joined rel)).Pairwise PathBefore := by
  induction depth generalizing place rel with
  | zero => exact List.Pairwise.nil
  | succ depth ih =>
    have hone : ∀ {name : String}, name ∈ fileNames t rules place (joined rel) →
        ∀ n ∈ [name], IsName n :=
      fun hname => List.forall_mem_singleton.mpr (file_of_mem_fileNames h hname).1
    rw [filesBelow_succ, List.pairwise_append, List.pairwise_map, List.pairwise_flatMap]
    refine ⟨?_, ⟨?_, ?_⟩, ?_⟩
    · -- the files of the folder itself ascend
      refine ((h.pairwise_namesIn place).filter _).imp_of_mem ?_
      intro a b ha hb hlt
      rw [childPath_joined hrel, childPath_joined hrel]
      exact pathBefore_joined hrel (hone ha) (hone hb) hlt
    · intro folder hfolder
      rw [childPath_joined hrel]
      exact ih (named_append hrel (folder_of_mem_folderNames h hfolder).1)
    · -- the folders ascend, and whatever lies in them does with them
      refine ((h.pairwise_namesIn place).filter _).imp_of_mem ?_
      intro a b ha hb hlt p hp q hq
      obtain ⟨inner, hne, hnames, rfl⟩ := mem_filesBelow_inside h hrel ha hp
      obtain ⟨inner', hne', hnames', rfl⟩ := mem_filesBelow_inside h hrel hb hq
      obtain ⟨_, _, rfl⟩ := List.exists_cons_of_ne_nil hne
      obtain ⟨_, _, rfl⟩ := List.exists_cons_of_ne_nil hne'
      exact pathBefore_joined hrel hnames hnames' (Or.inl hlt)
    · intro p hp q hq
      obtain ⟨name, hname, rfl⟩ := List.mem_map.mp hp
      obtain ⟨folder, hfolder, hq⟩ := List.mem_flatMap.mp hq
      obtain ⟨inner, hne, hnames, rfl⟩ := mem_filesBelow_inside h hrel hfolder hq
      obtain ⟨_, _, rfl⟩ := List.exists_cons_of_ne_nil hne
      rw [childPath_joined hrel]
      exact pathBefore_joined hrel (hone hname) hnames trivial

/-! ## Manifests -/

theorem IsReached.named (h : t.WellFormed) (hreached : IsReached t rules place rel folders name) :
    ∀ n ∈ folders ++ [name], IsName n := by
  obtain ⟨content, hfile⟩ := hreached.file
  intro n hn
  exact h.named_of_entry hfile n (by simpa [or_assoc] using Or.inr (List.mem_append.mp hn))

theorem mem_modulePaths_iff (h : t.WellFormed) {root : Path} {suffix path : String} :
    path ∈ modulePaths t root rules suffix ↔
      ∃ folders name, path = joined (folders ++ [name]) ∧
        IsReached t rules root.names [] folders name ∧ isSourceModule suffix name = true := by
  have hfound : path ∈ filesBelow t rules (t.entries.length + 1) root.names "" ↔ _ :=
    mem_filesBelow_iff h (enoughDepth_entries h root.names) named_nil
  unfold modulePaths
  rw [List.mem_filter, hfound]
  constructor
  · rintro ⟨⟨folders, name, rfl, hreached⟩, hmodule⟩
    refine ⟨folders, name, rfl, hreached, ?_⟩
    rwa [← isModulePath_joined (hreached.named h)]
  · rintro ⟨folders, name, rfl, hreached, hmodule⟩
    refine ⟨⟨folders, name, rfl, hreached⟩, ?_⟩
    rwa [← isModulePath_joined (hreached.named h)] at hmodule

theorem pairwise_modulePaths (h : t.WellFormed) (root : Path) (rules : List IgnoreRule)
    (suffix : String) : (modulePaths t root rules suffix).Pairwise PathBefore :=
  (pairwise_filesBelow h _ named_nil).filter _

/-- A file that a scan has to list. It lies in the given folders below the root, none of which is a
tool's or ignored as a folder; its name has the extension of modules behind a stem and does not end
like that of a wrapper; and it is not ignored as a file. -/
structure IsListed (t : FileTree) (root : Path) (rules : List IgnoreRule) (suffix : String)
    (folders : List String) (name : String) : Prop where
  file : ∃ content, t.entryAt? (root.names ++ folders ++ [name]) = some (.file content)
  extension : ∃ stem, stem ≠ "" ∧ name = stem ++ ".py"
  not_wrapper : suffix ≠ "" → ∀ front, name ≠ front ++ suffix
  folders_not_tool : ∀ folder ∈ folders, folder ∉ toolFolders
  folders_kept : ∀ outer inner, outer ≠ [] → folders = outer ++ inner →
    ¬ IsIgnored rules (joined outer) true
  kept : ¬ IsIgnored rules (joined (folders ++ [name])) false

theorem isSourceModule_iff {suffix : String} :
    isSourceModule suffix name = true ↔
      (∃ stem, stem ≠ "" ∧ name = stem ++ ".py") ∧ (suffix ≠ "" → ∀ front, name ≠ front ++ suffix) := by
  rw [← extensionOf_eq_iff]
  unfold isSourceModule moduleExtension
  simp only [Bool.and_eq_true, beq_iff_eq, Bool.not_eq_true', ← Bool.not_eq_true, bne_iff_ne,
    Text.endsWith_iff, not_and, not_exists]

/-- Every folder on the way may be entered if none of them belongs to a tool and the rules leave
none of them out. -/
theorem forall_mayEnter_iff :
    (∀ outer folder inner, folders = outer ++ folder :: inner → MayEnter rules outer folder) ↔
      (∀ folder ∈ folders, folder ∉ toolFolders) ∧
        ∀ outer inner, outer ≠ [] → folders = outer ++ inner → ¬ LeaveOut rules (joined outer) true := by
  constructor
  · intro h
    refine ⟨?_, ?_⟩
    · intro folder hfolder
      obtain ⟨outer, inner, hsplit⟩ := List.append_of_mem hfolder
      exact (h outer folder inner hsplit).not_tool
    · intro outer inner hne hsplit
      obtain ⟨front, folder, rfl⟩ := List.eq_nil_or_concat outer |>.resolve_left hne
      rw [List.concat_eq_append] at hsplit ⊢
      exact (h front folder inner (by simpa using hsplit)).kept
  · rintro ⟨htools, hkept⟩ outer folder inner rfl
    exact ⟨htools folder (by simp), hkept (outer ++ [folder]) inner (by simp) (by simp)⟩

theorem isListed_iff {root : Path} {suffix : String} :
    IsListed t root rules suffix folders name ↔
      IsReached t rules root.names [] folders name ∧ isSourceModule suffix name = true := by
  rw [isSourceModule_iff]
  constructor
  · rintro ⟨hfile, hextension, hwrapper, htools, hfolders, hkept⟩
    simp only [isIgnored_iff] at hfolders hkept
    exact ⟨⟨hfile, forall_mayEnter_iff.mpr ⟨htools, hfolders⟩, hkept⟩, hextension, hwrapper⟩
  · rintro ⟨h, hextension, hwrapper⟩
    obtain ⟨htools, hfolders⟩ := forall_mayEnter_iff.mp h.enters
    have hkept := h.kept
    simp only [← isIgnored_iff] at hfolders hkept
    exact ⟨h.file, hextension, hwrapper, htools, hfolders, hkept⟩

theorem SourceFile.map_path_ofPath (t : FileTree) (root : Path) (paths : List String) :
    (paths.map (SourceFile.ofPath t root)).map SourceFile.path = paths := by
  rw [List.map_map]
  exact List.map_id _

/-- A listed path leads to its file through one list of folders. -/
theorem IsListed.unique {root : Path} {suffix : String} (h : t.WellFormed)
    (hlisted : IsListed t root rules suffix folders name) {others : List String} {other : String}
    (hothers : ∀ n ∈ others ++ [other], IsName n)
    (hpath : joined (others ++ [other]) = joined (folders ++ [name])) :
    folders = others ∧ name = other := by
  have hsame := Path.joined_injective hothers ((isListed_iff.mp hlisted).1.named h) hpath
  obtain ⟨hfolders, hname⟩ := List.append_inj' hsame rfl
  exact ⟨hfolders.symm, (List.cons.inj hname).1.symm⟩

/-- A project with an ignore file that takes back a part of what it says, with an old folder, and with
an output directory. -/
def ruledProject : FileTree :=
  ⟨[(["p", ".gitignore"], .file (Text.encode "gen/\n# by hand\n*.tmp.py\n!keep.tmp.py\n")),
    (["p", "a", "keep.tmp.py"], .file []), (["p", "a", "lost.tmp.py"], .file []),
    (["p", "a"], .folder), (["p", "gen", "keep.tmp.py"], .file []), (["p", "gen"], .folder),
    (["p", "old", "a.py"], .file []), (["p", "old"], .folder),
    (["p", "out", "b.py"], .file []), (["p", "out"], .folder), (["p"], .folder)]⟩

/-- The rules of a scan of the ruled project without its old folder: three lines, one pattern that is
not blank, and the output directory. -/
def ruledRules : List IgnoreRule :=
  [⟨"gen", true, false, false, false⟩, ⟨"*.tmp.py", false, false, false, false⟩,
    ⟨"keep.tmp.py", false, false, true, false⟩, ⟨"old", true, true, false, false⟩,
    ⟨"out", true, true, false, false⟩]

set_option maxRecDepth 100000 in
theorem ruledProject_rules :
    scanRules ruledProject ⟨.root, ["p"]⟩ ["/old/", " "] (some ⟨.root, ["p", "out"]⟩) =
      .ok ruledRules := by
  decide +kernel

end SpanWeave
