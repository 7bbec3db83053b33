import Mathlib.Data.List.Infix
import Mathlib.Data.List.Permutation
import SpanWeave.Proofs.Ignore.LiteralPatterns
import SpanWeave.Proofs.Scan.ListedModules
import SpanWeave.Proofs.Scan.PackageNames

/-!
# Scans with an output directory

The output directory is left out by a last rule about folders whose pattern is the path of the
directory. So a scan with it lists what a scan without it does, except for what lies in a folder
that the pattern fits. If the path stands for itself as a pattern, that folder is the output
directory and no other one; a directory such as `out[1]` does not fit its own path.
-/

set_option autoImplicit false

namespace SpanWeave

open SpanWeave.Path (joined)
open IgnoreRule (LeaveOut leaveOut_append_singleton covers_file)

variable {t : FileTree} {rules : List IgnoreRule} {r : IgnoreRule} {place : Place}
  {folders names way : List String} {name : String}

/-! ## One more rule about folders -/

/-- A file is reached under one more rule about folders if that rule is about none of the folders on
the way. -/
theorem isReached_append_singleton (hkeeps : r.negated = false) (hfolders : r.directoryOnly = true) :
    IsReached t (rules ++ [r]) place [] folders name ↔
      IsReached t rules place [] folders name ∧
        ∀ outer inner, outer ≠ [] → folders = outer ++ inner →
          r.covers (joined outer) true = false := by
  have hleft : ∀ path isFolder, ¬ LeaveOut (rules ++ [r]) path isFolder ↔
      ¬ LeaveOut rules path isFolder ∧ r.covers path isFolder = false := by
    intro path isFolder
    rw [leaveOut_append_singleton hkeeps, not_or, Bool.not_eq_true]
  constructor
  · intro h
    obtain ⟨htools, hkept⟩ := forall_mayEnter_iff.mp h.enters
    have hboth := fun outer inner hne hsplit => (hleft _ _).mp (hkept outer inner hne hsplit)
    refine ⟨⟨h.file, forall_mayEnter_iff.mpr ⟨htools, ?_⟩, ((hleft _ _).mp h.kept).1⟩, ?_⟩
    · exact fun outer inner hne hsplit => (hboth outer inner hne hsplit).1
    · exact fun outer inner hne hsplit => (hboth outer inner hne hsplit).2
  · rintro ⟨h, hcovers⟩
    obtain ⟨htools, hkept⟩ := forall_mayEnter_iff.mp h.enters
    refine ⟨h.file, forall_mayEnter_iff.mpr ⟨htools, ?_⟩, (hleft _ _).mpr ⟨h.kept, ?_⟩⟩
    · intro outer inner hne hsplit
      exact (hleft _ _).mpr ⟨hkept outer inner hne hsplit, hcovers outer inner hne hsplit⟩
    · exact covers_file hfolders _

/-- Whether one of the folders on the way to a file is one that a rule is about. -/
def liesUnder (r : IgnoreRule) (path : String) : Bool :=
  (Path.ofText path).parent.names.inits.any fun outer =>
    !outer.isEmpty && r.covers (joined outer) true

theorem liesUnder_joined (h : ∀ n ∈ folders ++ [name], IsName n) :
    liesUnder r (joined (folders ++ [name])) = false ↔
      ∀ outer inner, outer ≠ [] → folders = outer ++ inner →
        r.covers (joined outer) true = false := by
  unfold liesUnder Path.parent
  rw [Path.ofText_joined h, List.dropLast_concat, List.any_eq_false]
  constructor
  · rintro hnone outer inner hne rfl
    simpa [hne] using hnone outer ((List.mem_inits _ _).mpr (List.prefix_append _ _))
  · intro hnone outer houter
    obtain ⟨inner, hsplit⟩ := (List.mem_inits _ _).mp houter
    by_cases hne : outer = []
    · simp [hne]
    · simp [hnone outer inner hne hsplit.symm]

/-- One more rule about folders takes away what lies in the folders that it is about. -/
theorem modulePaths_append_singleton (h : t.WellFormed) (hkeeps : r.negated = false)
    (hfolders : r.directoryOnly = true) (root : Path) (suffix : String) :
    modulePaths t root (rules ++ [r]) suffix =
      (modulePaths t root rules suffix).filter fun path => !liesUnder r path := by
  -- both lists are in the order of walks, so it is enough that they have the same members
  refine List.Perm.eq_of_pairwise ?_ (pairwise_modulePaths h root _ suffix)
    ((pairwise_modulePaths h root rules suffix).filter _) ?_
  · intro p q _ _ hpq hqp
    exact absurd hqp hpq.asymm
  rw [List.perm_ext_iff_of_nodup (nodup_modulePaths h root _ suffix)
    ((nodup_modulePaths h root rules suffix).filter _)]
  intro path
  rw [List.mem_filter, mem_modulePaths_iff h, mem_modulePaths_iff h, Bool.not_eq_true']
  simp only [isReached_append_singleton hkeeps hfolders]
  constructor
  · rintro ⟨folders, name, rfl, ⟨hreached, hcovers⟩, hmodule⟩
    exact ⟨⟨folders, name, rfl, hreached, hmodule⟩, (liesUnder_joined (hreached.named h)).mpr hcovers⟩
  · rintro ⟨⟨folders, name, rfl, hreached, hmodule⟩, hunder⟩
    exact ⟨folders, name, rfl, ⟨hreached, (liesUnder_joined (hreached.named h)).mp hunder⟩, hmodule⟩

/-! ## The rule about an output directory -/

/-- The rule that leaves out the folder to which names lead. -/
def folderRule (names : List String) : IgnoreRule :=
  ⟨joined names, true, true, false, (joined names).toList.contains '/'⟩

theorem ofPattern?_folder (names : List String) :
    IgnoreRule.ofPattern? ("/" ++ joined names ++ "/") false = some (folderRule names) := by
  have hlist : ("/" ++ joined names ++ "/").toList = '/' :: (joined names).toList ++ ['/'] := by
    rw [String.toList_append, String.toList_append]
    rfl
  unfold IgnoreRule.ofPattern? folderRule
  rw [hlist, Text.trim_of_ends (by decide) (by decide)]
  simp only [List.getLast?_concat, List.dropLast_concat]
  simp

theorem outputRule?_eq_some {root directory : Path}
    (hbelow : (Path.resolve root directory).relativeTo? root = some names) (hne : names ≠ []) :
    outputRule? root (some directory) = some (folderRule names) := by
  unfold outputRule?
  simp only [Option.bind_eq_bind, Option.bind_some, hbelow]
  rw [if_neg (by simpa using hne)]
  exact ofPattern?_folder names

/-- The rule about the output directory comes after all other rules. -/
theorem scanRules_output {root directory : Path} (h : outputRule? root (some directory) = some r)
    (excludePaths : List String) :
    scanRules t root excludePaths (some directory) =
      (scanRules t root excludePaths none).map fun rules => rules ++ [r] := by
  have hnone : outputRule? root none = none := rfl
  unfold scanRules
  rw [h, hnone]
  cases ignoreFileRules t root with
  | error e => rfl
  | ok fileRules =>
    rw [Option.toList_none, Option.toList_some]
    show Except.ok _ = Except.ok _
    rw [List.append_nil]

/-- With the output directory a scan lists less by what lies in folders that the rule about the
output directory is about. -/
theorem scanTree_output_eq {root directory : Path} (h : outputRule? root (some directory) = some r)
    (hkeeps : r.negated = false) (hfolders : r.directoryOnly = true) (ht : t.WellFormed)
    (asked suffix : String) (excludePaths : List String) :
    scanTree t root asked excludePaths (some directory) suffix =
      (scanTree t root asked excludePaths none suffix).map fun manifest =>
        { manifest with files := manifest.files.filter fun file => !liesUnder r file.path } := by
  have hmanifest : ∀ rules, (⟨root.text, (modulePaths t root (rules ++ [r]) suffix).map
        (SourceFile.ofPath t root)⟩ : Manifest) =
      ⟨root.text, ((modulePaths t root rules suffix).map (SourceFile.ofPath t root)).filter
        fun file => !liesUnder r file.path⟩ := by
    intro rules
    rw [modulePaths_append_singleton ht hkeeps hfolders, List.filter_map]
    rfl
  unfold scanTree
  rw [scanRules_output h]
  cases t.at? root with
  | none => rfl
  | some e =>
    cases e with
    | file => rfl
    | folder =>
      cases scanRules t root excludePaths none with
      | error e => rfl
      | ok rules => exact congrArg Except.ok (hmanifest rules)

/-! ## Output directories whose path stands for itself -/

/-- Names are cut off before what follows a slash. -/
theorem prefix_of_joined (hnames : ∀ n ∈ names, IsName n) (hne : names ≠ [])
    (hway : ∀ n ∈ way, IsName n) {rest : String} (h : joined way = joined names ++ "/" ++ rest) :
    names <+: way := by
  have hparts : Text.parts '/' (joined way) = names ++ Text.parts '/' rest := by
    rw [h]
    exact Text.parts_intercalate_append hne (fun n hn => (hnames n hn).slashless) rest
  have hread := congrArg Path.names (Path.ofText_joined hway)
  unfold Path.ofText at hread
  rw [hparts, List.filter_append, Path.kept_names hnames] at hread
  exact ⟨_, hread⟩

/-- If the path of a folder stands for itself, its rule is about what it leads to and further down.
-/
theorem covers_folderRule (hnames : ∀ n ∈ names, IsName n) (hne : names ≠ [])
    (hliteral : Glob.IsLiteral (joined names)) (hway : ∀ n ∈ way, IsName n) :
    (folderRule names).covers (joined way) true = true ↔ names <+: way := by
  unfold IgnoreRule.covers folderRule
  rw [if_neg (Path.joined_ne_empty hnames hne), if_neg (by simp), if_pos (by simp), Bool.true_and,
    Bool.or_eq_true, Glob.matchesName_of_isLiteral hliteral, Text.startsWith_iff]
  constructor
  · rintro (hsame | ⟨rest, hrest⟩)
    · rw [Path.joined_injective hway hnames hsame]
    · exact prefix_of_joined hnames hne hway hrest
  · rintro ⟨rest, rfl⟩
    cases rest with
    | nil => exact Or.inl (congrArg joined (List.append_nil names))
    | cons first rest =>
      refine Or.inr ?_
      rw [Path.joined_append hne (by simp)]
      exact ⟨_, rfl⟩

/-- Whether a file lies in the folder to which names lead, or further down. -/
def liesBelow (names : List String) (path : String) : Bool :=
  names.isPrefixOf (Path.ofText path).parent.names

theorem liesUnder_folderRule (hnames : ∀ n ∈ names, IsName n) (hne : names ≠ [])
    (hliteral : Glob.IsLiteral (joined names)) (hway : ∀ n ∈ folders ++ [name], IsName n) :
    liesUnder (folderRule names) (joined (folders ++ [name])) =
      liesBelow names (joined (folders ++ [name])) := by
  have hfolders : ∀ n ∈ folders, IsName n := (List.forall_mem_append.mp hway).1
  have hbelow : liesBelow names (joined (folders ++ [name])) = true ↔ names <+: folders := by
    unfold liesBelow Path.parent
    rw [Path.ofText_joined hway, List.isPrefixOf_iff_prefix, List.dropLast_concat]
  rw [Bool.eq_iff_iff, hbelow, ← Bool.not_eq_false, liesUnder_joined hway]
  constructor
  · intro hcovered
    by_contra houtside
    apply hcovered
    rintro outer inner - rfl
    rw [Bool.eq_false_iff, Ne,
      covers_folderRule hnames hne hliteral (List.forall_mem_append.mp hfolders).1]
    exact fun hlead => houtside (hlead.trans (List.prefix_append _ _))
  · rintro ⟨inner, rfl⟩ hnone
    have hcovered := (covers_folderRule hnames hne hliteral hnames).mpr List.prefix_rfl
    rw [hnone names inner hne rfl] at hcovered
    cases hcovered

/-- If the output directory lies below the root and its path, read as a pattern, stands for itself,
then a scan with the output directory is the scan without it, less the files in the output directory
and further down. -/
theorem scanTree_hides_output {tree : FileTree} (htree : tree.WellFormed) {root : Path}
    (hroot : root.IsPlain) {directory : Path} (hdirectory : directory.IsOrdinary)
    {names : List String}
    (hbelow : (Path.resolve root directory).relativeTo? root = some names) (hne : names ≠ [])
    (hliteral : Glob.IsLiteral (joined names)) (asked suffix : String)
    (excludePaths : List String) :
    scanTree tree root asked excludePaths (some directory) suffix =
      (scanTree tree root asked excludePaths none suffix).map fun manifest =>
        { manifest with files := manifest.files.filter fun file => !liesBelow names file.path } := by
  have hnames : ∀ n ∈ names, IsName n :=
    Path.named_of_relativeTo (hroot.isOrdinary.join hdirectory).direct_named hbelow
  rw [scanTree_output_eq (outputRule?_eq_some hbelow hne) rfl rfl htree]
  cases hscan : scanTree tree root asked excludePaths none suffix with
  | error e => rfl
  | ok manifest =>
    obtain ⟨-, rules, -, rfl⟩ := scanTree_eq_ok.mp hscan
    simp only [Except.map, Except.ok.injEq, Manifest.mk.injEq, true_and]
    refine List.filter_congr fun file hfile => ?_
    obtain ⟨path, hpath, rfl⟩ := List.mem_map.mp hfile
    obtain ⟨folders, name, rfl, hreached, -⟩ := (mem_modulePaths_iff htree).mp hpath
    rw [path_ofPath, liesUnder_folderRule hnames hne hliteral (hreached.named htree)]

/-- Two directories, of which the second one is named by a pattern that fits the first one. -/
def bracketProject : FileTree :=
  ⟨[(["p", "a.py"], .file []), (["p", "out1", "y.py"], .file []), (["p", "out1"], .folder),
    (["p", "out[1]", "x.py"], .file []), (["p", "out[1]"], .folder), (["p"], .folder)]⟩

/-- The modules of the project. -/
def bracketPaths : List String := ["a.py", "out1/y.py", "out[1]/x.py"]

theorem bracketProject_modules :
    modulePaths bracketProject ⟨.root, ["p"]⟩ [] "_g.py" = bracketPaths := by
  cbv

/-- What a scan of the project lists. -/
def bracketManifest : Manifest :=
  ⟨"/p", bracketPaths.map (SourceFile.ofPath bracketProject ⟨.root, ["p"]⟩)⟩

theorem bracketManifest_filter (p : String → Bool) :
    ((bracketManifest.files.filter fun file => p file.path).map SourceFile.path) =
      bracketPaths.filter p := by
  unfold bracketManifest
  rw [List.filter_map, SourceFile.map_path_ofPath]
  rfl

theorem bracketProject_wellFormed : bracketProject.WellFormed := by decide +kernel

theorem bracketProject_scan :
    scanTree bracketProject ⟨.root, ["p"]⟩ "/p" [] none "_g.py" = .ok bracketManifest := by
  refine scanTree_eq_ok.mpr ⟨by decide +kernel, [], by decide +kernel, ?_⟩
  rw [bracketProject_modules]
  rfl

/-- The first of the two directories is hidden as an output directory, and the second one stays. -/
theorem scanTree_hides_output_bracketProject :
    ∃ manifest,
      scanTree bracketProject ⟨.root, ["p"]⟩ "/p" [] (some ⟨.root, ["p", "out1"]⟩) "_g.py" =
        .ok manifest ∧
      manifest.files.map SourceFile.path = ["a.py", "out[1]/x.py"] := by
  have hliteral : Glob.IsLiteral (joined ["out1"]) := by
    rw [Path.joined_singleton]
    exact Glob.isLiteral_of_ordinary (by simp)
  have hset := scanTree_hides_output bracketProject_wellFormed
    (show Path.IsPlain ⟨.root, ["p"]⟩ by decide)
    (show Path.IsPlain ⟨.root, ["p", "out1"]⟩ by decide).isOrdinary (by decide) (by decide) hliteral
    "/p" "_g.py" []
  rw [bracketProject_scan] at hset
  refine ⟨_, hset, ?_⟩
  dsimp only
  rw [bracketManifest_filter fun path => !liesBelow ["out1"] path]
  decide +kernel

/-- The second directory as an output directory is scanned all the same, and the first one is
hidden in its place. -/
theorem scanTree_hides_other :
    bracketProject.WellFormed ∧
      (Path.resolve ⟨.root, ["p"]⟩ ⟨.root, ["p", "out[1]"]⟩).relativeTo? ⟨.root, ["p"]⟩ =
        some ["out[1]"] ∧
      ∃ unset set,
        scanTree bracketProject ⟨.root, ["p"]⟩ "/p" [] none "_g.py" = .ok unset ∧
        scanTree bracketProject ⟨.root, ["p"]⟩ "/p" [] (some ⟨.root, ["p", "out[1]"]⟩) "_g.py" =
          .ok set ∧
        unset.files.map SourceFile.path = ["a.py", "out1/y.py", "out[1]/x.py"] ∧
        set.files.map SourceFile.path = ["a.py", "out[1]/x.py"] := by
  have hbelow : (Path.resolve ⟨.root, ["p"]⟩ ⟨.root, ["p", "out[1]"]⟩).relativeTo? ⟨.root, ["p"]⟩ =
      some ["out[1]"] := by decide
  have hset := scanTree_output_eq (outputRule?_eq_some hbelow (by simp)) rfl rfl
    bracketProject_wellFormed "/p" "_g.py" []
  rw [bracketProject_scan] at hset
  refine ⟨bracketProject_wellFormed, hbelow, bracketManifest, _, bracketProject_scan, hset,
    SourceFile.map_path_ofPath _ _ _, ?_⟩
  dsimp only
  rw [bracketManifest_filter fun path => !liesUnder (folderRule ["out[1]"]) path]
  decide +kernel

end SpanWeave
