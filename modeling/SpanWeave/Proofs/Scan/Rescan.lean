import SpanWeave.Proofs.Files.Additions
import SpanWeave.Proofs.Pass.SurveyResults

/-!
# Scanning again after wrappers were added

Wrappers are not modules: their names end with the suffix that a scan leaves out, and they are none
of the files that a scan, its rules or the packages of a module depend on. So a tree to which only
wrappers were added is scanned, read and indexed like the tree before.
-/

set_option autoImplicit false

namespace SpanWeave

open SpanWeave.Path (joined)
open FileTree (AddsFiles)

/-! ## Places of wrappers -/

/-- A place with the file name of a wrapper. -/
def IsWrapperPlace (suffix : String) (q : Place) : Prop :=
  ∃ folder typeName, q = folder ++ [Assembler.companionName typeName ++ suffix]

/-- A name that opens with another letter than all wrappers is no wrapper's. -/
theorem not_isWrapperPlace_of_head {suffix name : String} (h : name.toList.head? ≠ some 'I')
    (q : Place) : ¬ IsWrapperPlace suffix (q ++ [name]) := by
  rintro ⟨folder, typeName, heq⟩
  obtain ⟨-, hname⟩ := List.append_inj' heq rfl
  rw [List.cons.injEq] at hname
  rw [hname.1] at h
  unfold Assembler.companionName at h
  simp [String.toList_append] at h

/-- A text ends with what is appended last. -/
theorem endsWith_append (s tail : String) : Text.endsWith (s ++ tail) tail = true := by
  unfold Text.endsWith
  rw [List.isPrefixOf_iff_prefix, String.toList_append, List.reverse_append]
  exact List.prefix_append _ _

/-- The file name of a wrapper is not that of a module. -/
theorem not_isWrapperPlace_of_isSourceModule {suffix name : String} (hsuffix : suffix ≠ "")
    (h : isSourceModule suffix name = true) (q : Place) :
    ¬ IsWrapperPlace suffix (q ++ [name]) := by
  rintro ⟨folder, typeName, heq⟩
  obtain ⟨-, hname⟩ := List.append_inj' heq rfl
  rw [List.cons.injEq] at hname
  rw [hname.1] at h
  unfold isSourceModule at h
  rw [endsWith_append] at h
  simp [hsuffix] at h

/-! ## Finding files again -/

variable {t u : FileTree} {suffix : String} {rules : List IgnoreRule}

/-- A depth that no place below the given one exceeds. -/
def EnoughDepth (t : FileTree) (place : Place) (depth : Nat) : Prop :=
  0 < depth ∧ ∀ p e, t.entryAt? p = some e → p.length < place.length + depth

/-- One folder further down, one less is enough. -/
theorem EnoughDepth.inside {place : Place} {depth : Nat} (h : EnoughDepth t place (depth + 1))
    {name : String} {e : Entry} (hentry : t.entryAt? (place ++ [name]) = some e) :
    EnoughDepth t (place ++ [name]) depth := by
  have hlength := h.2 _ _ hentry
  rw [List.length_append, List.length_singleton] at hlength
  refine ⟨by omega, ?_⟩
  intro p e' hp
  have hbound := h.2 p e' hp
  rw [List.length_append, List.length_singleton]
  omega

/-- The depth that a scan allows for is enough. -/
theorem enoughDepth_entries (ht : t.WellFormed) (place : Place) :
    EnoughDepth t place (t.entries.length + 1) := by
  refine ⟨Nat.succ_pos _, ?_⟩
  intro p e hp
  have hlength := ht.length_le_entries hp
  omega

/-- Whether a found file is a module that is not the wrapper of an earlier pass. -/
def isModulePath (suffix path : String) : Bool := isSourceModule suffix (Path.ofText path).name

/-- The last of joined names decides whether they are the path of a module. -/
theorem isModulePath_joined {names : List String} {name : String}
    (h : ∀ n ∈ names ++ [name], IsName n) :
    isModulePath suffix (joined (names ++ [name])) = isSourceModule suffix name := by
  unfold isModulePath
  rw [Path.ofText_joined h]
  unfold Path.name
  rw [List.getLast?_concat, Option.getD_some]

/-- The same modules stand in a folder to which only wrappers were added. -/
theorem fileNames_eq (ht : t.WellFormed) (hu : u.WellFormed) (hsuffix : suffix ≠ "")
    (h : AddsFiles (IsWrapperPlace suffix) t u) {place : Place} {rel : List String}
    (hrel : ∀ name ∈ rel, IsName name) :
    (fileNames u rules place (joined rel)).filter (isModulePath suffix ∘ childPath (joined rel)) =
      (fileNames t rules place (joined rel)).filter
        (isModulePath suffix ∘ childPath (joined rel)) := by
  unfold fileNames
  rw [List.filter_filter, List.filter_filter]
  apply hu.filter_namesIn_eq ht
  intro name
  rcases h (place ++ [name]) with hsame | ⟨hwrapper, -, content, hfile⟩
  · rw [hsame]
  · -- an added file is no module on either side
    have hname : IsName name := hu.named_of_entry hfile name (by simp)
    have hmodule : isModulePath suffix (childPath (joined rel) name) = false := by
      rw [childPath_joined hrel, isModulePath_joined (named_append hrel hname)]
      cases hsource : isSourceModule suffix name with
      | false => rfl
      | true => exact absurd hwrapper (not_isWrapperPlace_of_isSourceModule hsuffix hsource place)
    simp [hmodule]

/-- The same folders stand in a folder to which only wrappers were added. -/
theorem folderNames_eq (ht : t.WellFormed) (hu : u.WellFormed) {added : Place → Prop}
    (h : AddsFiles added t u) (place : Place) (folder : String) :
    folderNames u rules place folder = folderNames t rules place folder := by
  unfold folderNames
  apply hu.filter_namesIn_eq ht
  intro name
  have hfolder := h.folder_iff (place ++ [name])
  constructor
  · rintro ⟨-, hkeep⟩
    simp only [Bool.and_eq_true, beq_iff_eq, hfolder] at hkeep ⊢
    exact ⟨⟨_, hkeep.1.1⟩, hkeep⟩
  · rintro ⟨-, hkeep⟩
    simp only [Bool.and_eq_true, beq_iff_eq, ← hfolder] at hkeep ⊢
    exact ⟨⟨_, hkeep.1.1⟩, hkeep⟩

/-- The same modules are found below a place when only wrappers were added, whatever depth the two
scans allow for as long as it is enough. -/
theorem filesBelow_eq (ht : t.WellFormed) (hu : u.WellFormed) (hsuffix : suffix ≠ "")
    (h : AddsFiles (IsWrapperPlace suffix) t u) {depth depth' : Nat} {place : Place}
    {rel : List String} (hrel : ∀ name ∈ rel, IsName name) (hdepth : EnoughDepth t place depth)
    (hdepth' : EnoughDepth u place depth') :
    (filesBelow u rules depth' place (joined rel)).filter (isModulePath suffix) =
      (filesBelow t rules depth place (joined rel)).filter (isModulePath suffix) := by
  induction depth generalizing depth' place rel with
  | zero => exact absurd hdepth.1 (Nat.lt_irrefl 0)
  | succ depth ih =>
    obtain ⟨below, rfl⟩ : ∃ below, depth' = below + 1 :=
      ⟨depth' - 1, (Nat.succ_pred_eq_of_pos hdepth'.1).symm⟩
    rw [filesBelow_succ, filesBelow_succ, List.filter_append, List.filter_append,
      List.filter_map, List.filter_map, List.filter_flatMap, List.filter_flatMap,
      folderNames_eq ht hu h place]
    rw [fileNames_eq ht hu hsuffix h hrel]
    congr 1
    apply List.flatMap_congr
    intro name hname
    obtain ⟨hproper, hfolder⟩ := folder_of_mem_folderNames ht hname
    rw [childPath_joined hrel]
    exact ih (named_append hrel hproper) (hdepth.inside hfolder)
      (hdepth'.inside ((h.folder_iff _).mpr hfolder))

/-- The same modules are listed when only wrappers were added. -/
theorem modulePaths_eq (ht : t.WellFormed) (hu : u.WellFormed) (hsuffix : suffix ≠ "")
    (h : AddsFiles (IsWrapperPlace suffix) t u) (root : Path) (rules : List IgnoreRule) :
    modulePaths u root rules suffix = modulePaths t root rules suffix :=
  filesBelow_eq ht hu hsuffix h named_nil (enoughDepth_entries ht root.names)
    (enoughDepth_entries hu root.names)

/-! ## Rules, packages and classes again -/

/-- A file with a name that is no wrapper's stands in both trees or in neither. -/
theorem holds_below_eq (h : AddsFiles (IsWrapperPlace suffix) t u) {name : String}
    (hname : IsName name) (hhead : name.toList.head? ≠ some 'I') (directory : Path) :
    u.holds (directory.below name) = t.holds (directory.below name) := by
  apply h.holds_eq
  rw [Path.below_name hname, Path.place_append_name hname]
  exact not_isWrapperPlace_of_head hhead _

/-- The rules of a tree are the same when only wrappers were added. -/
theorem scanRules_eq (h : AddsFiles (IsWrapperPlace suffix) t u) (root : Path)
    (excludePaths : List String) (output : Option Path) :
    scanRules u root excludePaths output = scanRules t root excludePaths output := by
  have hname : IsName ".gitignore" := by decide
  have hholds := holds_below_eq h hname (by decide) root
  have hfile : ignoreFileRules u root = ignoreFileRules t root := by
    unfold ignoreFileRules
    dsimp only
    rw [hholds]
    split
    · rename_i hthere
      have hplace : ¬ IsWrapperPlace suffix (root.below ".gitignore").place := by
        rw [Path.below_name hname, Path.place_append_name hname]
        exact not_isWrapperPlace_of_head (by decide) _
      rw [h.read_eq hplace hthere]
    · rfl
  unfold scanRules
  rw [hfile]

/-- The packages above a module are the same when only wrappers were added. -/
theorem packagesTo_eq (h : AddsFiles (IsWrapperPlace suffix) t u) (depth : Nat) (directory : Path)
    (inner : List String) :
    packagesTo u depth directory inner = packagesTo t depth directory inner := by
  induction depth generalizing directory inner with
  | zero => rfl
  | succ depth ih =>
    have hholds := holds_below_eq h (by decide : IsName packageFile) (by decide) directory
    unfold packagesTo
    rw [hholds, ih]

/-- A module is imported in the same way when only wrappers were added. -/
theorem ofPath_eq (h : AddsFiles (IsWrapperPlace suffix) t u) (root : Path) (path : String) :
    SourceFile.ofPath u root path = SourceFile.ofPath t root path := by
  unfold SourceFile.ofPath ModuleName.ofPath
  rw [packagesTo_eq h]

/-- A listed module is a file, and its place is no wrapper's. -/
theorem file_of_mem_modulePaths (ht : t.WellFormed) (hsuffix : suffix ≠ "") {root : Path}
    (hroot : root.IsPlain) {path : String} (hpath : path ∈ modulePaths t root rules suffix) :
    (∃ content, t.at? (root.below path) = some (.file content)) ∧
      ¬ IsWrapperPlace suffix (root.below path).place := by
  obtain ⟨names, hne, hnames, rfl, content, hentry⟩ := mem_modulePaths ht hpath
  obtain ⟨front, last, rfl⟩ := List.eq_nil_or_concat names |>.resolve_left hne
  rw [List.concat_eq_append] at hnames hpath hentry ⊢
  have hsource : isSourceModule suffix last = true := by
    rw [← isModulePath_joined hnames]
    exact (List.mem_filter.mp hpath).2
  rw [Path.below_joined hnames]
  refine ⟨⟨content, ht.at?_of_entry hentry⟩, ?_⟩
  rw [Path.place_of_named (List.forall_mem_append.mpr ⟨hroot.named, hnames⟩), ← List.append_assoc]
  exact not_isWrapperPlace_of_isSourceModule hsuffix hsource _

/-- A listed module has the same classes when only wrappers were added. -/
theorem classesAt_eq (ht : t.WellFormed) (hsuffix : suffix ≠ "")
    (h : AddsFiles (IsWrapperPlace suffix) t u) {root : Path} (hroot : root.IsPlain)
    {file : SourceFile} (hfile : file.path ∈ modulePaths t root rules suffix) :
    SourceIndex.classesAt u root file = SourceIndex.classesAt t root file := by
  obtain ⟨⟨content, hthere⟩, hplace⟩ := file_of_mem_modulePaths ht hsuffix hroot hfile
  have hholds : t.holds (root.below file.path) = true := by
    unfold FileTree.holds
    rw [hthere]
    rfl
  unfold SourceIndex.classesAt
  rw [h.read_eq hplace hholds]

/-- The index of a tree is the same when only wrappers were added. -/
theorem indexUnder_eq (ht : t.WellFormed) (hu : u.WellFormed) (hsuffix : suffix ≠ "")
    (h : AddsFiles (IsWrapperPlace suffix) t u) {root : Path} (hroot : root.IsPlain)
    (rules : List IgnoreRule) (marker : String) :
    indexUnder u root rules suffix marker = indexUnder t root rules suffix marker := by
  unfold indexUnder
  rw [modulePaths_eq ht hu hsuffix h, SourceIndex.mk.injEq]
  refine ⟨rfl, ?_⟩
  rw [List.flatMap_map, List.flatMap_map]
  apply List.flatMap_congr
  intro path hpath
  rw [ofPath_eq h]
  exact classesAt_eq ht hsuffix h hroot hpath

end SpanWeave
