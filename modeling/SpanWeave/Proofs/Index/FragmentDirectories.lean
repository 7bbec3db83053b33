import Mathlib.Data.List.Permutation
import SpanWeave.Proofs.Pass.SurveyResults
import SpanWeave.Proofs.Scan.PackageNames
import SpanWeave.Proofs.Wrapper.AssemblyResults

/-!
# The directories of a type

The fragments of a type have one namespace and one import root. A declaration that resolves stands
in packages with identifiers for their names, so the other fragments stand in the same directory,
unless the name of a package that leads to them has a dot: its parts then look like packages of
their own.
-/

set_option autoImplicit false

namespace SpanWeave

open SpanWeave.Path (joined)

variable {tree : FileTree} {root : Path} {rules : List IgnoreRule} {suffix marker : String}

/-- A fragment of a resolved type stands in the directory of the declaration exactly if no package
that leads to the fragment has a dot in its name. -/
theorem directory_eq_iff (htree : tree.WellFormed) (hroot : root.IsPlain) {c d : IndexedClass}
    (hc : c ∈ (indexUnder tree root rules suffix marker).classes)
    (hd : d ∈ (indexUnder tree root rules suffix marker).classes) {module : String}
    (hmodule : c.file.module = some module) (hkey : d.key = c.key) :
    (Path.ofText d.file.path).parent = (Path.ofText c.file.path).parent ↔
      ∀ package ∈ packageNames tree (root.below d.file.path), '.' ∉ package.toList := by
  obtain ⟨names, hne, hnames, -, hfile, -⟩ := module_of_mem_indexUnder htree hc
  obtain ⟨others, hne', hothers, -, hfile', -⟩ := module_of_mem_indexUnder htree hd
  have hpath : c.file.path = joined names := by rw [hfile, path_ofPath]
  have hpath' : d.file.path = joined others := by rw [hfile', path_ofPath]
  have hdots : ∀ package ∈ packageNames tree (root.below (joined names)),
      '.' ∉ package.toList := by
    intro package hpackage
    rw [hfile, module_ofPath] at hmodule
    exact not_dot_mem_of_isIdentifier (isIdentifier_of_mem_packageNames hmodule hpackage)
  rw [hpath, hpath', Path.ofText_joined hnames, Path.ofText_joined hothers, Path.parent,
    Path.parent, Path.mk.injEq]
  constructor
  · rintro ⟨-, hsame⟩
    rw [(ofPath_congr tree root hothers hnames hne' hne hsame).1]
    exact hdots
  · intro hdots'
    -- the keys agree in the namespace and in the import root
    have himport := congrArg TypeKey.importRoot hkey
    have hnamespace := congrArg (fun key => key.identity.namespace) hkey
    unfold IndexedClass.key at himport hnamespace
    dsimp only at himport hnamespace
    rw [hfile, hfile'] at himport hnamespace
    refine ⟨rfl, ?_⟩
    exact directory_eq_of_ofPath hroot hothers hnames hne' hne hnamespace himport hdots' hdots

/-- Every fragment of a type that a scanned tree declares stands in a listed module. The modules of
the fragments are all in the directory of the declaration that resolves to the type, as long as no
package that leads to them has a dot in its name; a fragment below such a package is in another
directory. -/
theorem resolve_keeps_directory {ε : Type} (tree : FileTree) (root : Path) (asked : String)
    (excludePaths : List String) (output : Option Path) (suffix marker : String)
    (manifest : Manifest) (htree : tree.WellFormed) (hroot : root.IsPlain)
    (hscan : scanTree tree root asked excludePaths output suffix = .ok manifest) :
    ∃ index, (SourceIndex.ofManifest tree marker manifest : Traced ε SourceIndex).result =
        .ok index ∧
      ∀ c ∈ index.candidates, ∀ t, index.resolve c = some t → ∀ f ∈ t.fragments,
        f.path ∈ manifest.files.map SourceFile.path ∧
          ((Path.ofText f.path).parent = (Path.ofText c.file.path).parent ↔
            ∀ package ∈ packageNames tree (root.below f.path), '.' ∉ package.toList) := by
  obtain ⟨-, rules, -, rfl⟩ := scanTree_eq_ok.mp hscan
  have hindex := SourceIndex.ofManifest_result (ε := ε) tree marker
    ⟨root.text, (modulePaths tree root rules suffix).map (SourceFile.ofPath tree root)⟩
  dsimp only at hindex
  rw [Path.ofText_text hroot] at hindex
  refine ⟨indexUnder tree root rules suffix marker, hindex, ?_⟩
  intro c hc t ht f hf
  obtain ⟨hmodule, hfragments⟩ := SourceIndex.module_of_resolve ht
  rw [hfragments] at hf
  obtain ⟨d, hd, hkey, rfl⟩ := SourceIndex.mem_fragments.mp hf
  obtain ⟨entry, hentry, -, rfl⟩ := SourceIndex.mem_candidates.mp hc
  refine ⟨?_, directory_eq_iff htree hroot hentry hd hmodule hkey⟩
  obtain ⟨names, -, -, hlisted, hfile, -⟩ := module_of_mem_indexUnder htree hd
  rw [List.map_map]
  refine List.mem_map.mpr ⟨joined names, hlisted, ?_⟩
  rw [Function.comp_apply, ← hfile]
  rfl

/-! ## A package with a dot in its name -/

/-- A project with the package `b` in the package `a`, and beside them a package in a directory with
the name `a.b`. All three modules that are not package files declare a class `A`. -/
def dottedProject : FileTree :=
  ⟨[(["p", "a", "__init__.py"], .file []), (["p", "a", "b", "__init__.py"], .file []),
    (["p", "a", "b", "m.py"],
      .file (Text.encode "@Instrumentation\nclass A(ABC):\n  def f(self): pass\n")),
    (["p", "a", "b", "n.py"], .file (Text.encode "class A:\n  def g(self): pass\n")),
    (["p", "a", "b"], .folder), (["p", "a"], .folder), (["p", "a.b", "__init__.py"], .file []),
    (["p", "a.b", "o.py"], .file (Text.encode "class A:\n  def h(self): pass\n")),
    (["p", "a.b"], .folder), (["p"], .folder)]⟩

def dottedManifest : Manifest :=
  ⟨smallRequest.root.text,
    ["a/__init__.py", "a/b/__init__.py", "a/b/m.py", "a/b/n.py", "a.b/__init__.py",
      "a.b/o.py"].map (SourceFile.ofPath dottedProject smallRequest.root)⟩

def dottedIndex : SourceIndex :=
  ⟨"Instrumentation",
    dottedManifest.files.flatMap (SourceIndex.classesAt dottedProject smallRequest.root)⟩

theorem dottedProject_wellFormed : dottedProject.WellFormed := by decide +kernel

theorem dottedProject_scan :
    scanTree dottedProject smallRequest.root "/p" [] none "_g.py" = .ok dottedManifest := by
  have hfolder : dottedProject.at? smallRequest.root = some .folder := by decide +kernel
  have hrules : scanRules dottedProject smallRequest.root [] none = .ok [] := by decide +kernel
  have hmodules : modulePaths dottedProject smallRequest.root [] "_g.py" =
      ["a/__init__.py", "a/b/__init__.py", "a/b/m.py", "a/b/n.py", "a.b/__init__.py",
        "a.b/o.py"] := by cbv
  refine scanTree_eq_ok.mpr ⟨hfolder, [], hrules, ?_⟩
  rw [hmodules]
  rfl

theorem dottedProject_index {ε : Type} :
    (SourceIndex.ofManifest dottedProject "Instrumentation" dottedManifest :
      Traced ε SourceIndex).result = .ok dottedIndex := by
  rw [SourceIndex.ofManifest_result]
  unfold dottedIndex
  rw [dottedManifest, Path.ofText_text smallRequest_plain]

set_option maxRecDepth 100000 in
theorem dottedIndex_classes : ∃ c ∈ dottedIndex.classes,
    c.declaration.carries "Instrumentation" = true ∧ c.file.module = some "a.b.m" ∧
      c.file.path = "a/b/m.py" ∧ ∀ path ∈ ["a/b/n.py", "a.b/o.py"],
        ∃ d ∈ dottedIndex.classes, d.key = c.key ∧ d.file.path = path := by
  decide +kernel

/-- The marked declaration resolves to a type with fragments in both directories. -/
theorem exists_resolve_dottedIndex : ∃ c ∈ dottedIndex.candidates, ∃ t,
    dottedIndex.resolve c = some t ∧ c.file.path = "a/b/m.py" ∧
      ∀ path ∈ ["a/b/n.py", "a.b/o.py"], ∃ f ∈ t.fragments, f.path = path := by
  obtain ⟨c, hc, hmarked, hmodule, hpath, hothers⟩ := dottedIndex_classes
  obtain ⟨t, ht⟩ := SourceIndex.exists_resolve hc hmodule (by decide)
  refine ⟨c.candidate, SourceIndex.mem_candidates.mpr ⟨c, hc, hmarked, rfl⟩, t, ht, hpath, ?_⟩
  intro path hmem
  obtain ⟨d, hd, hkey, hfile⟩ := hothers path hmem
  refine ⟨d.fragment, ?_, hfile⟩
  rw [(SourceIndex.module_of_resolve ht).2]
  exact SourceIndex.mem_fragments.mpr ⟨d, hd, hkey, rfl⟩

/-- The fragment next to the marked declaration is in its directory, since no package that leads to
it has a dot in its name. -/
theorem resolve_keeps_directory_dottedProject :
    ∃ c ∈ dottedIndex.candidates, ∃ t, dottedIndex.resolve c = some t ∧ ∃ f ∈ t.fragments,
      f.path ∈ dottedManifest.files.map SourceFile.path ∧ f.path ≠ c.file.path ∧
        (Path.ofText f.path).parent = (Path.ofText c.file.path).parent := by
  obtain ⟨index, hindex, hkeeps⟩ := resolve_keeps_directory (ε := Unit) dottedProject
    smallRequest.root "/p" [] none "_g.py" "Instrumentation" dottedManifest dottedProject_wellFormed
    smallRequest_plain dottedProject_scan
  rw [dottedProject_index] at hindex
  cases hindex
  obtain ⟨c, hc, t, ht, hpath, hfragments⟩ := exists_resolve_dottedIndex
  obtain ⟨f, hf, hfile⟩ := hfragments "a/b/n.py" (by simp)
  obtain ⟨hlisted, hdirectory⟩ := hkeeps c hc t ht f hf
  have hpackages : ∀ package ∈ packageNames dottedProject (smallRequest.root.below "a/b/n.py"),
      '.' ∉ package.toList := by decide +kernel
  refine ⟨c, hc, t, ht, f, hf, hlisted, ?_, hdirectory.mpr ?_⟩
  · rw [hfile, hpath]
    decide
  · rw [hfile]
    exact hpackages

/-- A package in a directory `a.b` passes for the package `b` in the package `a`, and its class is
taken into a type of another directory. -/
theorem resolve_spans_directories :
    dottedProject.WellFormed ∧ smallRequest.root.IsPlain ∧
      scanTree dottedProject smallRequest.root "/p" [] none "_g.py" = .ok dottedManifest ∧
        ∃ index, (SourceIndex.ofManifest dottedProject "Instrumentation" dottedManifest :
            Traced Unit SourceIndex).result = .ok index ∧
          ∃ c ∈ index.candidates, ∃ t, index.resolve c = some t ∧ ∃ f ∈ t.fragments,
            (Path.ofText f.path).parent ≠ (Path.ofText c.file.path).parent := by
  obtain ⟨c, hc, t, ht, hpath, hfragments⟩ := exists_resolve_dottedIndex
  obtain ⟨f, hf, hfile⟩ := hfragments "a.b/o.py" (by simp)
  refine ⟨dottedProject_wellFormed, smallRequest_plain, dottedProject_scan, dottedIndex,
    dottedProject_index, c, hc, t, ht, f, hf, ?_⟩
  rw [hfile, hpath]
  decide +kernel

end SpanWeave
