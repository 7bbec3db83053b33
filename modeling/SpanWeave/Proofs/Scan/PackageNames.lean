import SpanWeave.Proofs.Scan.FoundFiles
import SpanWeave.Proofs.Text.IdentifierNames

/-!
# Packages and directories

The packages that lead to a module are the names of directories on its path, and what stands above
them is the import root. So the directory of a module settles its namespace and its import root. The
other way round the packages and the import root lead back to the directory, but the namespace only
joins the packages with dots: it tells the packages as long as no package has a dot in its name.
-/

set_option autoImplicit false

namespace SpanWeave

open SpanWeave.Path (joined)

variable {tree : FileTree} {root : Path}

/-- The packages that lead to a module, from the outermost one on. -/
def packageNames (tree : FileTree) (path : Path) : List String :=
  (packagesTo tree path.names.length path.parent []).1

/-- The directory above the packages that lead to a module. -/
def packageRoot (tree : FileTree) (path : Path) : Path :=
  (packagesTo tree path.names.length path.parent []).2

/-- Only a start is its own parent. -/
theorem Path.names_eq_nil_of_parent_eq {p : Path} (h : p.parent = p) : p.names = [] := by
  have hlength := congrArg (fun q => q.names.length) h
  unfold parent at hlength
  rw [List.length_dropLast] at hlength
  exact List.length_eq_zero_iff.mp (by omega)

/-- A directory that is not a start is its name below its parent. -/
theorem Path.parent_names_append_name {directory : Path} (h : directory.parent ≠ directory) :
    directory.parent.names ++ [directory.name] = directory.names := by
  have hne : directory.names ≠ [] := by
    rintro hnil
    apply h
    cases directory
    cases hnil
    rfl
  unfold parent name
  rw [List.getLast?_eq_some_getLast hne, Option.getD_some, List.dropLast_append_getLast]

/-- A directory from which names lead down to another one. It has no package file unless it is the
start, and every directory further down on the way has one. -/
structure IsImportRoot (tree : FileTree) (directory root : Path) (packages : List String) : Prop where
  leads : directory = ⟨root.anchor, root.names ++ packages⟩
  unmarked : tree.holds (root.below packageFile) = false ∨ root.names = []
  marked : ∀ outer inner, outer ≠ [] → packages = outer ++ inner →
    tree.holds (Path.below ⟨root.anchor, root.names ++ outer⟩ packageFile) = true

namespace IsImportRoot

variable {directory other : Path} {packages others : List String}

/-- A directory without a package file is its own import root, and so is a start. -/
theorem refl (h : tree.holds (directory.below packageFile) = false ∨ directory.names = []) :
    IsImportRoot tree directory directory [] := by
  refine ⟨by rw [List.append_nil], h, ?_⟩
  intro outer inner hne hsplit
  exact absurd (List.append_eq_nil_iff.mp hsplit.symm).1 hne

/-- A directory with a package file is a package of its parent. -/
theorem step (h : IsImportRoot tree directory.parent root packages)
    (hstart : directory.parent ≠ directory)
    (hmarked : tree.holds (directory.below packageFile) = true) :
    IsImportRoot tree directory root (packages ++ [directory.name]) := by
  have hleads : directory = ⟨root.anchor, root.names ++ (packages ++ [directory.name])⟩ := by
    obtain ⟨hanchor, hnames⟩ := Path.mk.injEq .. |>.mp h.leads
    rw [← List.append_assoc, ← hnames, ← hanchor]
    exact congrArg (Path.mk directory.anchor) (Path.parent_names_append_name hstart).symm
  refine ⟨hleads, h.unmarked, ?_⟩
  intro outer inner hne hsplit
  rcases List.eq_nil_or_concat inner with rfl | ⟨front, last, rfl⟩
  · rw [List.append_nil] at hsplit
    rw [← hsplit, ← hleads]
    exact hmarked
  · rw [List.concat_eq_append, ← List.append_assoc] at hsplit
    exact h.marked outer front hne (List.append_inj' hsplit rfl).1

/-- Of two import roots on one path none is further down. -/
theorem eq_nil_of_append {more : List String} (h : IsImportRoot tree directory root packages)
    (h' : IsImportRoot tree directory other others) (hanchor : root.anchor = other.anchor)
    (hroot : other.names = root.names ++ more) (hpackages : packages = more ++ others) :
    more = [] := by
  by_contra hne
  have hmarked := h.marked more others hne hpackages
  rw [hanchor, ← hroot] at hmarked
  rcases h'.unmarked with hunmarked | hstart
  · rw [hmarked] at hunmarked
    cases hunmarked
  · rw [hroot] at hstart
    exact hne (List.append_eq_nil_iff.mp hstart).2

/-- A directory has one import root. -/
theorem unique (h : IsImportRoot tree directory root packages)
    (h' : IsImportRoot tree directory other others) : root = other ∧ packages = others := by
  obtain ⟨hanchor, hnames⟩ := Path.mk.injEq .. |>.mp (h.leads.symm.trans h'.leads)
  have hsame : root.names = other.names ∧ packages = others := by
    rcases List.append_eq_append_iff.mp hnames with ⟨more, hroot, hpackages⟩ | ⟨more, hroot, hpackages⟩
    · have hnil := h.eq_nil_of_append h' hanchor hroot hpackages
      subst hnil
      exact ⟨by rw [hroot, List.append_nil], hpackages⟩
    · have hnil := h'.eq_nil_of_append h hanchor.symm hroot hpackages
      subst hnil
      exact ⟨by rw [hroot, List.append_nil], hpackages.symm⟩
  refine ⟨?_, hsame.2⟩
  cases root
  cases other
  simp_all

end IsImportRoot

/-- Going up from a directory ends at its import root, and the names on the way are collected in
front of the inner ones. -/
theorem packagesTo_spec (tree : FileTree) {depth : Nat} {directory : Path}
    (hdepth : directory.names.length ≤ depth) (inner : List String) :
    ∃ packages, (packagesTo tree depth directory inner).1 = packages ++ inner ∧
      IsImportRoot tree directory (packagesTo tree depth directory inner).2 packages := by
  induction depth generalizing directory inner with
  | zero =>
    have hstart : directory.names = [] := List.length_eq_zero_iff.mp (Nat.le_zero.mp hdepth)
    exact ⟨[], rfl, .refl (Or.inr hstart)⟩
  | succ depth ih =>
    unfold packagesTo
    split
    · rename_i hpackage
      obtain ⟨hmarked, hstart⟩ := Bool.and_eq_true_iff.mp hpackage
      rw [bne_iff_ne] at hstart
      have hparent : directory.parent.names.length ≤ depth := by
        unfold Path.parent
        rw [List.length_dropLast]
        omega
      obtain ⟨packages, hpackages, hroot⟩ := ih hparent (directory.name :: inner)
      exact ⟨packages ++ [directory.name], by rw [hpackages, List.append_cons],
        hroot.step hstart hmarked⟩
    · rename_i hpackage
      refine ⟨[], rfl, .refl ?_⟩
      rw [Bool.and_eq_true, not_and_or, Bool.not_eq_true] at hpackage
      refine hpackage.imp_right fun hstart => ?_
      exact Path.names_eq_nil_of_parent_eq (by simpa using hstart)

/-- The packages that lead to a module come down from its import root. -/
theorem isImportRoot_packageRoot (tree : FileTree) (path : Path) :
    IsImportRoot tree path.parent (packageRoot tree path) (packageNames tree path) := by
  have hdepth : path.parent.names.length ≤ path.names.length := by
    unfold Path.parent
    rw [List.length_dropLast]
    omega
  obtain ⟨packages, hpackages, hroot⟩ := packagesTo_spec tree hdepth []
  rw [List.append_nil] at hpackages
  unfold packageRoot packageNames
  rwa [hpackages]

/-- The directory of a module is that of its packages below the directory above them. -/
theorem parent_eq_packages (tree : FileTree) (path : Path) :
    path.parent = ⟨(packageRoot tree path).anchor,
      (packageRoot tree path).names ++ packageNames tree path⟩ :=
  (isImportRoot_packageRoot tree path).leads

/-- The directory of a module settles its packages. -/
theorem packages_eq_of_parent (tree : FileTree) {path other : Path} (h : path.parent = other.parent)
    (hlength : path.names.length = other.names.length) :
    packageNames tree path = packageNames tree other ∧
      packageRoot tree path = packageRoot tree other := by
  unfold packageNames packageRoot
  rw [h, hlength]
  exact ⟨rfl, rfl⟩

/-! ## Names of modules -/

/-- The words of a module's name: the packages that lead to it and, unless it is a package file, the
stem of its file. -/
def moduleWords (tree : FileTree) (path : Path) : List String :=
  if stemOf path.name = "__init__" then packageNames tree path
  else packageNames tree path ++ [stemOf path.name]

/-- A module has a name if there are words for it and all of them are identifiers. -/
theorem module_eq_some_iff {path : Path} {module : String} :
    (ModuleName.ofPath tree path).module = some module ↔
      moduleWords tree path ≠ [] ∧ (∀ word ∈ moduleWords tree path, Text.isIdentifier word = true) ∧
        module = String.intercalate "." (moduleWords tree path) := by
  have hofPath : (ModuleName.ofPath tree path).module =
      if !(moduleWords tree path).isEmpty && (moduleWords tree path).all Text.isIdentifier then
        some (String.intercalate "." (moduleWords tree path)) else none := rfl
  rw [hofPath, Option.ite_none_right_eq_some, Bool.and_eq_true, List.all_eq_true, and_assoc,
    Option.some.injEq, eq_comm (a := module)]
  simp

theorem module_eq_none_iff {path : Path} :
    (ModuleName.ofPath tree path).module = none ↔
      moduleWords tree path = [] ∨ ∃ word ∈ moduleWords tree path, Text.isIdentifier word = false := by
  rw [Option.eq_none_iff_forall_ne_some]
  simp only [ne_eq, module_eq_some_iff, not_and]
  constructor
  · intro h
    by_contra hboth
    rw [not_or] at hboth
    refine h _ hboth.1 ?_ rfl
    simpa using hboth.2
  · rintro (hnil | ⟨word, hword, hforeign⟩) module hne hall
    · exact absurd hnil hne
    · rw [hall word hword] at hforeign
      cases hforeign

/-- No identifier has a dot. -/
theorem not_dot_mem_of_isIdentifier {name : String} (h : Text.isIdentifier name = true) :
    '.' ∉ name.toList :=
  Text.not_mem_of_isIdentifier (by decide) (by decide) h

/-- The name of a module is cut into its words again. -/
theorem parts_of_module {path : Path} {module : String}
    (h : (ModuleName.ofPath tree path).module = some module) :
    Text.parts '.' module = moduleWords tree path := by
  obtain ⟨hne, hwords, rfl⟩ := module_eq_some_iff.mp h
  exact Text.parts_intercalate_sep hne fun word hword => not_dot_mem_of_isIdentifier (hwords word hword)

/-- A module that can be imported has identifiers for its packages. -/
theorem isIdentifier_of_mem_packageNames {path : Path} {module package : String}
    (h : (ModuleName.ofPath tree path).module = some module)
    (hpackage : package ∈ packageNames tree path) : Text.isIdentifier package = true := by
  apply (module_eq_some_iff.mp h).2.1
  unfold moduleWords
  split
  · exact hpackage
  · exact List.mem_append_left _ hpackage

/-! ## Paths as seen from the root -/

/-- The text of a plain path starts with a slash. -/
theorem Path.toList_text_of_isPlain {p : Path} (h : p.IsPlain) :
    ∃ cs, p.text.toList = '/' :: cs := by
  obtain ⟨anchor, names⟩ := p
  unfold text
  rw [if_neg (by simp [h.absolute]), String.toList_append]
  cases anchor with
  | here => exact absurd rfl h.absolute
  | root => exact ⟨(joined names).toList, by simp [Anchor.text, joined]⟩
  | doubleRoot => exact ⟨'/' :: (joined names).toList, by simp [Anchor.text, joined]⟩

/-- Names that lead down are never the text of a plain path. -/
theorem joined_ne_text {names : List String} (hnames : ∀ name ∈ names, IsName name) {p : Path}
    (h : p.IsPlain) : joined names ≠ p.text := by
  intro heq
  obtain ⟨cs, hcs⟩ := Path.toList_text_of_isPlain h
  rw [← heq] at hcs
  cases names with
  | nil => simp at hcs
  | cons name names =>
    obtain ⟨c, rest, hjoined, hc⟩ := Path.toList_joined_cons (hnames name List.mem_cons_self) names
    rw [hjoined] at hcs
    cases hcs
    exact hc rfl

/-- Different plain paths look different from the root. -/
theorem relativeText_injective {p q : Path} (hp : p.IsPlain) (hq : q.IsPlain)
    (h : relativeText p root = relativeText q root) : p = q := by
  unfold relativeText at h
  cases hpr : p.relativeTo? root with
  | some names =>
    have hnames := Path.named_of_relativeTo hp.named hpr
    rw [hpr] at h
    cases hqr : q.relativeTo? root with
    | some others =>
      rw [hqr] at h
      rw [Path.relativeTo?_eq_some_iff.mp hpr, Path.relativeTo?_eq_some_iff.mp hqr,
        Path.joined_injective hnames (Path.named_of_relativeTo hq.named hqr) h]
    | none =>
      rw [hqr] at h
      exact absurd h (joined_ne_text hnames hq)
  | none =>
    rw [hpr] at h
    cases hqr : q.relativeTo? root with
    | some others =>
      rw [hqr] at h
      exact absurd h.symm (joined_ne_text (Path.named_of_relativeTo hq.named hqr) hp)
    | none =>
      rw [hqr] at h
      rw [← Path.ofText_text hp, ← Path.ofText_text hq]
      exact congrArg Path.ofText h

/-! ## Modules below a root -/

section

variable {names others : List String}

/-- The path of a module below a root, and its directory. -/
theorem parent_below_joined (hnames : ∀ name ∈ names, IsName name) (hne : names ≠ []) :
    (root.below (joined names)).parent = ⟨root.anchor, root.names ++ names.dropLast⟩ := by
  rw [Path.below_joined hnames, Path.parent, List.dropLast_append_of_ne_nil hne]

/-- What leads to a module below a plain root is plain. -/
theorem isPlain_packageRoot (tree : FileTree) (hroot : root.IsPlain)
    (hnames : ∀ name ∈ names, IsName name)
    (hne : names ≠ []) :
    (packageRoot tree (root.below (joined names))).IsPlain ∧
      ∀ package ∈ packageNames tree (root.below (joined names)), IsName package := by
  have hparent := parent_eq_packages tree (root.below (joined names))
  rw [parent_below_joined hnames hne] at hparent
  obtain ⟨hanchor, hpath⟩ := Path.mk.injEq .. |>.mp hparent
  have hall : ∀ name ∈ root.names ++ names.dropLast, IsName name :=
    List.forall_mem_append.mpr
      ⟨hroot.named, fun name hname => hnames name (List.dropLast_subset names hname)⟩
  rw [hpath, List.forall_mem_append] at hall
  exact ⟨⟨hanchor ▸ hroot.absolute, hall.1⟩, hall.2⟩

theorem path_ofPath (tree : FileTree) (root : Path) (path : String) :
    (SourceFile.ofPath tree root path).path = path := rfl

theorem module_ofPath (tree : FileTree) (root : Path) (path : String) :
    (SourceFile.ofPath tree root path).module =
      (ModuleName.ofPath tree (root.below path)).module := by
  rw [SourceFile.ofPath]

theorem namespace_ofPath (tree : FileTree) (root : Path) (path : String) :
    (SourceFile.ofPath tree root path).namespace =
      String.intercalate "." (packageNames tree (root.below path)) := rfl

theorem importRoot_ofPath (tree : FileTree) (root : Path) (path : String) :
    (SourceFile.ofPath tree root path).importRoot =
      relativeText (packageRoot tree (root.below path)) root := rfl

/-- Modules in one directory have one namespace and one import root. -/
theorem ofPath_congr (tree : FileTree) (root : Path) (hnames : ∀ name ∈ names, IsName name)
    (hothers : ∀ name ∈ others, IsName name) (hne : names ≠ []) (hne' : others ≠ [])
    (h : names.dropLast = others.dropLast) :
    packageNames tree (root.below (joined names)) =
        packageNames tree (root.below (joined others)) ∧
      (SourceFile.ofPath tree root (joined names)).namespace =
          (SourceFile.ofPath tree root (joined others)).namespace ∧
        (SourceFile.ofPath tree root (joined names)).importRoot =
          (SourceFile.ofPath tree root (joined others)).importRoot := by
  have hparent : (root.below (joined names)).parent = (root.below (joined others)).parent := by
    rw [parent_below_joined hnames hne, parent_below_joined hothers hne', h]
  have hlength : (root.below (joined names)).names.length =
      (root.below (joined others)).names.length := by
    have hdrop := congrArg List.length h
    rw [List.length_dropLast, List.length_dropLast] at hdrop
    have hpos := List.length_pos_iff.mpr hne
    have hpos' := List.length_pos_iff.mpr hne'
    rw [Path.below_joined hnames, Path.below_joined hothers, List.length_append,
      List.length_append]
    omega
  obtain ⟨hpackages, hroots⟩ := packages_eq_of_parent tree hparent hlength
  rw [namespace_ofPath, namespace_ofPath, importRoot_ofPath, importRoot_ofPath, hpackages, hroots]
  exact ⟨rfl, rfl, rfl⟩

/-- Modules with one namespace and one import root are in one directory, unless a package of theirs
has a dot in its name. -/
theorem directory_eq_of_ofPath (hroot : root.IsPlain) (hnames : ∀ name ∈ names, IsName name)
    (hothers : ∀ name ∈ others, IsName name) (hne : names ≠ []) (hne' : others ≠ [])
    (hnamespace : (SourceFile.ofPath tree root (joined names)).namespace =
      (SourceFile.ofPath tree root (joined others)).namespace)
    (himport : (SourceFile.ofPath tree root (joined names)).importRoot =
      (SourceFile.ofPath tree root (joined others)).importRoot)
    (hdots : ∀ package ∈ packageNames tree (root.below (joined names)), '.' ∉ package.toList)
    (hdots' : ∀ package ∈ packageNames tree (root.below (joined others)), '.' ∉ package.toList) :
    names.dropLast = others.dropLast := by
  obtain ⟨hplain, hpackages⟩ := isPlain_packageRoot tree hroot hnames hne
  obtain ⟨hplain', hpackages'⟩ := isPlain_packageRoot tree hroot hothers hne'
  rw [namespace_ofPath, namespace_ofPath] at hnamespace
  rw [importRoot_ofPath, importRoot_ofPath] at himport
  have hroots : packageRoot tree (root.below (joined names)) =
      packageRoot tree (root.below (joined others)) :=
    relativeText_injective hplain hplain' himport
  have hsame : packageNames tree (root.below (joined names)) =
      packageNames tree (root.below (joined others)) :=
    Text.intercalate_injective '.'
      (fun package h => ⟨(hpackages package h).nonempty, hdots package h⟩)
      (fun package h => ⟨(hpackages' package h).nonempty, hdots' package h⟩) hnamespace
  have hparent : (root.below (joined names)).parent = (root.below (joined others)).parent := by
    rw [parent_eq_packages tree (root.below (joined names)),
      parent_eq_packages tree (root.below (joined others)), hroots, hsame]
  rw [parent_below_joined hnames hne, parent_below_joined hothers hne'] at hparent
  exact List.append_cancel_left (congrArg Path.names hparent)

end

end SpanWeave
