import SpanWeave.Proofs.Scan.PackageNames

/-!
# Modules and their files

The name of a module leads back to its file: cut at its dots, it gives the names of the folders on
the way down from the import root, and then that of the file without its extension. A package file
is the one below the folders that its name gives.
-/

set_option autoImplicit false

namespace SpanWeave

open SpanWeave.Path (joined)

/-- The extension of a file name is cut off to get its stem. -/
theorem stemOf_append {stem : String} (h : stem ≠ "") : stemOf (stem ++ ".py") = stem := by
  unfold stemOf
  rw [extensionStart?_append h]
  dsimp only
  rw [String.toList_append, List.take_left, String.ofList_toList]

/-- A name with the extension of modules is that extension behind its stem, or nothing else. -/
theorem eq_stemOf_append {name : String} (h : Text.endsWith name ".py" = true) :
    name = ".py" ∨ stemOf name ≠ "" ∧ name = stemOf name ++ ".py" := by
  unfold Text.endsWith at h
  rw [List.isPrefixOf_iff_prefix, List.reverse_prefix] at h
  obtain ⟨stem, hstem⟩ := h
  have hname : name = String.ofList stem ++ ".py" := by
    apply String.toList_inj.mp
    rw [← hstem, String.toList_append]
    simp
  by_cases hempty : String.ofList stem = ""
  · rw [hempty] at hname
    exact Or.inl hname
  · right
    rw [hname, stemOf_append hempty]
    exact ⟨hempty, rfl⟩

/-- Identifiers can stand on a path. -/
theorem isName_of_isIdentifier {name : String} (h : Text.isIdentifier name = true) : IsName name := by
  have hdot := not_dot_mem_of_isIdentifier h
  refine ⟨Text.ne_empty_of_isIdentifier h, ?_, ?_,
    Text.not_mem_of_isIdentifier (by decide) (by decide) h⟩
  · rintro rfl
    simp at hdot
  · rintro rfl
    simp at hdot

theorem isName_append_extension {stem : String} (h : IsName stem) : IsName (stem ++ ".py") := by
  have hlong : 3 < (stem ++ ".py").toList.length := by
    have hpos : 0 < stem.toList.length := List.length_pos_iff.mpr (by simpa using h.nonempty)
    rw [String.toList_append, List.length_append]
    have hthree : ".py".toList.length = 3 := rfl
    omega
  refine ⟨?_, ?_, ?_, ?_⟩
  · intro hempty
    simp [hempty] at hlong
  · intro hhere
    simp [hhere] at hlong
  · intro habove
    simp [habove] at hlong
  · rw [String.toList_append, List.mem_append, not_or]
    exact ⟨h.slashless, by decide⟩

theorem Path.parent_ne_self {path : Path} (h : path.name ≠ "") : path.parent ≠ path := by
  intro hsame
  unfold name at h
  rw [names_eq_nil_of_parent_eq hsame] at h
  exact h rfl

/-- A module lies below its import root, behind its packages. -/
theorem eq_packageRoot_append (tree : FileTree) {path : Path} (h : path.parent ≠ path) :
    path = ⟨(packageRoot tree path).anchor,
      (packageRoot tree path).names ++ (packageNames tree path ++ [path.name])⟩ := by
  obtain ⟨hanchor, hnames⟩ := Path.mk.injEq .. |>.mp (parent_eq_packages tree path)
  rw [← List.append_assoc, ← hnames, ← hanchor]
  exact congrArg (Path.mk path.anchor) (Path.parent_names_append_name h).symm

/-- A text of names leads from the import root to the module if the names are the packages and the
file name. -/
theorem below_packageRoot {tree : FileTree} {path : Path} {names : List String}
    (h : path.parent ≠ path) (hnames : ∀ name ∈ names, IsName name)
    (hsame : names = packageNames tree path ++ [path.name]) :
    (packageRoot tree path).below (joined names) = path := by
  rw [Path.below_joined hnames, hsame, ← eq_packageRoot_append tree h]

/-- The last name goes on without a slash. -/
theorem joined_concat_append (names : List String) (last more : String) :
    joined (names ++ [last]) ++ more = joined (names ++ [last ++ more]) := by
  by_cases hnil : names = []
  · simp [hnil]
  · rw [Path.joined_append hnil (by simp), Path.joined_append hnil (by simp), Path.joined_singleton,
      Path.joined_singleton, String.append_assoc]

section

variable {tree : FileTree} {path : Path} {module : String}

/-- A package file is named after its package, which leads to it. -/
theorem place_of_packageFile (hmodule : (ModuleName.ofPath tree path).module = some module)
    (hname : path.name = "__init__.py") :
    module = String.intercalate "." (packageNames tree path) ∧
      (packageRoot tree path).below
        (joined (Text.parts '.' module) ++ "/" ++ "__init__.py") = path := by
  obtain ⟨hne, hwords, hjoined⟩ := module_eq_some_iff.mp hmodule
  have hstem : stemOf path.name = "__init__" := by
    rw [hname]
    decide
  have hpath : path.parent ≠ path := Path.parent_ne_self (by rw [hname]; decide)
  rw [parts_of_module hmodule]
  unfold moduleWords at hne hwords hjoined ⊢
  rw [if_pos hstem] at hne hwords hjoined ⊢
  refine ⟨hjoined, ?_⟩
  rw [← Path.joined_singleton "__init__.py", ← Path.joined_append hne (by simp)]
  refine below_packageRoot hpath ?_ (by rw [hname])
  exact named_append (fun word hword => isName_of_isIdentifier (hwords word hword)) (by decide)

/-- Any other module is named after its file as well, and the names lead to the file up to the
extension. -/
theorem place_of_stem (hmodule : (ModuleName.ofPath tree path).module = some module)
    (hextension : Text.endsWith path.name ".py" = true) (hname : path.name ≠ "__init__.py") :
    module = String.intercalate "." (packageNames tree path ++ [stemOf path.name]) ∧
      (packageRoot tree path).below (joined (Text.parts '.' module) ++ ".py") = path := by
  obtain ⟨-, hwords, hjoined⟩ := module_eq_some_iff.mp hmodule
  have hpath : path.parent ≠ path := by
    refine Path.parent_ne_self fun hempty => ?_
    rw [hempty] at hextension
    cases hextension
  rw [parts_of_module hmodule]
  rcases eq_stemOf_append hextension with hbare | ⟨-, hstem⟩
  · -- the extension alone is no identifier
    unfold moduleWords at hwords
    rw [hbare, if_neg (by decide)] at hwords
    have hforeign : Text.isIdentifier (stemOf ".py") = false := by decide
    rw [hwords _ (by simp)] at hforeign
    cases hforeign
  · have hother : stemOf path.name ≠ "__init__" := by
      intro hinit
      rw [hinit] at hstem
      exact hname hstem
    unfold moduleWords at hwords hjoined ⊢
    rw [if_neg hother] at hwords hjoined ⊢
    refine ⟨hjoined, ?_⟩
    rw [joined_concat_append, ← hstem]
    refine below_packageRoot hpath ?_ rfl
    refine named_append (fun word hword => ?_) ?_
    · exact isName_of_isIdentifier (hwords word (List.mem_append_left _ hword))
    · rw [hstem]
      exact isName_append_extension (isName_of_isIdentifier (hwords _ (by simp)))

end

namespace ModuleName

/-- The import root of a module is the nearest directory above it that has no package file, or the
start of its path if there is none, and its namespace joins the names of the directories from there
down to its own. A module has no name exactly if there are no words for it or if one of them is no
identifier. If it has one, the parts of its name are identifiers. They lead from the import root to
the file, as the namespace and the stem of the file, or to the package file that they name. -/
theorem ofPath_leads_back (tree : FileTree) (path : Path)
    (hextension : Text.endsWith path.name ".py" = true) :
    ∃ packages,
      (∀ root others, IsImportRoot tree path.parent root others ↔
        root = (ofPath tree path).importRoot ∧ others = packages) ∧
      (ofPath tree path).namespace = String.intercalate "." packages ∧
      ((ofPath tree path).module = none ↔
        moduleWords tree path = [] ∨
          ∃ word ∈ moduleWords tree path, Text.isIdentifier word = false) ∧
      ∀ module, (ofPath tree path).module = some module →
        (∀ part ∈ Text.parts '.' module, Text.isIdentifier part = true) ∧
        (path.name = "__init__.py" → module = (ofPath tree path).namespace ∧
          (ofPath tree path).importRoot.below
            (joined (Text.parts '.' module) ++ "/" ++ "__init__.py") = path) ∧
        (path.name ≠ "__init__.py" →
          module = String.intercalate "." (packages ++ [stemOf path.name]) ∧
            (ofPath tree path).importRoot.below (joined (Text.parts '.' module) ++ ".py") =
              path) := by
  have hroot := isImportRoot_packageRoot tree path
  refine ⟨packageNames tree path, ?_, rfl, module_eq_none_iff, ?_⟩
  · intro root others
    constructor
    · exact fun h => h.unique hroot
    · rintro ⟨rfl, rfl⟩
      exact hroot
  · intro module hmodule
    refine ⟨?_, place_of_packageFile hmodule, place_of_stem hmodule hextension⟩
    rw [parts_of_module hmodule]
    exact (module_eq_some_iff.mp hmodule).2.1

/-- A package in a package, with a module next to the inner package file. -/
def nestedPackages : FileTree :=
  ⟨[(["p", "a", "__init__.py"], .file []), (["p", "a", "b", "__init__.py"], .file []),
    (["p", "a", "b", "m.py"], .file []), (["p", "a", "b"], .folder), (["p", "a"], .folder),
    (["p"], .folder)]⟩

/-- The name of the module leads back to it from above the outer package. -/
theorem ofPath_leads_back_nested :
    Text.endsWith (Path.name ⟨.root, ["p", "a", "b", "m.py"]⟩) ".py" = true ∧
      (ofPath nestedPackages ⟨.root, ["p", "a", "b", "m.py"]⟩).namespace = "a.b" ∧
      IsImportRoot nestedPackages ⟨.root, ["p", "a", "b"]⟩ ⟨.root, ["p"]⟩ ["a", "b"] ∧
      ∃ module, (ofPath nestedPackages ⟨.root, ["p", "a", "b", "m.py"]⟩).module = some module ∧
        (∀ part ∈ Text.parts '.' module, Text.isIdentifier part = true) ∧
        (⟨.root, ["p"]⟩ : Path).below (joined (Text.parts '.' module) ++ ".py") =
          ⟨.root, ["p", "a", "b", "m.py"]⟩ := by
  have hextension : Text.endsWith (Path.name ⟨.root, ["p", "a", "b", "m.py"]⟩) ".py" = true := by
    decide
  have hname : ofPath nestedPackages ⟨.root, ["p", "a", "b", "m.py"]⟩ =
      ⟨some "a.b.m", "a.b", ⟨.root, ["p"]⟩⟩ := by decide +kernel
  obtain ⟨packages, hroot, hnamespace, -, hmodule⟩ := ofPath_leads_back nestedPackages _ hextension
  rw [hname] at hroot hnamespace hmodule
  obtain ⟨hparts, -, hplace⟩ := hmodule "a.b.m" rfl
  obtain ⟨-, hback⟩ := hplace (by decide)
  -- the packages are the parts of the namespace
  have hpackages : packages = ["a", "b"] := by
    have hnames : ["p"] ++ ["a", "b"] = ["p"] ++ packages :=
      congrArg Path.names ((hroot ⟨.root, ["p"]⟩ packages).mpr ⟨rfl, rfl⟩).leads
    exact (List.append_cancel_left hnames).symm
  subst hpackages
  rw [hname]
  exact ⟨hextension, rfl, (hroot _ _).mpr ⟨rfl, rfl⟩, "a.b.m", rfl, hparts, hback⟩

end ModuleName

end SpanWeave
