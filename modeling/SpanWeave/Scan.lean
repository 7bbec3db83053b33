import SpanWeave.Declaration
import SpanWeave.Files.Tree
import SpanWeave.Ignore.Rule
import SpanWeave.Settings.Basic
import SpanWeave.Text.Identifier
import SpanWeave.Text.Utf8

/-!
# Scanning a source tree

The modules of a tree, folder by folder: the files of a folder come before its folders, and both in
ascending order. Left out are the folders that tools keep for themselves, what the ignore rules say,
the output directory, and the wrappers of earlier passes. A module is named by the packages that
lead to it.
-/

set_option autoImplicit false

namespace SpanWeave

/-- Folders that hold no sources. -/
def toolFolders : List String :=
  [".git", ".hg", ".svn", ".venv", "venv", "node_modules", "__pycache__", ".pytest_cache",
    ".mypy_cache", ".tox", ".nox", ".idea", "build", "dist"]

/-- The extension of modules. -/
def moduleExtension : String := ".py"

/-- The file that makes a folder a package. -/
def packageFile : String := "__init__.py"

/-- How a file is imported: by what name, in what namespace, and from what directory on. -/
structure ModuleName where
  module : Option String
  «namespace» : String
  importRoot : Path
deriving DecidableEq, Repr

/-- The packages from the outermost one down to a directory, and the directory above them; `depth`
bounds their number. -/
def packagesTo (tree : FileTree) : Nat → Path → List String → List String × Path
  | 0, directory, inner => (inner, directory)
  | depth + 1, directory, inner =>
    if tree.holds (directory.below packageFile) && directory.parent != directory then
      packagesTo tree depth directory.parent (directory.name :: inner)
    else (inner, directory)

/-- The name of a module, if all its parts are identifiers; a package file stands for its package.
-/
def ModuleName.ofPath (tree : FileTree) (path : Path) : ModuleName :=
  let (packages, importRoot) := packagesTo tree path.names.length path.parent []
  let stem := stemOf path.name
  let parts := if stem = "__init__" then packages else packages ++ [stem]
  let named := !parts.isEmpty && parts.all Text.isIdentifier
  { module := if named then some (String.intercalate "." parts) else none
    «namespace» := String.intercalate "." packages
    importRoot }

/-- Why a tree cannot be scanned. -/
inductive ScanError where
  | missing (root : String)
  | notFolder (root : String)
  | file (e : FileError)
  | undecodable (u : Text.Undecodable)
deriving DecidableEq, Repr

/-- The report of a failed scan. -/
def ScanError.message : ScanError → String
  | .missing root => "Source path not found: " ++ root
  | .notFolder root => "Source path is not a directory: " ++ root
  | .file e => e.message
  | .undecodable u => u.message

/-- A path below another one, as text. -/
def childPath (folder name : String) : String := if folder = "" then name else folder ++ "/" ++ name

/-- The files of a folder and of the folders in it that the rules leave in, by their paths from the
root; `depth` bounds how deep folders nest. -/
def filesBelow (tree : FileTree) (rules : List IgnoreRule) :
    Nat → Place → String → List String
  | 0, _, _ => []
  | depth + 1, place, folder =>
    let names := tree.namesIn place
    let isFolder (name : String) : Bool := tree.entryAt? (place ++ [name]) == some .folder
    let here :=
      (names.filter fun name =>
        !isFolder name && !IgnoreRule.ignores rules (childPath folder name) false).map
        (childPath folder)
    let kept := names.filter fun name =>
      isFolder name && !toolFolders.contains name &&
        !IgnoreRule.ignores rules (childPath folder name) true
    here ++ kept.flatMap fun name =>
      filesBelow tree rules depth (place ++ [name]) (childPath folder name)

/-- A path as seen from the root: empty for the root, and in full for what lies outside. -/
def relativeText (path root : Path) : String :=
  match path.relativeTo? root with
  | some names => String.intercalate "/" names
  | none => path.text

/-- The rules in the ignore file of a tree; there need not be one. -/
def ignoreFileRules (tree : FileTree) (root : Path) : Except ScanError (List IgnoreRule) :=
  let path := root.below ".gitignore"
  if tree.holds path then
    match tree.read path with
    | .error e => .error (.file e)
    | .ok content =>
      match Text.decode content with
      | .error u => .error (.undecodable u)
      | .ok text => .ok (IgnoreRule.ofFileText text)
  else .ok []

/-- The rule that leaves an output directory out, if it lies below the root. Both are absolute paths,
as those of loaded settings are; a relative directory would count from the root. -/
def outputRule? (root : Path) (directory : Option Path) : Option IgnoreRule := do
  let names ← (Path.resolve root (← directory)).relativeTo? root
  if names.isEmpty then none
  IgnoreRule.ofPattern? ("/" ++ String.intercalate "/" names ++ "/") false

/-- The rules that hold for a tree: its ignore file, then the excluded paths, then the output. -/
def scanRules (tree : FileTree) (root : Path) (excludePaths : List String) (output : Option Path) :
    Except ScanError (List IgnoreRule) := do
  let fromFile ← ignoreFileRules tree root
  return fromFile ++ IgnoreRule.ofPatterns excludePaths ++ (outputRule? root output).toList

/-- Whether a file is a module that is not the wrapper of an earlier pass. -/
def isSourceModule (suffix name : String) : Bool :=
  extensionOf name == moduleExtension && !(suffix != "" && Text.endsWith name suffix)

/-- The module at a path below the root. -/
def SourceFile.ofPath (tree : FileTree) (root : Path) (relative : String) : SourceFile :=
  let name := ModuleName.ofPath tree (root.below relative)
  { path := relative
    module := name.module
    «namespace» := name.namespace
    importRoot := relativeText name.importRoot root }

/-- Scans the tree below a root, which was asked for as `asked`. The root and the output directory are
absolute paths. -/
def scanTree (tree : FileTree) (root : Path) (asked : String) (excludePaths : List String)
    (output : Option Path) (suffix : String) : Except ScanError Manifest :=
  match tree.at? root with
  | none => .error (.missing asked)
  | some (.file _) => .error (.notFolder asked)
  | some .folder => do
    let rules ← scanRules tree root excludePaths output
    let found := filesBelow tree rules (tree.entries.length + 1) root.names ""
    let modules := found.filter fun path => isSourceModule suffix (Path.ofText path).name
    return ⟨root.text, modules.map (SourceFile.ofPath tree root)⟩

end SpanWeave
