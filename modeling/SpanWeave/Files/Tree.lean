import SpanWeave.Files.Path
import SpanWeave.Text.Quoted

/-!
# File trees

A file tree maps places to folders and files. A place is the list of names that leads to it from the
root, which is always a folder. `FileTree.entryAt?` is the view: every operation is described by
what it does to the entries. A path reaches a place only through folders, also when a `..` follows.
-/

set_option autoImplicit false

namespace SpanWeave

/-- A place in a file tree. -/
abbrev Place := List String

/-- What stands at a place. -/
inductive Entry where
  | folder
  | file (content : List UInt8)
deriving DecidableEq, Repr

/-- A file tree. -/
structure FileTree where
  entries : List (Place × Entry) := []
deriving Repr

/-- Why an operation on files was refused. -/
inductive FileFault where
  | missing
  | exists
  | notFolder
  | isFolder
deriving DecidableEq, Repr

/-- A refused operation and the path it was asked for. -/
structure FileError where
  fault : FileFault
  path : Path
deriving DecidableEq, Repr

/-- The number and the words of a fault. -/
def FileFault.words : FileFault → String
  | .missing => "[Errno 2] No such file or directory"
  | .exists => "[Errno 17] File exists"
  | .notFolder => "[Errno 20] Not a directory"
  | .isFolder => "[Errno 21] Is a directory"

/-- The report of a refused operation. -/
def FileError.message (e : FileError) : String := e.fault.words ++ ": " ++ Text.quoted e.path.text

namespace FileTree

/-- What stands at a place, if anything does. -/
def entryAt? (t : FileTree) (p : Place) : Option Entry :=
  if p.isEmpty then some .folder else (t.entries.find? fun e => e.1 == p).map (·.2)

/-- The tree with something else at a place. -/
def set (t : FileTree) (p : Place) (e : Entry) : FileTree :=
  ⟨(p, e) :: t.entries.filter fun old => old.1 != p⟩

/-- The tree without a place and all below it. -/
def erase (t : FileTree) (p : Place) : FileTree :=
  ⟨t.entries.filter fun old => !p.isPrefixOf old.1⟩

/-- The names in a folder, in ascending order. -/
def namesIn (t : FileTree) (p : Place) : List String :=
  let names := t.entries.filterMap fun e =>
    if e.1.dropLast == p && !e.1.isEmpty then e.1.getLast? else none
  names.mergeSort fun a b => decide (a ≤ b)

/-- Follows names from a place; every place on the way has to be a folder. -/
def follow (t : FileTree) (here : Place) : List String → Except FileFault Place
  | [] => .ok here
  | name :: rest =>
    match t.entryAt? here with
    | some .folder => follow t (if name = ".." then here.dropLast else here ++ [name]) rest
    | some (.file _) => .error .notFolder
    | none => .error .missing

/-- The place that an absolute path names. -/
def locate (t : FileTree) (p : Path) : Except FileError Place :=
  match follow t [] p.names with
  | .ok place => .ok place
  | .error fault => .error ⟨fault, p⟩

/-- What a path leads to, if it leads to anything. -/
def at? (t : FileTree) (p : Path) : Option Entry :=
  match t.locate p with
  | .ok place => t.entryAt? place
  | .error _ => none

/-- Whether something stands at a path. -/
def holds (t : FileTree) (p : Path) : Bool := (t.at? p).isSome

/-- Whether a folder stands at a path. -/
def holdsFolder (t : FileTree) (p : Path) : Bool := t.at? p == some .folder

/-- The content of the file at a path. -/
def read (t : FileTree) (p : Path) : Except FileError (List UInt8) := do
  match t.entryAt? (← t.locate p) with
  | some (.file content) => .ok content
  | some .folder => .error ⟨.isFolder, p⟩
  | none => .error ⟨.missing, p⟩

/-- Puts a file at a path; its folder has to exist. -/
def write (t : FileTree) (p : Path) (content : List UInt8) : Except FileError FileTree := do
  let place ← t.locate p
  match t.entryAt? place with
  | some .folder => .error ⟨.isFolder, p⟩
  | _ => .ok (t.set place (.file content))

/-- Makes one folder at a path where nothing stands; the folder above has to exist. -/
def makeFolder (t : FileTree) (p : Path) : Except FileError FileTree := do
  let place ← t.locate p
  match t.entryAt? place with
  | some _ => .error ⟨.exists, p⟩
  | none => .ok (t.set place .folder)

/-- Makes one folder at a path unless it is there already. -/
def ensureFolder (t : FileTree) (p : Path) : Except FileError FileTree :=
  match t.makeFolder p with
  | .ok made => .ok made
  | .error e => if e.fault != .missing && t.holdsFolder p then .ok t else .error e

/-- Makes a folder and the ones above it; `depth` bounds how many of them may be missing. -/
def ensureFoldersUpTo (t : FileTree) (p : Path) : Nat → Except FileError FileTree
  | 0 => t.ensureFolder p
  | depth + 1 =>
    match t.makeFolder p with
    | .ok made => .ok made
    | .error e =>
      if e.fault = .missing then do
        let above ← ensureFoldersUpTo t p.parent depth
        above.ensureFolder p
      else if t.holdsFolder p then .ok t
      else .error e

/-- Makes a folder and every missing one above it. -/
def ensureFolders (t : FileTree) (p : Path) : Except FileError FileTree :=
  ensureFoldersUpTo t p p.names.length

/-- All places with files, in the order of their written paths. -/
def files (t : FileTree) : List (Place × List UInt8) :=
  let found := t.entries.filterMap fun
    | (p, .file content) => some (p, content)
    | _ => none
  found.mergeSort fun a b => decide (String.intercalate "/" a.1 ≤ String.intercalate "/" b.1)

/-- Puts something at a place and makes the folders above it. -/
def plant (t : FileTree) (p : Place) (e : Entry) : FileTree :=
  let above := (List.range p.length).map p.take
  let grown := above.foldl (fun t q => if (t.entryAt? q).isSome then t else t.set q .folder) t
  grown.set p e

end FileTree

end SpanWeave
