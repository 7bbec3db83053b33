import SpanWeave.CommandLine.Session
import Std.Time.Format

/-!
# The program

Reads the part of the file system that a command line can see, runs the command on it, and carries
its effects out: the files that it leaves, what it prints, what it reports and its status.
-/

set_option autoImplicit false

namespace SpanWeave.Program

/-- The text of a place. -/
def placeText (place : Place) : String := "/" ++ String.intercalate "/" place

/-- What stands at a place of the file system; what cannot be read counts as empty. -/
def look (place : Place) : IO (Option Entry) := do
  let path := (← IO.currentDir) / placeText place
  if ← path.isDir then return some .folder
  else if ← path.pathExists then
    try
      let content ← IO.FS.readBinFile path
      return some (.file content.toList)
    catch _ => return some (.file [])
  else return none

/-- Takes up what stands at a place. -/
def takeUp (tree : FileTree) (place : Place) : IO FileTree := do
  if place.isEmpty || (tree.entryAt? place).isSome then return tree
  match ← look place with
  | some entry => return tree.set place entry
  | none => return tree

/-- Takes up the folders on the way to a path, with what makes them packages and settles them. -/
def takeUpWay (tree : FileTree) (path : Path) : IO FileTree := do
  let mut tree := tree
  for k in List.range (path.names.length + 1) do
    let place := path.names.take k
    tree ← takeUp tree place
    if tree.entryAt? place == some .folder then
      for name in [packageFile, settingsFileName] do
        tree ← takeUp tree (place ++ [name])
  return tree

/-- Takes up all that stands in a folder. The folders that tools keep for themselves are not
entered. -/
partial def takeUpBelow (tree : FileTree) (place : Place) : IO FileTree := do
  let mut tree ← takeUp tree place
  if tree.entryAt? place == some .folder then
    let path := (← IO.currentDir) / placeText place
    for item in ← path.readDir do
      let inner := place ++ [item.fileName]
      if toolFolders.contains item.fileName then tree ← takeUp tree inner
      else tree ← takeUpBelow tree inner
  return tree

/-- Takes up a directory that wrappers go to. -/
def takeUpTarget (tree : FileTree) (path : Path) : IO FileTree := do
  takeUpBelow (← takeUpWay tree path) path.names

/-- Takes up all that a command can see. -/
def surveyed (s : Surroundings) (c : Command) : IO FileTree := do
  let resolved (text : String) : Path := Path.resolve s.directory (Path.ofText text)
  let (path, output) :=
    match c.task with
    | .generate path output _ => (path, output)
    | .check path => (path, none)
  let root := resolved path
  let mut tree ← takeUpBelow (← takeUpWay {} root) root.names
  if let some text := output then tree ← takeUpTarget tree (resolved text)
  if let .ok settings := Settings.load tree root then
    if let some directory := settings.output.directory then
      tree ← takeUpTarget tree directory.direct
  if let some log := c.logPath? s then tree ← takeUpWay tree log
  return tree

/-- Carries over to the file system what a command changed. -/
def carryOver (before after : FileTree) : IO Unit := do
  let here ← IO.currentDir
  for (place, entry) in after.entries do
    if entry == .folder && (before.entryAt? place).isNone then
      IO.FS.createDirAll (here / placeText place)
  for (place, entry) in after.entries do
    if let .file content := entry then
      if before.entryAt? place != some entry then
        IO.FS.writeBinFile (here / placeText place) ⟨content.toArray⟩

/-- The current directory, year and time. -/
def surroundings : IO Surroundings := do
  let directory := (Path.ofText (← IO.currentDir).toString).direct
  let now ← Std.Time.PlainDateTime.now
  return { directory, currentYear := now.year, stamp := now.format "uuuu-MM-dd HH:mm:ss,SSS" }

/-- Shows what came of a command, and gives its status. -/
def finish (r : CommandResult) : IO UInt32 := do
  IO.print r.printed
  IO.eprint r.reported
  match r.ending with
  | .finished => return 0
  | .exit status => return UInt32.ofNat status
  | .broken e =>
    IO.eprintln e.message
    return 1

end SpanWeave.Program

/-- Runs the program. -/
def main (words : List String) : IO UInt32 := do
  let s ← SpanWeave.Program.surroundings
  let before ←
    match SpanWeave.Command.ofWords words with
    | .ok command => SpanWeave.Program.surveyed s command
    | .error _ => pure {}
  let result := SpanWeave.runLine s before words
  SpanWeave.Program.carryOver before result.tree
  SpanWeave.Program.finish result
