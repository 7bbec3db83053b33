import SpanWeave.Pass.Selection
import SpanWeave.Scan
import SpanWeave.Settings.Loading

/-!
# Surveying a source tree

The settings of a project and the index of its modules. Modules that cannot be read are left out of
the index. A check of a tree is its survey with a verdict on every marked declaration.
-/

set_option autoImplicit false

namespace SpanWeave

/-- Why a pass over a tree came to nothing. -/
inductive PassError where
  | settings (e : SettingsError)
  | scan (e : ScanError)
  | file (e : FileError)
  | cancelled
deriving DecidableEq, Repr

/-- The report of a pass that came to nothing. -/
def PassError.message : PassError → String
  | settings e => e.message
  | scan e => e.message
  | file e => e.message
  | cancelled => GenerationError.cancelled.message

/-- The speaker of the records about a pass. -/
def passSpeaker : String := "orchestrator"

namespace SourceIndex

/-- Adds the module at a path below a directory, unless it cannot be read. -/
def addFile {ε : Type} (tree : FileTree) (root : Path) (index : SourceIndex) (file : SourceFile) :
    Traced ε SourceIndex :=
  match tree.read (root.below file.path) with
  | .ok content => do
    let (grown, _) ← index.addSource file content
    return grown
  | .error e => do
    Traced.note .warning speaker
      ("Skipping unreadable module " ++ file.path ++ ": " ++ e.message)
    return index

/-- The index of the modules that a manifest lists. -/
def ofManifest {ε : Type} (tree : FileTree) (marker : String) (manifest : Manifest) :
    Traced ε SourceIndex :=
  manifest.files.foldlM (addFile tree (Path.ofText manifest.root)) { marker }

end SourceIndex

/-- The settings of a project and the index of its modules. -/
structure Survey where
  settings : Settings
  index : SourceIndex

/-- The verdict on a marked declaration, as a check reports it. -/
structure CandidateReport where
  candidate : Candidate
  verdict : Verdict
deriving DecidableEq, Repr

namespace Survey

/-- The settings of the project at a root. -/
def settingsOf (tree : FileTree) (root : Path) : Traced PassError Settings := do
  let settings ← Traced.ofExcept ((Settings.load tree root).mapError .settings)
  let file := root.below settingsFileName
  if tree.holds file then Traced.note .debug passSpeaker ("Loaded " ++ file.text)
  return settings

/-- Surveys the tree at a root under the given settings. Files that end with the suffix are not
modules; without one, the suffix of the settings counts. -/
def underSettings (tree : FileTree) (root : Path) (suffix : Option String) (settings : Settings) :
    Traced PassError Survey := do
  let manifest ← Traced.ofExcept <|
    (scanTree tree root root.text settings.excludePaths settings.output.directory
      (suffix.getD settings.output.suffix)).mapError .scan
  Traced.note .debug passSpeaker
    ("Scanner discovered " ++ toString manifest.files.length ++ " modules")
  let index ← SourceIndex.ofManifest tree settings.marker manifest
  return { settings, index }

/-- Surveys the tree at a root under the settings of its project. -/
def ofTree (tree : FileTree) (root : Path) (suffix : Option String) : Traced PassError Survey := do
  underSettings tree root suffix (← settingsOf tree root)

/-- A verdict on every marked declaration. -/
def reports (s : Survey) : List CandidateReport :=
  s.index.candidates.map fun c => ⟨c, s.index.verdict c⟩

end Survey

end SpanWeave
