import SpanWeave.Files.Tree
import SpanWeave.Settings.Basic
import SpanWeave.Text.Utf8
import SpanWeave.Yaml.Document

/-!
# Loading settings

The settings of a project come from a document in its root directory. What the document does not
say, or says with a value of another kind, stays as it is without a document. Entries are read in a
fixed order, and the first one that is not allowed is reported.
-/

set_option autoImplicit false

namespace SpanWeave

/-! ## Entries as texts, numbers and lists -/

namespace Datum

/-- Whether a whole number has too many digits to be written out. -/
def isEndless : Datum → Bool
  | int n => Nat.pow 10 Text.digitLimit ≤ n.natAbs
  | _ => false

/-- What a single value says as a text; a truth value says nothing. -/
def asText? : Datum → Option String
  | text s => some s
  | int n => some (toString n)
  | float x => some x.text
  | _ => none

/-- What a value says as a whole number. A text says the number that it spells. -/
def asWhole? : Datum → Option Int
  | int n => some n
  | text s => Number.whole? s
  | _ => none

/-- Whether an item of a list counts as a text. -/
def isWord : Datum → Bool
  | text _ | int _ | float _ | bool _ => true
  | _ => false

/-- The items of a value that is a sequence. -/
def sequence : Datum → List Datum
  | list items | tuple items => items
  | bytes bs => bs.map fun b => .int b.toNat
  | _ => []

/-- The texts of a value: its own, or those of its items. -/
def asTexts : Datum → List String
  | text s => [s]
  | d => (d.sequence.filter isWord).map display

/-- The entries of a dictionary; other values have none. -/
def entries : Datum → List (Datum × Datum)
  | dict es => es
  | _ => []

end Datum

/-! ## Reading the document -/

/-- Why settings cannot be loaded. -/
inductive SettingsError where
  | file (e : FileError)
  | undecodable (u : Text.Undecodable)
  | unparseable
  /-- A value of the document has the form of its kind but cannot be had. -/
  | impossible (fault : Yaml.Fault)
  /-- A number has too many digits to be written out. -/
  | endless
  | notMapping
  | marker (name : String)
  | workers
  | suffix
  | license
deriving DecidableEq, Repr

namespace SettingsError

/-- Whether the document is read but says something that is not allowed. -/
def isInvalid : SettingsError → Bool
  | unparseable | notMapping | marker _ | workers | suffix | license => true
  | _ => false

/-- The report of settings that cannot be loaded. -/
def message : SettingsError → String
  | file e => e.message
  | undecodable u => u.message
  | unparseable => "Failed to parse " ++ settingsFileName ++ ": the document is not well formed"
  | impossible (.impossible message) | impossible (.tooLarge message)
  | impossible (.unknownWord message) => message
  | impossible .emptyNumber => "string index out of range"
  | impossible .noDate => "'NoneType' object has no attribute 'groupdict'"
  | impossible .malformed => "the document is not well formed"
  | endless =>
    "Exceeds the limit (" ++ toString Text.digitLimit ++ " digits) for integer string conversion; "
      ++ "use sys.set_int_max_str_digits() to increase the limit"
  | notMapping => settingsFileName ++ " must contain a mapping at the root"
  | marker name => "marker must be a plain identifier, got " ++ Text.quoted name
  | workers => "workers must be at least 1"
  | suffix => "output.suffix must end with '.py'"
  | license => "header.license must be one of: apache-2.0, none"

end SettingsError

/-- The value of a document; a blank document is an empty mapping, and so is a value that is not
present. -/
def settingsDatum (text : String) : Except SettingsError Datum :=
  if Text.isBlankText text then .ok (.dict [])
  else
    match Yaml.valueOf text with
    | .ok d => .ok (if d.isPresent then d else .dict [])
    | .error .malformed => .error .unparseable
    | .error fault => .error (.impossible fault)

/-- What an entry says as a text. -/
def entryText (key : String) (entries : List (Datum × Datum)) :
    Except SettingsError (Option String) :=
  match Datum.entryAt? key entries with
  | none => .ok none
  | some d => if d.isEndless then .error .endless else .ok d.asText?

/-- What an entry says as a whole number. -/
def entryWhole? (key : String) (entries : List (Datum × Datum)) : Option Int :=
  (Datum.entryAt? key entries).bind Datum.asWhole?

/-- What an entry says as a list of texts. -/
def entryTexts (key : String) (entries : List (Datum × Datum)) :
    Except SettingsError (List String) :=
  match Datum.entryAt? key entries with
  | none => .ok []
  | some d => if d.sequence.any Datum.isEndless then .error .endless else .ok d.asTexts

/-- The entries of an entry. -/
def section? (key : String) (entries : List (Datum × Datum)) : List (Datum × Datum) :=
  ((Datum.entryAt? key entries).map Datum.entries).getD []

/-- The licence of a name in any case. -/
def License.ofName? (name : String) : Option License :=
  match Text.lowerAscii name with
  | "apache-2.0" => some .apache
  | "none" => some .none
  | _ => Option.none

namespace Settings

/-- The marker that entries settle. -/
def readMarker (entries : List (Datum × Datum)) : Except SettingsError (Option String) := do
  match ← entryText "marker" entries with
  | none => return none
  | some name => if Text.isIdentifier name then return some name else throw (.marker name)

/-- The number of workers that entries settle. -/
def readWorkers (entries : List (Datum × Datum)) : Except SettingsError (Option Int) :=
  match entryWhole? "workers" entries with
  | none => .ok none
  | some n => if n < 1 then .error .workers else .ok (some n)

/-- Where entries let wrappers go, in a project at the root. -/
def readOutput (root : Path) (entries : List (Datum × Datum)) :
    Except SettingsError OutputSettings := do
  let directory ← entryText "directory" entries
  let directory := (directory.filter (· != "")).map root.below
  match ← entryText "suffix" entries with
  | none => return { directory }
  | some suffix =>
    if Text.endsWith suffix ".py" then return { directory, suffix } else throw .suffix

/-- The header that entries settle. -/
def readHeader (entries : List (Datum × Datum)) : Except SettingsError HeaderSettings := do
  let holder ← entryText "copyright_holder" entries
  let year := entryWhole? "year" entries
  match ← entryText "license" entries with
  | none => return { holder, year }
  | some name =>
    match License.ofName? name with
    | some license => return { holder, year, license }
    | none => throw .license

/-- The settings that the entries of a document make for a project at the root. -/
def ofEntries (root : Path) (entries : List (Datum × Datum)) : Except SettingsError Settings := do
  let defaults : Settings := { root }
  let marker ← readMarker entries
  let workers ← readWorkers entries
  let excludePaths ← entryTexts "exclude_paths" entries
  let output ← readOutput root (section? "output" entries)
  let header ← readHeader (section? "header" entries)
  let runtimeModule ← entryText "runtime_module" (section? "tracing" entries)
  return {
    root
    marker := marker.getD defaults.marker
    workers := workers.getD defaults.workers
    excludePaths
    output
    header
    runtimeModule := (runtimeModule.filter (· != "")).getD defaults.runtimeModule }

/-- The settings file that a path stands for: the path itself, or the one in the directory that it
names, or the one next to another file. -/
def fileFor (tree : FileTree) (path : Path) : Path :=
  if tree.holdsFolder path then (path.below settingsFileName).direct
  else if path.name != settingsFileName then (path.parent.below settingsFileName).direct
  else path.direct

/-- The settings of the project that an absolute path stands for. -/
def load (tree : FileTree) (path : Path) : Except SettingsError Settings := do
  let file := fileFor tree path
  let root := file.parent
  if tree.holds file then
    let content ← (tree.read file).mapError .file
    let text ← (Text.decode content).mapError .undecodable
    match ← settingsDatum (String.ofList (Text.foldLineEnds text.toList)) with
    | .dict entries => ofEntries root entries
    | _ => throw .notMapping
  else return { root }

end Settings

end SpanWeave
