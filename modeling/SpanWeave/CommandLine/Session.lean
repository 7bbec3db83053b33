import SpanWeave.CommandLine.Reading
import SpanWeave.Pass.Generation

/-!
# Running commands

A command line is read, its log is set up, and its task is run over a tree. What is seen of it is
what it prints, what it reports, how it ends and the tree that it leaves. Several commands may run
one after another; the first that does not simply finish is the last.
-/

set_option autoImplicit false

namespace SpanWeave

/-- What a command finds around it. -/
structure Surroundings where
  /-- The current directory, an absolute path without `..`. -/
  directory : Path
  currentYear : Int
  /-- The time as it stands before each record in a log file. -/
  stamp : String

/-- How a command ends. -/
inductive Ending where
  | finished
  /-- It ends the program with a status. -/
  | exit (status : Nat)
  /-- It breaks off with an error that it does not deal with. -/
  | broken (e : PassError)
deriving DecidableEq, Repr

/-- What is seen of a command. -/
structure CommandResult where
  tree : FileTree
  printed : String := ""
  reported : String := ""
  ending : Ending := .finished

/-- What a task prints, what it reports at the end, and how it ends. -/
structure TaskResult where
  tree : FileTree
  log : List Record
  printed : String := ""
  reported : String := ""
  ending : Ending := .finished

namespace PassError

/-- The fault of the file system behind an error, if there is one. -/
def fileFault? : PassError → Option FileFault
  | settings (.file e) | scan (.file e) | file e => some e.fault
  | scan (.missing _) => some .missing
  | scan (.notFolder _) => some .notFolder
  | _ => none

/-- What is reported of an error that a command deals with. -/
def report? (e : PassError) : Option String :=
  match e with
  | settings s =>
    if s.isInvalid then some ("instrumentgen: invalid configuration: " ++ s.message ++ "\n")
    else faultReport?
  | _ => faultReport?
where
  /-- What is reported if a path is missing or leads through something that is no folder. -/
  faultReport? : Option String :=
    match e.fileFault? with
    | some .missing | some .notFolder => some (e.message ++ "\n")
    | _ => none

end PassError

namespace TaskResult

/-- The result of a task that came to nothing. -/
def ofError (tree : FileTree) (log : List Record) (e : PassError) : TaskResult :=
  match e.report? with
  | some report => { tree, log, reported := report, ending := .exit 1 }
  | none => { tree, log, ending := .broken e }

/-- A path as seen from the current directory, if it lies below. -/
def nearText (directory p : Path) : String :=
  match p.relativeTo? directory with
  | some names => (Path.mk .here names).text
  | none => p.text

/-- What is printed of a pass. -/
def printedOf (directory : Path) (rehearsal : Bool) (r : PassResult) : String :=
  let lines :=
    if rehearsal then
      r.wrappers.map fun w => "# --- " ++ w.fileName ++ " ---\n" ++ w.text ++ "\n"
    else r.written.map fun p => "Generated " ++ nearText directory p ++ "\n"
  String.join lines ++ (if r.wrappers.isEmpty then "No wrappers generated\n" else "")

/-- What is reported of a pass with errors among its findings. -/
def failureReport : String :=
  "instrumentgen generate failed for one or more classes.\n" ++
    "Run with --verbose for more details.\n"

/-- Runs a pass. -/
def ofPass (s : Surroundings) (tree : FileTree) (path : String) (output : Option String)
    (rehearsal : Bool) : TaskResult :=
  let resolved (text : String) : Path := Path.resolve s.directory (Path.ofText text)
  let request : PassRequest :=
    { root := resolved path
      output := (output.filter (· != "")).map resolved
      currentYear := s.currentYear
      rehearsal }
  let (final, outcome) := request.run tree
  match outcome.result with
  | .error e => ofError final outcome.log e
  | .ok r =>
    let printed := printedOf s.directory rehearsal r
    if r.failed then
      { tree := final, log := outcome.log, printed, reported := failureReport, ending := .exit 1 }
    else { tree := final, log := outcome.log, printed }

/-- One line of a check. -/
def reportLine (r : CandidateReport) : String :=
  r.candidate.origin.text ++ ": " ++ r.candidate.identity.qualifiedName ++ " [" ++ r.verdict.code
    ++ "]\n"

/-- Runs a check. -/
def ofCheck (s : Surroundings) (tree : FileTree) (path : String) : TaskResult :=
  let survey := Survey.ofTree tree (Path.resolve s.directory (Path.ofText path)) none
  match survey.result with
  | .error e => ofError tree survey.log e
  | .ok found =>
    let reports := found.reports
    { tree
      log := survey.log
      printed :=
        (if reports.isEmpty then "No marked classes found\n" else "") ++
          String.join (reports.map reportLine) }

/-- Runs the task of a command. -/
def ofTask (s : Surroundings) (tree : FileTree) : CommandTask → TaskResult
  | .generate path output dryRun => ofPass s tree path output dryRun
  | .check path => ofCheck s tree path

end TaskResult

namespace Record

/-- A record as the console shows it. -/
def consoleLine (r : Record) : String :=
  "[instrumentgen] " ++ r.level.word ++ " " ++ r.message ++ "\n"

/-- A record as a log file keeps it. -/
def fileLine (stamp : String) (r : Record) : String :=
  stamp ++ " " ++ r.level.word ++ " MainThread " ++ speakerName r.speaker ++ ": " ++ r.message
    ++ "\n"

end Record

namespace Command

/-- The path of a log file; an empty name asks for none. -/
def logPath? (s : Surroundings) (c : Command) : Option Path :=
  (c.logFile.filter (· != "")).map fun text => Path.resolve s.directory (Path.ofText text)

/-- A tree with more text at the end of a file, which need not exist. -/
def appended (tree : FileTree) (path : Path) (text : String) : Except FileError FileTree :=
  let before :=
    match tree.read path with
    | .ok content => content
    | .error _ => []
  tree.write path (before ++ Text.encode text)

/-- Runs a command. The log file is opened before anything else is done. -/
def run (s : Surroundings) (tree : FileTree) (c : Command) : CommandResult :=
  let opened :=
    match c.logPath? s with
    | some path => appended tree path ""
    | none => .ok tree
  match opened with
  | .error e => { tree, ending := .broken (.file e) }
  | .ok tree =>
    let result := TaskResult.ofTask s tree c.task
    let least := if c.verbose then Level.debug else Level.info
    let shown := result.log.filter fun r => r.level.atLeast least
    let logged :=
      match c.logPath? s with
      | some path =>
        (appended result.tree path
          (String.join (result.log.map (Record.fileLine s.stamp)))).toOption
      | none => none
    { tree := logged.getD result.tree
      printed := result.printed
      reported := String.join (shown.map Record.consoleLine) ++ result.reported
      ending := result.ending }

end Command

/-- Runs a command line. -/
def runLine (s : Surroundings) (tree : FileTree) (written : List String) : CommandResult :=
  match Command.ofWords written with
  | .ok command => command.run s tree
  | .error (.help form) => { tree, printed := form.help, ending := .exit 0 }
  | .error (.misuse form m) => { tree, reported := form.complaint m, ending := .exit 2 }

/-- Runs command lines one after another, up to the first that does not simply finish. -/
def runLines (s : Surroundings) (tree : FileTree) : List (List String) → CommandResult
  | [] => { tree }
  | line :: lines =>
    let first := runLine s tree line
    match first.ending with
    | .finished =>
      let rest := runLines s first.tree lines
      { rest with
        printed := first.printed ++ rest.printed
        reported := first.reported ++ rest.reported }
    | _ => first

end SpanWeave
