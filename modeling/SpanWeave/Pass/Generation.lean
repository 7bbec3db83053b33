import SpanWeave.Pass.Placement
import SpanWeave.Pass.Pool
import SpanWeave.Pass.Survey

/-!
# Generation passes

A pass surveys a tree, keeps one declaration for each type, assembles the wrappers, decides where
they go, and writes them. All but the writing is the plan of the pass, which changes nothing; a
rehearsal ends with the plan.
-/

set_option autoImplicit false

namespace SpanWeave

/-- What a pass is asked to do. -/
structure PassRequest where
  /-- The root of the tree, an absolute path without `..`. -/
  root : Path
  /-- The output directory, an absolute path without `..`, instead of that of the settings. -/
  output : Option Path := none
  /-- The assembler, instead of the one that the settings make. -/
  assembler : Option Assembler := none
  /-- What the names of wrappers end with, so that they are not scanned, instead of the settings'
  own. -/
  scanSuffix : Option String := none
  currentYear : Int
  signal : StopSignal := {}
  /-- The order in which workers take up so many tasks. -/
  order : Nat → List Nat := List.range
  /-- Each task is taken up once. -/
  order_complete : ∀ count, (order count).Perm (List.range count) := by exact Pool.range_complete
  /-- Whether nothing is to be written. -/
  rehearsal : Bool := false

/-- What came of one declaration. -/
inductive Outcome where
  | wrapper (w : WrapperModule)
  | finding (f : Finding)
deriving DecidableEq, Repr

namespace Outcome

/-- The wrapper, if one was made. -/
def wrapper? : Outcome → Option WrapperModule
  | wrapper w => some w
  | finding _ => none

/-- The finding, if no wrapper was made. -/
def finding? : Outcome → Option Finding
  | wrapper _ => none
  | finding f => some f

/-- What comes of a declaration. -/
def ofCandidate {ε : Type} (index : SourceIndex) (assembler : Assembler) (c : Candidate) :
    Traced ε Outcome := do
  match ← (assembler.assemble (index.resolve c)).settle with
  | .error e => return .finding ⟨.failed c.identity e, e.origin?.getD c.origin⟩
  | .ok (_, some w) => return .wrapper w
  | .ok (verdict, none) => return .finding ⟨.passedOver c.identity verdict, c.origin⟩

end Outcome

/-- What a pass writes and what it reports. -/
structure PassPlan where
  placed : List PlacedWrapper
  findings : List Finding
deriving DecidableEq, Repr

/-- What came of a pass. -/
structure PassResult where
  wrappers : List WrapperModule
  findings : List Finding
  written : List Path
deriving DecidableEq, Repr

/-- Whether one of the findings is an error. -/
def PassResult.failed (r : PassResult) : Bool := r.findings.any fun f => f.cause.severity == .error

namespace PassRequest

/-- The assembler that settings make. -/
def assemblerFor (r : PassRequest) (settings : Settings) : Assembler :=
  r.assembler.getD
    { header := settings.header
      runtimeModule := settings.runtimeModule
      suffix := settings.output.suffix
      currentYear := r.currentYear }

/-- Where the wrappers go under some settings. -/
def destination (r : PassRequest) (settings : Settings) : Destination :=
  ⟨r.root, r.output.or settings.output.directory⟩

/-- The wrappers in the order of their file names. -/
def sortWrappers (wrappers : List WrapperModule) : List WrapperModule :=
  wrappers.mergeSort fun a b => decide (a.fileName ≤ b.fileName)

/-- What is written and what is reported of a surveyed tree. -/
def planFor (r : PassRequest) (survey : Survey) : Traced PassError PassPlan := do
  let selection := Selection.ofCandidates survey.index survey.index.candidates
  Traced.note .debug passSpeaker ("Found " ++ toString selection.kept.length ++ " candidates")
  let work := Outcome.ofCandidate survey.index (r.assemblerFor survey.settings)
  match ← Pool.runAll r.signal survey.settings.workers r.order work selection.kept with
  | none => Traced.fail .cancelled
  | some outcomes =>
    let placement := Placement.ofWrappers (r.destination survey.settings)
      (sortWrappers (outcomes.filterMap Outcome.wrapper?))
    return {
      placed := placement.placed
      findings :=
        selection.findings ++ outcomes.filterMap Outcome.finding? ++ placement.findings }

/-- The level at which a finding is logged. -/
def levelOf : Severity → Level
  | .info => .info
  | .warning => .warning
  | .error => .error

/-- Logs findings in order. -/
def noteFindings {ε : Type} : List Finding → Traced ε Unit
  | [] => return
  | f :: rest => do
    Traced.note (levelOf f.cause.severity) passSpeaker f.diagnostic.text
    noteFindings rest

/-- What a pass over a tree under the given settings writes and reports. -/
def planUnder (r : PassRequest) (tree : FileTree) (settings : Settings) :
    Traced PassError PassPlan := do
  let survey ← Survey.underSettings tree r.root r.scanSuffix settings
  let plan ← r.planFor survey
  noteFindings plan.findings
  return plan

/-- What a pass over a tree writes and reports. -/
def plan (r : PassRequest) (tree : FileTree) : Traced PassError PassPlan := do
  Traced.note .info passSpeaker ("Starting generation pass for " ++ r.root.text)
  r.planUnder tree (← Survey.settingsOf tree r.root)

/-- Writes one wrapper and makes the folders that its file needs. -/
def writeOne (tree : FileTree) (p : PlacedWrapper) : Except FileError FileTree := do
  let grown ← tree.ensureFolders p.target.parent
  grown.write p.target (Text.encode p.wrapper.text)

/-- Writes wrappers in order up to the first that cannot be written. Gives the tree as it then is.
-/
def writeAll (tree : FileTree) : List PlacedWrapper → FileTree × Traced PassError Unit
  | [] => (tree, return)
  | p :: rest =>
    match writeOne tree p with
    | .error e =>
      let folders := (tree.ensureFolders p.target.parent).toOption.getD tree
      (folders, Traced.fail (.file e))
    | .ok grown =>
      let (final, written) := writeAll grown rest
      (final, do
        Traced.note .debug passSpeaker ("Wrote " ++ p.target.text)
        written)

/-- Carries out a planned pass. -/
def carryOut (r : PassRequest) (tree : FileTree) (plan : PassPlan) :
    FileTree × Traced PassError PassResult :=
  let wrappers := plan.placed.map PlacedWrapper.wrapper
  if r.rehearsal then
    (tree, do
      Traced.note .info passSpeaker
        ("Dry run: " ++ toString wrappers.length ++ " artifacts not written")
      return ⟨wrappers, plan.findings, []⟩)
  else
    let (final, written) := writeAll tree plan.placed
    (final, do
      written
      Traced.note .info passSpeaker ("Wrote " ++ toString wrappers.length ++ " wrapper modules")
      return ⟨wrappers, plan.findings, plan.placed.map PlacedWrapper.target⟩)

/-- Carries out a pass if there is a plan for it. Gives the tree as the pass leaves it, and what
came of the pass. -/
def conclude (r : PassRequest) (tree : FileTree) (planned : Traced PassError PassPlan) :
    FileTree × Traced PassError PassResult :=
  match planned.result with
  | .error e => (tree, ⟨planned.log, .error e⟩)
  | .ok plan =>
    let (final, outcome) := r.carryOut tree plan
    (final, ⟨planned.log ++ outcome.log, outcome.result⟩)

/-- Runs a pass over a tree under the given settings. -/
def runUnder (r : PassRequest) (tree : FileTree) (settings : Settings) :
    FileTree × Traced PassError PassResult :=
  r.conclude tree (r.planUnder tree settings)

/-- Runs a pass over a tree under the settings of its project. -/
def run (r : PassRequest) (tree : FileTree) : FileTree × Traced PassError PassResult :=
  r.conclude tree (r.plan tree)

end PassRequest

end SpanWeave
