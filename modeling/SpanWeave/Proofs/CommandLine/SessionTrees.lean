import SpanWeave.CommandLine.Session
import SpanWeave.Proofs.Files.Upkeep
import SpanWeave.Proofs.Pass.PlacementResults
import SpanWeave.Proofs.Pass.PlanResults
import SpanWeave.Proofs.Settings.OutputResults

/-!
# The trees of a session

A pass leaves a well-formed tree well formed, whether it yields a result or breaks off halfway
through its writing, and so does every command. The paths that a command line names are plain. So
whatever has been run before, a pass in a session finds a well-formed tree and a plain root.
-/

set_option autoImplicit false

namespace SpanWeave

/-! ## One pass -/

/-- The targets of ordinary directories are ordinary. -/
theorem Destination.isOrdinary_target {d : Destination} (hroot : d.root.IsOrdinary)
    (houtput : ∀ output, d.output = some output → output.IsOrdinary) (w : WrapperModule) :
    (d.target w).IsOrdinary := by
  unfold target
  cases hdirectory : d.output with
  | some output => exact (houtput output hdirectory).below _
  | none => exact (hroot.below _).below _

namespace PassRequest

variable {tree : FileTree}

/-- Writing wrappers keeps a tree well formed also if one of them cannot be written. -/
theorem writeAll_wellFormed (h : tree.WellFormed) {placed : List PlacedWrapper}
    (hplaced : ∀ p ∈ placed, p.target.IsOrdinary) : (writeAll tree placed).1.WellFormed := by
  induction placed generalizing tree with
  | nil => exact h
  | cons p rest ih =>
    obtain ⟨hp, hrest⟩ := List.forall_mem_cons.mp hplaced
    rw [writeAll]
    cases hone : writeOne tree p with
    | error e =>
      -- the folders may have been made before the file could not be written
      dsimp only
      cases hfolders : tree.ensureFolders p.target.parent with
      | error _ => exact h
      | ok grown => exact h.ensureFolders hp.parent hfolders
    | ok grown =>
      obtain ⟨made, hmade, hwrite⟩ := Traced.except_bind_eq_ok.mp hone
      exact ih ((h.ensureFolders hp.parent hmade).write hp hwrite) hrest

/-- A pass keeps a tree well formed. -/
theorem run_wellFormed (r : PassRequest) (htree : tree.WellFormed) (hroot : r.root.IsOrdinary)
    (houtput : ∀ output, r.output = some output → output.IsOrdinary) :
    (r.run tree).1.WellFormed := by
  rcases r.run_cases tree with ⟨hleft, -⟩ | ⟨survey, hsurvey, -, hleft, -⟩
  · rw [hleft]
    exact htree
  · rw [hleft]
    have hload := (ofTree_result_eq_ok.mp hsurvey).1
    have hdirectory : ∀ output, (r.destination survey.settings).output = some output →
        output.IsOrdinary := by
      intro output hsome
      rcases Option.or_eq_some_iff.mp hsome with hasked | ⟨-, hsettled⟩
      · exact houtput output hasked
      · exact Settings.isOrdinary_directory_of_load hroot hload hsettled
    have hplaced : ∀ p ∈ (r.planOf survey).placed, p.target.IsOrdinary := by
      intro p hp
      rw [(Placement.ofWrappers_progress _ _).targets p hp]
      exact Destination.isOrdinary_target hroot hdirectory p.wrapper
    unfold carryOut
    dsimp only
    split
    · exact htree
    · exact writeAll_wellFormed htree hplaced

end PassRequest

/-! ## Commands -/

variable {s : Surroundings} {tree : FileTree}

/-- A task keeps a tree well formed. -/
theorem TaskResult.ofTask_wellFormed (hdirectory : s.directory.IsPlain) (htree : tree.WellFormed)
    (task : CommandTask) : (ofTask s tree task).tree.WellFormed := by
  cases task with
  | generate path output dryRun =>
    let request : PassRequest :=
      { root := Path.resolve s.directory (Path.ofText path)
        output := (output.filter (· != "")).map fun text =>
          Path.resolve s.directory (Path.ofText text)
        currentYear := s.currentYear
        rehearsal := dryRun }
    have hleft : (ofPass s tree path output dryRun).tree = (request.run tree).1 := by
      unfold ofPass ofError
      dsimp only
      repeat' split
      all_goals rfl
    show (ofPass s tree path output dryRun).tree.WellFormed
    rw [hleft]
    apply request.run_wellFormed htree (Path.isPlain_resolve hdirectory path).isOrdinary
    intro directory hsome
    obtain ⟨text, -, rfl⟩ := Option.map_eq_some_iff.mp hsome
    exact (Path.isPlain_resolve hdirectory text).isOrdinary
  | check path =>
    have hleft : (ofCheck s tree path).tree = tree := by
      unfold ofCheck ofError
      dsimp only
      repeat' split
      all_goals rfl
    show (ofCheck s tree path).tree.WellFormed
    rw [hleft]
    exact htree

namespace Command

/-- Adding to the end of a file keeps a tree well formed. -/
theorem appended_wellFormed (htree : tree.WellFormed) {path : Path} (hpath : path.IsOrdinary)
    {text : String} {grown : FileTree} (h : appended tree path text = .ok grown) :
    grown.WellFormed :=
  htree.write hpath h

/-- The path of a log file is ordinary. -/
theorem isOrdinary_logPath (hdirectory : s.directory.IsPlain) {c : Command} {path : Path}
    (h : c.logPath? s = some path) : path.IsOrdinary := by
  obtain ⟨text, -, rfl⟩ := Option.map_eq_some_iff.mp h
  exact (Path.isPlain_resolve hdirectory text).isOrdinary

/-- A command keeps a tree well formed. -/
theorem run_wellFormed (hdirectory : s.directory.IsPlain) (htree : tree.WellFormed)
    (c : Command) : (c.run s tree).tree.WellFormed := by
  unfold run
  cases hlog : c.logPath? s with
  | none => exact TaskResult.ofTask_wellFormed hdirectory htree c.task
  | some path =>
    have hpath := isOrdinary_logPath hdirectory hlog
    dsimp only
    cases hopened : appended tree path "" with
    | error e => exact htree
    | ok opened =>
      have htask := TaskResult.ofTask_wellFormed hdirectory
        (appended_wellFormed htree hpath hopened) c.task
      dsimp only
      cases hlogged : appended (TaskResult.ofTask s opened c.task).tree path (String.join
          ((TaskResult.ofTask s opened c.task).log.map (Record.fileLine s.stamp))) with
      | error e => exact htask
      | ok logged => exact appended_wellFormed htask hpath hlogged

end Command

/-- A command line keeps a tree well formed. -/
theorem runLine_wellFormed (hdirectory : s.directory.IsPlain) (htree : tree.WellFormed)
    (written : List String) : (runLine s tree written).tree.WellFormed := by
  unfold runLine
  split
  · exact Command.run_wellFormed hdirectory htree _
  · exact htree
  · exact htree

/-- A session keeps a tree well formed. -/
theorem runLines_wellFormed (hdirectory : s.directory.IsPlain) (htree : tree.WellFormed)
    (lines : List (List String)) : (runLines s tree lines).tree.WellFormed := by
  induction lines generalizing tree with
  | nil => exact htree
  | cons line lines ih =>
    have hfirst := runLine_wellFormed hdirectory htree line
    unfold runLines
    dsimp only
    split
    · exact ih hfirst
    · exact hfirst

end SpanWeave
