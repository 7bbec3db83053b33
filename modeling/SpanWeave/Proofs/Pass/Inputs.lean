import Mathlib.Data.List.Permutation
import SpanWeave.Proofs.Pass.Regeneration

/-!
# The inputs of a pass

The file names of wrappers end with the suffix that a scan leaves out, so the place of a wrapper is
not that of a listed module, wherever the wrapper goes. This holds as long as the suffix is the end
of a file name: with a slash in it, what follows the slash is the whole file name of a wrapper, and
a scan lists a module of this name.
-/

set_option autoImplicit false

namespace SpanWeave.PassRequest

open FileTree (ChangedOnly)

variable {r : PassRequest} {tree : FileTree} {survey : Survey} {p : PlacedWrapper}

/-- However far writing gets, it changes the places of targets and no others but for new folders. -/
theorem changedOnly_writeAll (tree : FileTree) (placed : List PlacedWrapper) :
    ChangedOnly tree (writeAll tree placed).1 (placed.map fun p => p.target.place) := by
  induction placed generalizing tree with
  | nil => exact ChangedOnly.refl tree
  | cons p rest ih =>
    rw [writeAll]
    cases hone : writeOne tree p with
    | ok grown => exact (writeOne_eq_ok hone).1.trans (ih grown)
    | error e =>
      -- the folders for the file may have been made before writing it failed
      have hgrown : ChangedOnly tree
          ((tree.ensureFolders p.target.parent).toOption.getD tree) [] := by
        cases hfolders : tree.ensureFolders p.target.parent with
        | ok grown => exact FileTree.changedOnly_of_ensureFolders hfolders
        | error e => exact ChangedOnly.refl tree
      exact hgrown.mono (List.nil_subset _)

/-- However a pass ends, it changes the places of its planned wrappers and no others but for new
folders. -/
theorem changedOnly_carryOut (r : PassRequest) (tree : FileTree) (plan : PassPlan) :
    ChangedOnly tree (r.carryOut tree plan).1 (plan.placed.map fun p => p.target.place) := by
  unfold carryOut
  dsimp only
  split
  · exact (ChangedOnly.refl tree).mono (List.nil_subset _)
  · exact changedOnly_writeAll tree plan.placed

/-- A pass writes to targets of its planned wrappers only. -/
theorem mem_written_of_carryOut {plan : PassPlan} {result : PassResult}
    (h : (r.carryOut tree plan).2.result = .ok result) {path : Path} (hpath : path ∈ result.written) :
    ∃ p ∈ plan.placed, p.target = path := by
  unfold carryOut at h
  dsimp only at h
  split at h
  · rw [Traced.result_note_bind] at h
    cases h
    cases hpath
  · obtain ⟨_, -, h⟩ := Traced.result_bind_eq_ok.mp h
    rw [Traced.result_note_bind] at h
    cases h
    exact List.mem_map.mp hpath

theorem isWrapperPlace_of_mem_placed (htree : tree.WellFormed)
    (hindex : survey.index.Faithful tree r.root)
    (hsuffix : '/' ∉ (r.assemblerFor survey.settings).suffix.toList)
    (h : p ∈ (r.placementOf survey).placed) :
    IsWrapperPlace (r.assemblerFor survey.settings).suffix p.target.place := by
  obtain ⟨htarget, c, -, hasked⟩ := askedBy_of_mem_placed h
  have hfits := fitsBelow_of_mem_placed htree hindex hsuffix h
  rw [htarget, Destination.target_place hfits.fileName, hasked.fileName]
  exact ⟨_, c.name, rfl⟩

/-- A pass with the assembler and the suffix of its settings leaves its inputs alone, unless the
suffix has a slash. Whether it yields a result, breaks off or is a rehearsal, every module that its
scan lists reads afterwards as it did before; and no path that it writes leads to the place of a
listed module. -/
theorem run_keeps_inputs (r : PassRequest) (tree : FileTree) (settings : Settings)
    (manifest : Manifest) (htree : tree.WellFormed) (hroot : r.root.IsPlain)
    (hassembler : r.assembler = none) (hscan : r.scanSuffix = none)
    (hload : Settings.load tree r.root = .ok settings)
    (hslash : '/' ∉ settings.output.suffix.toList)
    (hmanifest : scanTree tree r.root r.root.text settings.excludePaths settings.output.directory
      (r.scanSuffix.getD settings.output.suffix) = .ok manifest) :
    ∀ file ∈ manifest.files,
      (∃ content, tree.read (r.root.below file.path) = .ok content ∧
        (r.run tree).1.read (r.root.below file.path) = .ok content) ∧
      ∀ result, (r.run tree).2.result = .ok result →
        ∀ path ∈ result.written, path.place ≠ (r.root.below file.path).place := by
  rw [hscan, Option.getD_none] at hmanifest
  obtain ⟨-, rules, -, rfl⟩ := scanTree_eq_ok.mp hmanifest
  intro file hfile
  obtain ⟨path, hpath, rfl⟩ := List.mem_map.mp hfile
  have hsuffix := (Settings.sensible_of_load hload).suffix_ne
  obtain ⟨⟨content, hthere⟩, hplace⟩ := file_of_mem_modulePaths htree hsuffix hroot hpath
  have hread := FileTree.read_eq_ok.mpr hthere
  -- what is planned goes to places of wrappers only
  have hplanned : ∀ survey, (Survey.ofTree tree r.root r.scanSuffix).result = .ok survey →
      ∀ p ∈ (r.placementOf survey).placed, p.target.place ≠ (r.root.below path).place := by
    intro survey hsurvey p hp heq
    have hsame : survey.settings = settings :=
      Except.ok.inj ((ofTree_result_eq_ok.mp hsurvey).1.symm.trans hload)
    have hmade : (r.assemblerFor survey.settings).suffix = settings.output.suffix := by
      unfold assemblerFor
      rw [hassembler, hsame]
      rfl
    have hwrapper := isWrapperPlace_of_mem_placed htree
      (Survey.faithful_of_ofTree htree hroot hsurvey) (by rw [hmade]; exact hslash) hp
    rw [hmade, heq] at hwrapper
    exact hplace hwrapper
  rcases r.run_cases tree with ⟨hleft, e, he⟩ | ⟨survey, hsurvey, -, hfinal, hresult⟩
  · refine ⟨⟨content, hread, by rw [hleft]; exact hread⟩, ?_⟩
    intro result hrun
    rw [he] at hrun
    cases hrun
  · have hnot := hplanned survey hsurvey
    refine ⟨⟨content, hread, ?_⟩, ?_⟩
    · have hchanged := r.changedOnly_carryOut tree (r.planOf survey)
      have hmem : (r.root.below path).place ∉
          (r.planOf survey).placed.map fun p => p.target.place := by
        intro hmem
        obtain ⟨p, hp, heq⟩ := List.mem_map.mp hmem
        exact hnot p hp heq
      obtain ⟨hlocate, hentry⟩ := FileTree.at?_eq_some.mp hthere
      rw [hfinal]
      exact FileTree.read_eq_ok.mpr (FileTree.at?_eq_some.mpr
        ⟨FileTree.locate_mono hchanged.folders hlocate, (hchanged.file_iff hmem _).mpr hentry⟩)
    · intro result hrun written hwritten
      rw [hresult] at hrun
      obtain ⟨p, hp, rfl⟩ := mem_written_of_carryOut hrun hwritten
      exact hnot p hp

/-- The pass over the mixed project writes two wrappers and keeps its three modules. -/
theorem run_keeps_inputs_mixedProject :
    ∃ result, (mixedRequest.run mixedProject).2.result = .ok result ∧
      result.wrappers.length = 2 ∧
        ∀ name ∈ ["a.py", "b.py", "q.py"], ∃ content,
          mixedProject.read (mixedRequest.root.below name) = .ok content ∧
            (mixedRequest.run mixedProject).1.read (mixedRequest.root.below name) =
              .ok content := by
  obtain ⟨-, -, result, hrun, htwo, -⟩ := mixedRequest_run
  have hmanifest : scanTree mixedProject mixedRequest.root mixedRequest.root.text
      mixedSettings.excludePaths mixedSettings.output.directory "_w.py" =
        .ok ⟨mixedRequest.root.text, (modulePaths mixedProject mixedRequest.root mixedRules
          "_w.py").map (SourceFile.ofPath mixedProject mixedRequest.root)⟩ :=
    scanTree_eq_ok.mpr ⟨mixedProject_rules.1, _, mixedProject_rules.2, rfl⟩
  have hkept := run_keeps_inputs mixedRequest mixedProject mixedSettings _
    mixedProject_wellFormed mixedRequest_plain rfl rfl mixedProject_load (by decide) hmanifest
  refine ⟨result, hrun, htwo, fun name hname => ?_⟩
  rw [mixedProject_modules] at hkept
  exact (hkept _ (List.mem_map.mpr ⟨name, hname, rfl⟩)).1

/-! ## A suffix with a slash -/

/-- A project whose settings let the names of wrappers end with a slash and a file name, with a
module of this name where the wrapper of its other module goes. -/
def slashedProject : FileTree :=
  ⟨[(["p", ".instrumentgen.yml"], .file (Text.encode "output:\n  suffix: /wrapper.py\n")),
    (["p", "InstrumentedAImpl", "wrapper.py"], .file (Text.encode "x = 1\n")),
    (["p", "InstrumentedAImpl"], .folder),
    (["p", "a.py"], .file (Text.encode "@Instrumentation\nclass A(ABC):\n  def f(self): pass\n")),
    (["p"], .folder)]⟩

def slashedSettings : Settings :=
  { root := smallRequest.root, output := { suffix := "/wrapper.py" } }

set_option maxRecDepth 100000 in
theorem slashedProject_load :
    Settings.load slashedProject smallRequest.root = .ok slashedSettings := by
  decide +kernel

theorem slashedProject_modules :
    modulePaths slashedProject smallRequest.root [] "/wrapper.py" =
      ["a.py", "InstrumentedAImpl/wrapper.py"] := by
  cbv

def slashedSurvey : Survey :=
  ⟨slashedSettings, "Instrumentation", (["a.py", "InstrumentedAImpl/wrapper.py"].map
    (SourceFile.ofPath slashedProject smallRequest.root)).flatMap
      (SourceIndex.classesAt slashedProject smallRequest.root)⟩

set_option maxRecDepth 100000 in
theorem slashedSurvey_written :
    ((smallRequest.carryOut slashedProject (smallRequest.planOf slashedSurvey)).2.result.toOption.any
      fun result => result.written = [smallRequest.root.below "InstrumentedAImpl/wrapper.py"]) =
        true := by
  decide +kernel

/-- With a slash in the suffix a pass overwrites a module that its own scan lists. -/
theorem run_overwrites_input :
    slashedProject.WellFormed ∧ smallRequest.root.IsPlain ∧
      ∃ settings manifest result,
        Settings.load slashedProject smallRequest.root = .ok settings ∧
          scanTree slashedProject smallRequest.root smallRequest.root.text settings.excludePaths
            settings.output.directory settings.output.suffix = .ok manifest ∧
          (smallRequest.run slashedProject).2.result = .ok result ∧
            ∃ file ∈ manifest.files, smallRequest.root.below file.path ∈ result.written := by
  have hfolder : slashedProject.at? smallRequest.root = some .folder := by decide +kernel
  have hrules : scanRules slashedProject smallRequest.root [] none = .ok [] := by decide +kernel
  -- the walk over the tree does not reduce by itself, so the listed modules are rewritten first
  have hsurvey : (Survey.ofTree slashedProject smallRequest.root none).result =
      .ok slashedSurvey := by
    refine ofTree_result_eq_ok.mpr ⟨slashedProject_load,
      (underSettings_result_eq_ok smallRequest_plain).mpr ⟨hfolder, [], hrules, ?_⟩⟩
    show slashedSurvey = ⟨slashedSettings,
      indexUnder slashedProject smallRequest.root [] "/wrapper.py" "Instrumentation"⟩
    unfold indexUnder
    rw [slashedProject_modules]
    rfl
  obtain ⟨-, hresult⟩ := run_of_quiet hsurvey (StopSignal.shows_default _)
  have hwritten := slashedSurvey_written
  cases hcarried : (smallRequest.carryOut slashedProject
      (smallRequest.planOf slashedSurvey)).2.result with
  | error e =>
    rw [hcarried] at hwritten
    cases hwritten
  | ok result =>
    rw [hcarried] at hwritten
    have hpaths := of_decide_eq_true hwritten
    refine ⟨by decide +kernel, smallRequest_plain, slashedSettings, _, result, slashedProject_load,
      scanTree_eq_ok.mpr ⟨hfolder, [], hrules, rfl⟩, hresult.trans hcarried, ?_⟩
    refine ⟨SourceFile.ofPath slashedProject smallRequest.root "InstrumentedAImpl/wrapper.py",
      List.mem_map.mpr ⟨_, ?_, rfl⟩, ?_⟩
    · show _ ∈ modulePaths slashedProject smallRequest.root [] "/wrapper.py"
      rw [slashedProject_modules]
      simp
    · rw [hpaths]
      exact List.mem_singleton_self _

end SpanWeave.PassRequest
