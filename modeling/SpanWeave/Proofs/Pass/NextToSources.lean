import Mathlib.Data.List.Permutation
import SpanWeave.Proofs.Pass.Targets
import SpanWeave.Proofs.Scan.PackageNames

/-!
# Wrappers next to their sources

Without an output directory a wrapper goes to the directory of the declaration that asked for it. A
suffix goes on in the same way behind every name, so wrappers with one target stand in one directory
under one class name, and the directory settles the namespace and the import root. Since a survey
keeps one declaration of each type, no two wrappers of a pass have one target, and all are placed.
-/

set_option autoImplicit false

namespace SpanWeave

open SpanWeave.Path (joined)

/-! ## Causes that keep a wrapper from its place -/

/-- A cause that an assembled wrapper is refused for. -/
def Cause.Refuses : Cause → Prop
  | .relativeImport .. => True
  | .occupied .. => True
  | _ => False

/-- The codes of refusals. -/
theorem Cause.refuses_iff (cause : Cause) :
    cause.Refuses ↔ cause.code = "relative-import" ∨ cause.code = "duplicate-artifact" := by
  cases cause with
  | passedOver type verdict => cases verdict <;> simp [Refuses, code, Verdict.code]
  | failed type error => cases error <;> simp [Refuses, code, GenerationError.code]
  | duplicate type kept => simp [Refuses, code]
  | relativeImport type directory => simp [Refuses, code]
  | occupied type target owner => simp [Refuses, code]

/-- What comes of a declaration by itself is no refusal. -/
theorem Outcome.not_refuses_of_reached {index : SourceIndex} {a : Assembler} {c : Candidate}
    {f : Finding} (h : reached index a c = .finding f) : ¬ f.cause.Refuses := by
  unfold reached at h
  split at h <;> cases h <;> exact id

/-- Only placing wrappers refuses any. -/
theorem PassRequest.mem_placementOf_of_refuses {r : PassRequest} {survey : Survey} {f : Finding}
    (hf : f ∈ (r.planOf survey).findings) (h : f.cause.Refuses) :
    f ∈ (r.placementOf survey).findings := by
  unfold planOf at hf
  rcases List.mem_append.mp hf with hf | hf
  · rcases List.mem_append.mp hf with hf | hf
    · obtain ⟨others, -, hpassed⟩ :=
        Selection.ofCandidates_spec survey.index survey.index.candidates
      obtain ⟨c, -, k, -, -, rfl⟩ := exists_left_of_forall₂ hpassed hf
      exact absurd h id
    · obtain ⟨o, ho, hfinding⟩ := List.mem_filterMap.mp hf
      obtain ⟨c, -, rfl⟩ := List.mem_map.mp ho
      exact absurd h (Outcome.not_refuses_of_reached (Outcome.finding?_eq_some.mp hfinding))
  · exact hf

/-! ## One target, one type -/

/-- File names of wrappers that end alike are read alike behind their first parts. -/
theorem exists_ofText_companionName (suffix : String) :
    ∃ first others, ∀ name, Text.isIdentifier name = true →
      Path.ofText (Assembler.companionName name ++ suffix) =
        ⟨.here, (Assembler.companionName name ++ first) :: others⟩ := by
  obtain ⟨first, others, hparts⟩ := Text.exists_parts_append '/' suffix
  refine ⟨first, others.filter fun part => part != "" && part != ".", ?_⟩
  intro name hname
  have hanchor : Path.anchorOf (Assembler.companionName name ++ suffix).toList = .here := by
    unfold Assembler.companionName
    simp [String.toList_append, Path.anchorOf]
  have hempty : Assembler.companionName name ++ first ≠ "" := companionName_append_ne (by decide)
  have hhere : Assembler.companionName name ++ first ≠ "." := companionName_append_ne (by decide)
  unfold Path.ofText
  rw [hanchor, hparts _ (slash_not_mem_companionName hname),
    List.filter_cons_of_pos (by simp [hempty, hhere])]

/-- The name of a type can be read off the name of its wrapper. -/
theorem companionName_append_injective {name other ending : String}
    (h : Assembler.companionName name ++ ending = Assembler.companionName other ++ ending) :
    name = other := by
  unfold Assembler.companionName at h
  rwa [String.append_left_inj, String.append_left_inj, String.append_right_inj] at h

section

variable {tree : FileTree} {root : Path} {rules : List IgnoreRule} {suffix marker : String}

/-- Next to their sources, the target of a wrapper is in the directory of the module that asked for
it, and behind the directory only the name of the type is its own. -/
theorem exists_target_eq (htree : tree.WellFormed) (ending : String) :
    ∃ first others, ∀ c ∈ (indexUnder tree root rules suffix marker).candidates,
      ∀ w : WrapperModule, w.AskedBy ending c →
        ∃ names, names ≠ [] ∧ (∀ name ∈ names, IsName name) ∧
          c.file = .ofPath tree root (joined names) ∧
            Destination.target ⟨root, none⟩ w = ⟨root.anchor, root.names ++
              (names.dropLast ++ (Assembler.companionName c.name ++ first) :: others)⟩ := by
  obtain ⟨first, others, hread⟩ := exists_ofText_companionName ending
  refine ⟨first, others, ?_⟩
  intro c hc w hw
  obtain ⟨entry, hentry, -, rfl⟩ := SourceIndex.mem_candidates.mp hc
  obtain ⟨names, hne, hnames, -, hfile, hpath⟩ := module_of_mem_indexUnder htree hentry
  have hname : Text.isIdentifier entry.candidate.name = true :=
    ((indexUnder_faithful htree root rules suffix marker).declared entry hentry).identifier
  have horigin : entry.candidate.origin.path = joined names := hpath
  have hfolder : root.below w.directory = ⟨root.anchor, root.names ++ names.dropLast⟩ := by
    rw [hw.directory, horigin, Path.ofText_joined hnames]
    exact Path.below_text (fun n hn => hnames n (List.dropLast_subset names hn)) root
  refine ⟨names, hne, hnames, hfile, ?_⟩
  unfold Destination.target
  rw [Option.getD_none, hfolder, hw.fileName, Path.below, Path.join, hread _ hname, if_pos rfl,
    List.append_assoc]

/-- Next to their sources, wrappers with one target were asked for by declarations of one type. -/
theorem key_eq_of_target (htree : tree.WellFormed) {ending : String} {c d : Candidate}
    (hc : c ∈ (indexUnder tree root rules suffix marker).candidates)
    (hd : d ∈ (indexUnder tree root rules suffix marker).candidates) {v w : WrapperModule}
    (hv : v.AskedBy ending c) (hw : w.AskedBy ending d)
    (h : Destination.target ⟨root, none⟩ v = Destination.target ⟨root, none⟩ w) :
    c.key = d.key := by
  obtain ⟨first, rest, htargets⟩ := exists_target_eq htree ending
  obtain ⟨names, hne, hnames, hfile, htarget⟩ := htargets c hc v hv
  obtain ⟨others, hne', hothers, hfile', htarget'⟩ := htargets d hd w hw
  rw [htarget, htarget', Path.mk.injEq] at h
  -- as many names stand behind both directories, so the directories are the same
  obtain ⟨hdirectory, hlast⟩ := List.append_inj' (List.append_cancel_left h.2) rfl
  obtain ⟨-, hnamespace, himport⟩ := ofPath_congr tree root hnames hothers hne hne' hdirectory
  rw [← hfile, ← hfile'] at hnamespace himport
  have hname : c.name = d.name := companionName_append_injective (List.cons.inj hlast).1
  unfold Candidate.key Candidate.identity
  rw [hname, hnamespace, himport]

end

namespace PassRequest

variable {r : PassRequest} {survey : Survey} {tree : FileTree}

/-- Next to their sources, the wrappers that a pass assembles have different targets. -/
theorem nodup_targets (htree : tree.WellFormed) (hroot : r.root.IsPlain)
    (hsurvey : (Survey.ofTree tree r.root r.scanSuffix).result = .ok survey)
    (hnext : (r.destination survey.settings).output = none) :
    (((r.outcomesOf survey).filterMap Outcome.wrapper?).map
      (r.destination survey.settings).target).Nodup := by
  obtain ⟨-, hunder⟩ := ofTree_result_eq_ok.mp hsurvey
  obtain ⟨-, rules, -, hindex⟩ := (underSettings_result_eq_ok hroot).mp hunder
  have hindex : survey.index = indexUnder tree r.root rules
      (r.scanSuffix.getD survey.settings.output.suffix) survey.settings.marker :=
    congrArg Survey.index hindex
  have hdestination : r.destination survey.settings = ⟨r.root, none⟩ :=
    congrArg (Destination.mk r.root) hnext
  have hkeys : (keptOf survey).Pairwise fun c d => c.key ≠ d.key :=
    List.pairwise_map.mp (Selection.nodup_keys survey.index survey.index.candidates)
  unfold outcomesOf
  rw [List.Nodup, List.pairwise_map, List.filterMap_map, List.pairwise_filterMap, hdestination]
  apply hkeys.imp_of_mem
  intro c d hc hd hne v hv w hw hsame
  have hasked := (Outcome.askedBy_of_reached (Outcome.wrapper?_eq_some.mp hv)).2
  have hasked' := (Outcome.askedBy_of_reached (Outcome.wrapper?_eq_some.mp hw)).2
  have hcandidates := mem_candidates_of_mem_keptOf hc
  have hcandidates' := mem_candidates_of_mem_keptOf hd
  rw [hindex] at hcandidates hcandidates'
  exact hne (key_eq_of_target htree hcandidates hcandidates' hasked hasked' hsame)

/-- Next to their sources, a pass places all wrappers that it assembles and refuses none. -/
theorem placementOf_next_to_sources (htree : tree.WellFormed) (hroot : r.root.IsPlain)
    (hsurvey : (Survey.ofTree tree r.root r.scanSuffix).result = .ok survey)
    (hnext : (r.destination survey.settings).output = none) :
    (r.placementOf survey).findings = [] ∧
      ((r.placementOf survey).placed.map PlacedWrapper.wrapper).Perm
        ((r.outcomesOf survey).filterMap Outcome.wrapper?) := by
  have hsorted : (sortWrappers ((r.outcomesOf survey).filterMap Outcome.wrapper?)).Perm
      ((r.outcomesOf survey).filterMap Outcome.wrapper?) := List.mergeSort_perm _ _
  have hnodup := (hsorted.map _).nodup_iff.mpr (nodup_targets htree hroot hsurvey hnext)
  unfold placementOf
  rw [Placement.ofWrappers_of_nodup hnext hnodup]
  refine ⟨rfl, ?_⟩
  rw [List.map_map]
  have hsame : PlacedWrapper.wrapper ∘ (fun w => ⟨(r.destination survey.settings).target w, w⟩) =
      id := rfl
  rw [hsame, List.map_id]
  exact hsorted

/-- Without an output directory a pass refuses no wrapper. In the plan for any tree there is neither
a finding about a relative import nor one about a file that is taken, and the wrappers that it
places are all that were assembled of the kept declarations; a pass that yields a result yields just
these findings and wrappers. -/
theorem run_refuses_nothing (r : PassRequest) (tree : FileTree) (settings : Settings)
    (htree : tree.WellFormed) (hroot : r.root.IsPlain)
    (hload : Settings.load tree r.root = .ok settings) (houtput : r.output = none)
    (hdirectory : settings.output.directory = none) :
    (∀ plan, (r.plan tree).result = .ok plan →
      (∀ f ∈ plan.findings, f.diagnostic.code ≠ "duplicate-artifact" ∧
        f.diagnostic.code ≠ "relative-import") ∧
      ∃ survey, (Survey.ofTree tree r.root r.scanSuffix).result = .ok survey ∧
        (plan.placed.map PlacedWrapper.wrapper).Perm
          ((r.outcomesOf survey).filterMap Outcome.wrapper?)) ∧
    ∀ result, (r.run tree).2.result = .ok result →
      ∃ plan, (r.plan tree).result = .ok plan ∧
        result.wrappers = plan.placed.map PlacedWrapper.wrapper ∧
          result.findings = plan.findings := by
  refine ⟨?_, fun result hrun => exists_plan_of_run hrun⟩
  intro plan hplan
  obtain ⟨survey, hsurvey, -, rfl⟩ := plan_result_eq_ok.mp hplan
  have hnext : (r.destination survey.settings).output = none := by
    unfold destination
    rw [houtput, settings_of_ofTree hload hsurvey, hdirectory]
    rfl
  obtain ⟨hnone, hall⟩ := placementOf_next_to_sources htree hroot hsurvey hnext
  refine ⟨?_, survey, hsurvey, hall⟩
  intro f hf
  have hplaced : ¬ f.cause.Refuses := by
    intro hrefuses
    have hmem := mem_placementOf_of_refuses hf hrefuses
    rw [hnone] at hmem
    cases hmem
  rw [Cause.refuses_iff, not_or] at hplaced
  exact ⟨hplaced.2, hplaced.1⟩

/-! ## Two modules of one name -/

/-- A project with a module of the same name and a class of the same name in two directories. -/
def twinProject : FileTree :=
  ⟨[(["p", "x", "m.py"],
      .file (Text.encode "@Instrumentation\nclass A(ABC):\n  def f(self): pass\n")),
    (["p", "x"], .folder),
    (["p", "y", "m.py"],
      .file (Text.encode "@Instrumentation\nclass A(ABC):\n  def g(self): pass\n")),
    (["p", "y"], .folder), (["p"], .folder)]⟩

def twinSurvey : Survey :=
  ⟨{ root := smallRequest.root }, "Instrumentation",
    (["x/m.py", "y/m.py"].map (SourceFile.ofPath twinProject smallRequest.root)).flatMap
      (SourceIndex.classesAt twinProject smallRequest.root)⟩

def twinCandidates : List Candidate :=
  [⟨"A", ⟨"x/m.py", some "m", "", "x"⟩, ⟨"x/m.py", 2, 1⟩⟩,
    ⟨"A", ⟨"y/m.py", some "m", "", "y"⟩, ⟨"y/m.py", 2, 1⟩⟩]

theorem twinProject_wellFormed : twinProject.WellFormed := by decide +kernel

theorem twinProject_load :
    Settings.load twinProject smallRequest.root = .ok { root := smallRequest.root } := by
  decide +kernel

theorem twinProject_survey :
    (Survey.ofTree twinProject smallRequest.root none).result = .ok twinSurvey := by
  have hfolder : twinProject.at? smallRequest.root = some .folder := by decide +kernel
  have hrules : scanRules twinProject smallRequest.root [] none = .ok [] := by decide +kernel
  have hmodules : modulePaths twinProject smallRequest.root [] "_g.py" = ["x/m.py", "y/m.py"] := by
    cbv
  exact Survey.ofTree_of_modules smallRequest_plain twinProject_load hfolder hrules hmodules

set_option maxRecDepth 100000 in
/-- What the stages of a pass make of the survey, but for sorting by location. -/
theorem twinSurvey_stages :
    (twinSurvey.index.classes.filter fun c =>
        c.declaration.carries twinSurvey.index.marker).map IndexedClass.candidate =
          twinCandidates ∧
      ((Selection.groups twinCandidates).map (Selection.ofGroup twinSurvey.index)).flatMap
        Selection.kept = twinCandidates ∧
      ((twinCandidates.map (Outcome.reached twinSurvey.index
        (smallRequest.assemblerFor twinSurvey.settings))).filterMap Outcome.wrapper?).map
          WrapperModule.fileName = List.replicate 2 "InstrumentedAImpl_g.py" := by
  decide +kernel

/-- Of each type of the project the only declaration is kept. -/
theorem twinSurvey_kept : keptOf twinSurvey = twinCandidates := by
  obtain ⟨hmarked, hkept, -⟩ := twinSurvey_stages
  have hsorted : twinCandidates.mergeSort (fun a b => a.origin.upTo b.origin) = twinCandidates :=
    List.mergeSort_of_pairwise (by decide)
  have hcandidates : twinSurvey.index.candidates = twinCandidates := by
    unfold SourceIndex.candidates
    rw [hmarked]
    exact hsorted
  unfold keptOf Selection.ofCandidates
  dsimp only
  rw [hcandidates, hkept, hsorted]

theorem twinSurvey_wrappers :
    ((smallRequest.outcomesOf twinSurvey).filterMap Outcome.wrapper?).map WrapperModule.fileName =
      List.replicate 2 "InstrumentedAImpl_g.py" := by
  obtain ⟨-, -, hwrappers⟩ := twinSurvey_stages
  unfold outcomesOf
  rw [twinSurvey_kept]
  exact hwrappers

/-- Both wrappers of the project have the same file name, and both are placed. -/
theorem run_refuses_nothing_twinProject :
    ∃ plan, (smallRequest.plan twinProject).result = .ok plan ∧
      plan.placed.map (fun p => p.wrapper.fileName) =
        List.replicate 2 "InstrumentedAImpl_g.py" ∧
      ∀ f ∈ plan.findings, f.diagnostic.code ≠ "duplicate-artifact" ∧
        f.diagnostic.code ≠ "relative-import" := by
  obtain ⟨hplans, -⟩ := run_refuses_nothing smallRequest twinProject { root := smallRequest.root }
    twinProject_wellFormed smallRequest_plain twinProject_load rfl rfl
  have hplan : (smallRequest.plan twinProject).result = .ok (smallRequest.planOf twinSurvey) :=
    plan_result_eq_ok.mpr ⟨twinSurvey, twinProject_survey, StopSignal.shows_default _, rfl⟩
  obtain ⟨hcodes, survey, hsurvey, hperm⟩ := hplans _ hplan
  have hsame : survey = twinSurvey := Except.ok.inj (hsurvey.symm.trans twinProject_survey)
  refine ⟨_, hplan, ?_, hcodes⟩
  have hnames := hperm.map WrapperModule.fileName
  rw [hsame, twinSurvey_wrappers, List.map_map] at hnames
  exact List.perm_replicate.mp hnames

end PassRequest

end SpanWeave
