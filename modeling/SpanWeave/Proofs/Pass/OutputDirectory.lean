import Mathlib.Data.List.Permutation
import SpanWeave.Proofs.Pass.Targets
import SpanWeave.Proofs.Wrapper.RelativeImports

/-!
# Wrappers in an output directory

From an output directory the relative imports of a wrapper lead nowhere. A wrapper that is marked
for such imports is refused with an error, so none of those that are placed has a relative import
with one blank before its dots. With other layout there, or none, the mark is missing and the
wrapper is placed.
-/

set_option autoImplicit false

namespace SpanWeave.PassRequest

/-- A kept declaration, the wrapper that it comes to, and the imports that are written in it. -/
structure Assembles (r : PassRequest) (survey : Survey) (c : Candidate) (w : WrapperModule)
    (imports : List ImportDirective) : Prop where
  kept : c ∈ keptOf survey
  eligible : survey.index.verdict c = .eligible
  writes : ∃ t, survey.index.resolve c = some t ∧
    (r.assemblerFor survey.settings).Writes t w imports

variable {r : PassRequest} {survey : Survey} {c : Candidate} {w : WrapperModule}
  {imports : List ImportDirective}

namespace Assembles

/-- The declaration comes to the wrapper. -/
theorem reached (h : r.Assembles survey c w imports) :
    Outcome.reached survey.index (r.assemblerFor survey.settings) c = .wrapper w := by
  obtain ⟨t, ht, hwrites⟩ := h.writes
  exact Outcome.reached_eq_wrapper.mpr ⟨h.eligible, t, ht, Assembler.wrap_of_writes hwrites⟩

/-- A relative import with one blank before its dots marks the wrapper. -/
theorem relativeImports (h : r.Assembles survey c w imports) {d : ImportDirective}
    (hd : d ∈ imports) (hrelative : d.namesRelatively = true) (hplain : d.isPlainlySpaced = true) :
    w.relativeImports = true := by
  obtain ⟨t, -, hwrites⟩ := h.writes
  exact (Assembler.relativeImports_iff hwrites).mpr
    ⟨d, hd, (ImportDirective.isRelative_iff_isPlainlySpaced hrelative).mpr hplain⟩

end Assembles

/-- A kept declaration that comes to a wrapper assembles it with its imports. -/
theorem assembles_of_reached (hc : c ∈ keptOf survey)
    (h : Outcome.reached survey.index (r.assemblerFor survey.settings) c = .wrapper w) :
    ∃ imports, r.Assembles survey c w imports := by
  obtain ⟨heligible, t, ht, hwrap⟩ := Outcome.reached_eq_wrapper.mp h
  obtain ⟨imports, hwrites⟩ := Assembler.writes_of_wrap hwrap
  exact ⟨imports, hc, heligible, t, ht, hwrites⟩

/-- With an output directory a pass refuses every wrapper with a relative import that has one blank
before its dots. In the plan for any tree no placed wrapper has such an import among those written
in it, and every wrapper with one that a kept declaration comes to is left out, with an error at the
location of the declaration; a pass that yields a result yields just the planned wrappers and
findings. -/
theorem run_refuses_relative_imports (r : PassRequest) (tree : FileTree) (settings : Settings)
    (directory : Path) (hload : Settings.load tree r.root = .ok settings)
    (houtput : r.output.or settings.output.directory = some directory) :
    (∀ plan, (r.plan tree).result = .ok plan →
      ∃ survey, (Survey.ofTree tree r.root r.scanSuffix).result = .ok survey ∧
        (∀ w ∈ plan.placed.map PlacedWrapper.wrapper, ∃ c imports,
          r.Assembles survey c w imports ∧
            ∀ d ∈ imports, d.namesRelatively = true → d.isPlainlySpaced = false) ∧
        ∀ c w imports, r.Assembles survey c w imports →
          (∃ d ∈ imports, d.namesRelatively = true ∧ d.isPlainlySpaced = true) →
            w ∉ plan.placed.map PlacedWrapper.wrapper ∧
              ∃ f ∈ plan.findings, f.diagnostic.code = "relative-import" ∧
                f.diagnostic.severity = .error ∧ f.diagnostic.origin = some c.origin) ∧
    ∀ result, (r.run tree).2.result = .ok result →
      ∃ plan, (r.plan tree).result = .ok plan ∧
        result.wrappers = plan.placed.map PlacedWrapper.wrapper ∧
          result.findings = plan.findings := by
  refine ⟨?_, fun result hrun => exists_plan_of_run hrun⟩
  intro plan hplan
  obtain ⟨survey, hsurvey, -, rfl⟩ := plan_result_eq_ok.mp hplan
  have hdirectory : (r.destination survey.settings).output = some directory := by
    rw [settings_of_ofTree hload hsurvey]
    exact houtput
  -- a placed wrapper is not marked
  have hunmarked : ∀ w ∈ (r.placementOf survey).placed.map PlacedWrapper.wrapper,
      w.relativeImports = false := by
    intro w hw
    obtain ⟨p, hp, rfl⟩ := List.mem_map.mp hw
    exact Placement.relativeImports_of_mem_placed hdirectory hp
  refine ⟨survey, hsurvey, ?_, ?_⟩
  · intro w hw
    obtain ⟨p, hp, rfl⟩ := List.mem_map.mp hw
    obtain ⟨c, hc, hreached⟩ := reached_of_mem_placed hp
    obtain ⟨imports, hassembles⟩ := assembles_of_reached hc hreached
    refine ⟨c, imports, hassembles, ?_⟩
    intro d hd hrelative
    by_contra hplain
    rw [Bool.not_eq_false] at hplain
    have hmarked := hassembles.relativeImports hd hrelative hplain
    rw [hunmarked _ hw] at hmarked
    cases hmarked
  · rintro c w imports hassembles ⟨d, hd, hrelative, hplain⟩
    have hmarked := hassembles.relativeImports hd hrelative hplain
    constructor
    · intro hw
      rw [hunmarked w hw] at hmarked
      cases hmarked
    · have hmem : w ∈ sortWrappers ((r.outcomesOf survey).filterMap Outcome.wrapper?) :=
        List.mem_mergeSort.mpr (mem_assembled.mpr ⟨c, hassembles.kept, hassembles.reached⟩)
      have hfinding := Placement.mem_findings_of_relativeImports hdirectory hmem hmarked
      refine ⟨_, List.mem_append_right _ hfinding, rfl, rfl, ?_⟩
      exact congrArg some (Outcome.askedBy_of_reached hassembles.reached).2.origin

/-! ## Two spellings of one import -/

/-- The relative import of a project, with one blank before the dot or with none. -/
def relativeDirective (spaced : Bool) : ImportDirective :=
  ⟨"from" ++ (if spaced then " " else "") ++ ".jobs import Job"⟩

/-- A project of one package with a module that marks a class behind the import. -/
def relativeProject (spaced : Bool) : FileTree :=
  ⟨[(["p", "q", "__init__.py"], .file []),
    (["p", "q", "m.py"], .file (Text.encode ((relativeDirective spaced).text ++
      "\n@Instrumentation\nclass A(ABC):\n  def f(self): pass\n"))),
    (["p", "q"], .folder), (["p"], .folder)]⟩

/-- A pass that puts the wrappers of the project elsewhere. -/
def outputRequest : PassRequest :=
  { root := smallRequest.root, output := some ⟨.root, ["out"]⟩, currentYear := 2024 }

def relativeSurvey (spaced : Bool) : Survey :=
  ⟨{ root := smallRequest.root }, "Instrumentation",
    (["q/__init__.py", "q/m.py"].map
      (SourceFile.ofPath (relativeProject spaced) smallRequest.root)).flatMap
        (SourceIndex.classesAt (relativeProject spaced) smallRequest.root)⟩

theorem relativeProject_load : ∀ spaced, Settings.load (relativeProject spaced) smallRequest.root =
    .ok { root := smallRequest.root } := by
  decide +kernel

theorem relativeProject_survey (spaced : Bool) :
    (Survey.ofTree (relativeProject spaced) smallRequest.root none).result =
      .ok (relativeSurvey spaced) := by
  have hfolder : ∀ spaced, (relativeProject spaced).at? smallRequest.root = some .folder := by
    decide +kernel
  have hrules : ∀ spaced,
      scanRules (relativeProject spaced) smallRequest.root [] none = .ok [] := by
    decide +kernel
  have hmodules : modulePaths (relativeProject spaced) smallRequest.root [] "_g.py" =
      ["q/__init__.py", "q/m.py"] := by
    cases spaced <;> cbv
  exact Survey.ofTree_of_modules smallRequest_plain (relativeProject_load spaced) (hfolder spaced)
    (hrules spaced) hmodules

set_option maxRecDepth 100000 in
/-- What the stages of a pass make of the project. -/
theorem relativeSurvey_stages : ∀ spaced,
    ((keptOf (relativeSurvey spaced)).all fun c => ((relativeSurvey spaced).index.resolve c).all
      fun t => t.collect.result.toOption.all fun members =>
        members.imports.contains (relativeDirective spaced)) = true ∧
    ((outputRequest.outcomesOf (relativeSurvey spaced)).filterMap Outcome.wrapper?).length = 1 ∧
      ((outputRequest.carryOut (relativeProject spaced)
        (outputRequest.planOf (relativeSurvey spaced))).2.result.toOption.any fun result =>
          result.wrappers.length = if spaced then 0 else 1) = true := by
  decide +kernel

/-- The import is written in the wrapper of the project. -/
theorem relativeDirective_mem {spaced : Bool}
    (h : outputRequest.Assembles (relativeSurvey spaced) c w imports) :
    relativeDirective spaced ∈ imports := by
  obtain ⟨t, ht, hwrites⟩ := h.writes
  obtain ⟨members, node, hmembers, -⟩ := id hwrites
  have hall := List.all_eq_true.mp (relativeSurvey_stages spaced).1 c h.kept
  rw [ht, Option.all_some, hmembers] at hall
  rw [Assembler.imports_of_writes hwrites hmembers]
  exact mem_importBlock.mpr (Or.inl (List.contains_iff_mem.mp hall))

/-- With one blank before the dot, the wrapper is refused with an error. -/
theorem run_refuses_relative_imports_spaced :
    ∃ plan survey c w imports, (outputRequest.plan (relativeProject true)).result = .ok plan ∧
      outputRequest.Assembles survey c w imports ∧ relativeDirective true ∈ imports ∧
        w ∉ plan.placed.map PlacedWrapper.wrapper ∧
          ∃ f ∈ plan.findings, f.diagnostic.code = "relative-import" ∧
            f.diagnostic.severity = .error ∧ f.diagnostic.origin = some c.origin := by
  obtain ⟨hplans, -⟩ := run_refuses_relative_imports outputRequest (relativeProject true)
    { root := smallRequest.root } ⟨.root, ["out"]⟩ (relativeProject_load true) rfl
  have hplan : (outputRequest.plan (relativeProject true)).result =
      .ok (outputRequest.planOf (relativeSurvey true)) :=
    plan_result_eq_ok.mpr ⟨relativeSurvey true, relativeProject_survey true, rfl, rfl⟩
  obtain ⟨survey, hsurvey, -, hrefused⟩ := hplans _ hplan
  have hsame : survey = relativeSurvey true :=
    Except.ok.inj (hsurvey.symm.trans (relativeProject_survey true))
  obtain ⟨w, hw⟩ := List.length_eq_one_iff.mp (relativeSurvey_stages true).2.1
  have hassembled : w ∈ (outputRequest.outcomesOf (relativeSurvey true)).filterMap
      Outcome.wrapper? := by
    rw [hw]
    exact List.mem_singleton_self w
  obtain ⟨c, hc, hreached⟩ := mem_assembled.mp hassembled
  obtain ⟨imports, hassembles⟩ := assembles_of_reached hc hreached
  have hmem := relativeDirective_mem hassembles
  have hspaced : (relativeDirective true).namesRelatively = true ∧
      (relativeDirective true).isPlainlySpaced = true := by decide +kernel
  obtain ⟨hout, hfinding⟩ := hrefused c w imports (hsame ▸ hassembles) ⟨_, hmem, hspaced⟩
  exact ⟨_, _, c, w, imports, hplan, hassembles, hmem, hout, hfinding⟩

/-- Without a blank before the dot, the same import is written to the output directory. -/
theorem run_places_relative_import :
    (relativeProject false).WellFormed ∧ outputRequest.root.IsPlain ∧
      outputRequest.output = some ⟨.root, ["out"]⟩ ∧
        ∃ survey result, (Survey.ofTree (relativeProject false) outputRequest.root none).result =
            .ok survey ∧
          (outputRequest.run (relativeProject false)).2.result = .ok result ∧
            ∃ c w imports, outputRequest.Assembles survey c w imports ∧ w ∈ result.wrappers ∧
              ∃ d ∈ imports, d.namesRelatively = true := by
  obtain ⟨-, hresult⟩ := run_of_quiet (r := outputRequest) (relativeProject_survey false) rfl
  have hone := (relativeSurvey_stages false).2.2
  cases hcarried : (outputRequest.carryOut (relativeProject false)
      (outputRequest.planOf (relativeSurvey false))).2.result with
  | error e =>
    rw [hcarried] at hone
    cases hone
  | ok result =>
    rw [hcarried] at hone
    obtain ⟨w, hw⟩ := List.length_eq_one_iff.mp (of_decide_eq_true hone)
    have hplaced : w ∈ (outputRequest.placementOf (relativeSurvey false)).placed.map
        PlacedWrapper.wrapper := by
      have hwrappers := (planned_of_carryOut hcarried).1
      rw [hw] at hwrappers
      exact hwrappers ▸ List.mem_singleton_self w
    obtain ⟨p, hp, rfl⟩ := List.mem_map.mp hplaced
    obtain ⟨c, hc, hreached⟩ := reached_of_mem_placed hp
    obtain ⟨imports, hassembles⟩ := assembles_of_reached hc hreached
    have hmem : p.wrapper ∈ result.wrappers := by
      rw [hw]
      exact List.mem_singleton_self p.wrapper
    refine ⟨by decide +kernel, smallRequest_plain, rfl, _, result, relativeProject_survey false,
      hresult.trans hcarried, c, p.wrapper, imports, hassembles, hmem, relativeDirective false,
      relativeDirective_mem hassembles, ?_⟩
    decide +kernel

end SpanWeave.PassRequest
