import SpanWeave.Proofs.Pass.PlacementResults
import SpanWeave.Proofs.Pass.SelectionResults
import SpanWeave.Proofs.Pass.SurveyResults
import SpanWeave.Proofs.Wrapper.AssemblyResults

/-!
# Every marked declaration is accounted for

Whatever a check reports of a tree, a pass over the same tree settles: each reported declaration
comes to one wrapper of its own or to one finding about it. The account goes through the stages of a
pass. Selection keeps a declaration or passes it by, assembly makes a wrapper of a kept one or says
why not, and placement puts the wrapper in its place or says why not.
-/

set_option autoImplicit false

namespace SpanWeave

/-- What a declaration that a check reports comes to, given the declarations that are kept. -/
def CandidateReport.Fate (kept : List Candidate) (report : CandidateReport) : Outcome → Prop
  | .wrapper w =>
    report.candidate ∈ kept ∧ report.verdict = .eligible ∧ w.origin = report.candidate.origin
  | .finding f =>
    (report.candidate ∉ kept ∧ f.diagnostic.severity = .warning ∧
      f.diagnostic.code = "duplicate" ∧ f.diagnostic.origin = some report.candidate.origin) ∨
    (report.candidate ∈ kept ∧ report.verdict ≠ .eligible ∧ f.diagnostic.severity = .info ∧
      f.diagnostic.code = report.verdict.code ∧
        f.diagnostic.origin = some report.candidate.origin) ∨
    (report.candidate ∈ kept ∧ report.verdict = .eligible ∧ f.diagnostic.severity = .error)

/-- A reported declaration and its fate in a pass: the wrappers at its location are the one that it
comes to, or none. -/
structure CandidateReport.SettledBy (kept : List Candidate) (wrappers : List WrapperModule)
    (report : CandidateReport) (fate : Outcome) : Prop where
  fits : report.Fate kept fate
  alone : (wrappers.filter fun w => w.origin == report.candidate.origin) = fate.wrapper?.toList

/-- The marked declarations of a faithful index have different locations. -/
theorem SourceIndex.Faithful.candidates_distinct {tree : FileTree} {root : Path}
    {index : SourceIndex} (h : index.Faithful tree root) :
    (index.candidates.map Candidate.origin).Nodup := by
  have hperm : index.candidates.Perm ((index.classes.filter fun c =>
      c.declaration.carries index.marker).map IndexedClass.candidate) := List.mergeSort_perm _ _
  rw [(hperm.map _).nodup_iff, List.map_map]
  exact (List.filter_sublist.map _).nodup h.distinct

namespace PassRequest

variable {r : PassRequest} {survey : Survey}

/-- A pass that yields a result yields the wrappers and the findings of its plan. -/
theorem planned_of_run {tree : FileTree} {result : PassResult}
    (hrun : (r.run tree).2.result = .ok result) :
    ∃ survey, (Survey.ofTree tree r.root r.scanSuffix).result = .ok survey ∧
      result.wrappers = (r.placementOf survey).placed.map PlacedWrapper.wrapper ∧
        result.findings = (r.planOf survey).findings := by
  obtain ⟨survey, hsurvey, hquiet⟩ := exists_survey_of_run hrun
  refine ⟨survey, hsurvey, ?_⟩
  rw [(run_of_quiet hsurvey hquiet).2] at hrun
  exact planned_of_carryOut hrun

/-- The fate of a declaration that a survey marks. -/
def FateIn (survey : Survey) (c : Candidate) : Outcome → Prop :=
  CandidateReport.Fate (keptOf survey) ⟨c, survey.index.verdict c⟩

/-- A kept declaration and what assembling it comes to. -/
def AssembledIn (r : PassRequest) (survey : Survey) (c : Candidate) (o : Outcome) : Prop :=
  c ∈ keptOf survey ∧ o = Outcome.reached survey.index (r.assemblerFor survey.settings) c

/-- What stands against assembling a kept declaration is its fate. -/
theorem fateIn_of_failed {c : Candidate} {f : Finding}
    (h : r.AssembledIn survey c (.finding f)) : FateIn survey c (.finding f) := by
  obtain ⟨hkept, hreached⟩ := h
  by_cases heligible : survey.index.verdict c = .eligible
  · rcases Outcome.reached_of_eligible (a := r.assemblerFor survey.settings) heligible with
      ⟨w, hw, -⟩ | ⟨e, he⟩
    · rw [hw] at hreached
      cases hreached
    · rw [he] at hreached
      cases hreached
      exact Or.inr (Or.inr ⟨hkept, heligible, rfl⟩)
  · rw [Outcome.reached_of_ineligible heligible] at hreached
    cases hreached
    exact Or.inr (Or.inl ⟨hkept, heligible, rfl, rfl, rfl⟩)

/-- What placing the wrapper of a kept declaration comes to is its fate. -/
theorem fateIn_of_settled {c : Candidate} {w : WrapperModule} {o : Outcome}
    (h : r.AssembledIn survey c (.wrapper w)) (hsettled : Placement.Settles w o) :
    FateIn survey c o := by
  obtain ⟨hkept, hreached⟩ := h
  obtain ⟨heligible, hasked⟩ := Outcome.askedBy_of_reached hreached.symm
  cases o with
  | wrapper placed =>
    have hsame : placed = w := hsettled
    rw [hsame]
    exact ⟨hkept, heligible, hasked.origin⟩
  | finding f => exact Or.inr (Or.inr ⟨hkept, heligible, hsettled.1⟩)

/-- Assembly and placement account for the kept declarations. -/
theorem keptOf_accounts (r : PassRequest) (survey : Survey) :
    Accounts (FateIn survey) (keptOf survey)
      ((r.placementOf survey).placed.map PlacedWrapper.wrapper)
      ((r.outcomesOf survey).filterMap Outcome.finding? ++ (r.placementOf survey).findings) := by
  have hassembled : List.Forall₂ (r.AssembledIn survey) (keptOf survey) (r.outcomesOf survey) := by
    unfold outcomesOf
    rw [List.forall₂_map_right_iff, List.forall₂_same]
    intro c hc
    exact ⟨hc, rfl⟩
  have hsorted : (sortWrappers ((r.outcomesOf survey).filterMap Outcome.wrapper?)).Perm
      ((r.outcomesOf survey).filterMap Outcome.wrapper?) := List.mergeSort_perm _ _
  have hplaced := (Placement.ofWrappers_accounts (r.destination survey.settings) _).perm hsorted
  exact hplaced.refine hassembled (fun _ _ => fateIn_of_failed) fun _ _ _ => fateIn_of_settled

/-- The plan of a pass accounts for all marked declarations of a survey, if these differ in their
locations. -/
theorem planOf_accounts (r : PassRequest) (survey : Survey)
    (hdistinct : (survey.index.candidates.map Candidate.origin).Nodup) :
    Accounts (FateIn survey) survey.index.candidates
      ((r.placementOf survey).placed.map PlacedWrapper.wrapper) (r.planOf survey).findings := by
  obtain ⟨others, hperm, hpassed⟩ :=
    Selection.ofCandidates_spec survey.index survey.index.candidates
  have hnodup : (keptOf survey ++ others).Nodup := hperm.nodup_iff.mpr hdistinct.of_map
  have hothers : ∀ c ∈ others, c ∉ keptOf survey := by
    intro c hc hkept
    exact (List.nodup_append.mp hnodup).2.2 c hkept c hc rfl
  -- those passed by come to no wrapper
  have hduplicates : Accounts (FateIn survey) others []
      (Selection.ofCandidates survey.index survey.index.candidates).findings := by
    apply Accounts.of_findings
    refine ((List.forall₂_and_left _ _).mpr ⟨hothers, hpassed⟩).imp ?_
    rintro c f ⟨hc, k, -, -, rfl⟩
    exact Or.inl ⟨hc, rfl, rfl, rfl⟩
  have hall := (hduplicates.append (r.keptOf_accounts survey)).perm
    (List.perm_append_comm.trans hperm)
  unfold planOf
  dsimp only
  rw [List.append_assoc]
  exact hall

/-- The wrapper that a declaration comes to stands at the declaration. -/
theorem standsAt_of_fateIn {c : Candidate} {o : Outcome} (h : FateIn survey c o) :
    o.StandsAt c.origin := by
  cases o with
  | wrapper w => exact h.2.2
  | finding f => trivial

/-- What is kept is a marked declaration. -/
theorem mem_candidates_of_mem_keptOf {c : Candidate} (h : c ∈ keptOf survey) :
    c ∈ survey.index.candidates := by
  obtain ⟨others, hperm, -⟩ := Selection.ofCandidates_spec survey.index survey.index.candidates
  exact hperm.mem_iff.mp (List.mem_append_left others h)

/-- A pass that accounts for all marked declarations fails exactly if an eligible one that is kept
has no wrapper. -/
theorem failed_iff {result : PassResult} {fates : List Outcome}
    (hfates : List.Forall₂ (fun c o => CandidateReport.SettledBy (keptOf survey) result.wrappers
      ⟨c, survey.index.verdict c⟩ o) survey.index.candidates fates)
    (hfindings : result.findings.Perm (fates.filterMap Outcome.finding?)) :
    result.failed = true ↔
      ∃ c ∈ keptOf survey, survey.index.verdict c = .eligible ∧
        ∀ w ∈ result.wrappers, w.origin ≠ c.origin := by
  unfold PassResult.failed
  rw [List.any_eq_true]
  constructor
  · rintro ⟨f, hf, herror⟩
    rw [beq_iff_eq] at herror
    obtain ⟨o, ho, hof⟩ := List.mem_filterMap.mp (hfindings.mem_iff.mp hf)
    obtain ⟨c, -, hfits, halone⟩ := exists_left_of_forall₂ hfates ho
    cases o with
    | wrapper w => cases hof
    | finding f' =>
      cases hof
      rcases hfits with ⟨-, hwarning, -⟩ | ⟨-, -, hinfo, -⟩ | ⟨hkept, heligible, -⟩
      · have hseverity : f.cause.severity = .warning := hwarning
        rw [herror] at hseverity
        cases hseverity
      · have hseverity : f.cause.severity = .info := hinfo
        rw [herror] at hseverity
        cases hseverity
      · refine ⟨c, hkept, heligible, ?_⟩
        intro w hw heq
        exact List.filter_eq_nil_iff.mp halone w hw (by simpa using heq)
  · rintro ⟨c, hkept, heligible, hnone⟩
    obtain ⟨o, ho, hfits, halone⟩ := exists_right_of_forall₂ hfates (mem_candidates_of_mem_keptOf hkept)
    cases o with
    | wrapper w =>
      have hw : w ∈ result.wrappers.filter fun w => w.origin == c.origin := by
        rw [halone]
        exact List.mem_singleton_self w
      obtain ⟨hmem, horigin⟩ := List.mem_filter.mp hw
      exact absurd (by simpa using horigin) (hnone w hmem)
    | finding f =>
      rcases hfits with ⟨hpassed, -⟩ | ⟨-, hineligible, -⟩ | ⟨-, -, herror⟩
      · exact absurd hkept hpassed
      · exact absurd heligible hineligible
      · refine ⟨f, hfindings.mem_iff.mpr (List.mem_filterMap.mpr ⟨_, ho, rfl⟩), ?_⟩
        exact beq_iff_eq.mpr herror

/-- A pass settles what a check of the same tree reports. The reported declarations come to one
wrapper or one finding each, and these are all wrappers and all findings of the pass. One that is
not eligible is passed over with its verdict or is a duplicate; an eligible one gets a wrapper, is a
duplicate, or comes to an error. The pass has failed exactly if an eligible declaration that is kept
has no wrapper. -/
theorem run_settles_reports (r : PassRequest) (tree : FileTree) (result : PassResult)
    (htree : tree.WellFormed) (hroot : r.root.IsPlain)
    (hrun : (r.run tree).2.result = .ok result) :
    ∃ survey, (Survey.ofTree tree r.root r.scanSuffix).result = .ok survey ∧
      let kept := (Selection.ofCandidates survey.index survey.index.candidates).kept
      (∃ fates : List Outcome,
        List.Forall₂ (CandidateReport.SettledBy kept result.wrappers) survey.reports fates ∧
          result.wrappers.Perm (fates.filterMap Outcome.wrapper?) ∧
            result.findings.Perm (fates.filterMap Outcome.finding?)) ∧
        result.wrappers.length + result.findings.length = survey.reports.length ∧
          (result.failed = true ↔
            ∃ report ∈ survey.reports, report.candidate ∈ kept ∧ report.verdict = .eligible ∧
              ∀ w ∈ result.wrappers, w.origin ≠ report.candidate.origin) := by
  obtain ⟨survey, hsurvey, hwrappers, hfindings⟩ := planned_of_run hrun
  have hdistinct := (Survey.faithful_of_ofTree htree hroot hsurvey).candidates_distinct
  have haccounts := r.planOf_accounts survey hdistinct
  rw [← hwrappers, ← hfindings] at haccounts
  obtain ⟨fates, hfates, hws, hfs⟩ := id haccounts
  -- the wrappers at a location are found among the fates, and there is at most one
  have hsettled : List.Forall₂ (fun c o => CandidateReport.SettledBy (keptOf survey)
      result.wrappers ⟨c, survey.index.verdict c⟩ o) survey.index.candidates fates := by
    refine List.Forall₂.mp ?_ hfates (wrappers_at (hfates.imp fun _ _ => standsAt_of_fateIn)
      hdistinct)
    intro c o hfits halone
    refine ⟨hfits, ?_⟩
    have hperm := hws.filter fun w => w.origin == c.origin
    rw [halone] at hperm
    cases o with
    | wrapper w => exact List.perm_singleton.mp hperm
    | finding f => exact List.perm_nil.mp hperm
  refine ⟨survey, hsurvey, ⟨fates, ?_, hws, hfs⟩, ?_, ?_⟩
  · unfold Survey.reports
    rw [List.forall₂_map_left_iff]
    exact hsettled
  · rw [haccounts.length_eq, Survey.reports, List.length_map]
  · rw [failed_iff hsettled hfs]
    constructor
    · rintro ⟨c, hkept, heligible, hnone⟩
      exact ⟨⟨c, survey.index.verdict c⟩,
        List.mem_map.mpr ⟨c, mem_candidates_of_mem_keptOf hkept, rfl⟩, hkept, heligible, hnone⟩
    · rintro ⟨report, hreport, hkept, heligible, hnone⟩
      obtain ⟨c, -, rfl⟩ := List.mem_map.mp hreport
      exact ⟨c, hkept, heligible, hnone⟩

/-- The five declarations that a check of the mixed project reports come to two wrappers and three
findings, and the pass has failed: a kept declaration is eligible and has no wrapper. -/
theorem run_settles_reports_mixedProject :
    ∃ result, (mixedRequest.run mixedProject).2.result = .ok result ∧
      (∃ fates : List Outcome,
        List.Forall₂ (CandidateReport.SettledBy (keptOf mixedSurvey) result.wrappers)
            mixedSurvey.reports fates ∧
          (fates.filterMap Outcome.wrapper?).length = 2 ∧
            (fates.filterMap Outcome.finding?).length = 3) ∧
        mixedSurvey.reports.length = 5 ∧
          ∃ report ∈ mixedSurvey.reports, report.candidate ∈ keptOf mixedSurvey ∧
            report.verdict = .eligible ∧
              ∀ w ∈ result.wrappers, w.origin ≠ report.candidate.origin := by
  obtain ⟨hfive, -, result, hrun, htwo, hcodes, hfailed⟩ := mixedRequest_run
  obtain ⟨survey, hsurvey, ⟨fates, hfates, hws, hfs⟩, -, hexact⟩ :=
    run_settles_reports mixedRequest mixedProject result mixedProject_wellFormed
      mixedRequest_plain hrun
  have hsame : survey = mixedSurvey := Except.ok.inj (hsurvey.symm.trans mixedProject_survey)
  subst hsame
  have hthree : result.findings.length = 3 := by
    rw [← List.length_map (fun f => f.diagnostic.code), hcodes]
    rfl
  exact ⟨result, hrun, ⟨fates, hfates, hws.length_eq.symm.trans htwo,
    hfs.length_eq.symm.trans hthree⟩, hfive, hexact.mp hfailed⟩

end PassRequest

end SpanWeave
