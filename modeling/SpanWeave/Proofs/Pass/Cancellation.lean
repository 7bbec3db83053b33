import SpanWeave.Proofs.Pass.SurveyResults

/-!
# Stopping a pass

A pass is stopped as a whole or not at all. Every kept declaration is asked about once and the pass
asks once more at the end, so a request to stop counts exactly if it shows no later than that last
poll; then nothing is written. Otherwise it leaves no trace, whatever the number of workers and the
order of their work.
-/

set_option autoImplicit false

namespace SpanWeave.PassRequest

/-- A request to stop that shows after `n` quiet polls stops a pass over `k` kept declarations if
`n ≤ k`: the pass fails and the tree stays as it was. Otherwise the pass yields the same result and
leaves the same tree as without a request to stop, and as one worker does without one. -/
theorem run_stopped_or_complete (r : PassRequest) (tree : FileTree) (result : PassResult) (n : Nat)
    (hrun : ({ r with signal := {} }.run tree).2.result = .ok result) :
    ∃ survey, (Survey.ofTree tree r.root r.scanSuffix).result = .ok survey ∧
      let free := { r with signal := {} }.run tree
      let alone := { r with signal := {} }.runUnder tree { survey.settings with workers := 1 }
      let signalled := { r with signal := ⟨some n⟩ }.run tree
      let kept := (Selection.ofCandidates survey.index survey.index.candidates).kept
      (n ≤ kept.length → signalled.2.result = .error .cancelled ∧ signalled.1 = tree) ∧
        (kept.length < n →
          signalled.2.result = .ok result ∧ signalled.1 = free.1 ∧
            alone.2.result = .ok result ∧ signalled.1 = alone.1) := by
  obtain ⟨survey, hsurvey, -⟩ := exists_survey_of_run hrun
  obtain ⟨hload, hunder⟩ := ofTree_result_eq_ok.mp hsurvey
  have hfree := run_of_quiet (r := { r with signal := {} }) hsurvey
    (StopSignal.shows_default _)
  -- the plan does not mention the signal, so the three passes carry out the same one
  have hresult : (r.carryOut tree (r.planOf survey)).2.result = .ok result :=
    hfree.2.symm.trans hrun
  refine ⟨survey, hsurvey, ?_, ?_⟩
  · intro hn
    have hshows : ({ r with signal := ⟨some n⟩ } : PassRequest).signal.shows
        (keptOf survey).length = true := by
      rw [StopSignal.shows_after, decide_eq_true_eq]
      exact hn
    have hsame := run_eq_runUnder (r := { r with signal := ⟨some n⟩ }) hload
    have hstopped := runUnder_of_stopped (r := { r with signal := ⟨some n⟩ }) hunder hshows
    exact ⟨hsame.2.trans hstopped.2, hsame.1.trans hstopped.1⟩
  · intro hn
    have hquiet : ({ r with signal := ⟨some n⟩ } : PassRequest).signal.shows
        (keptOf survey).length = false := by
      rw [StopSignal.shows_after, decide_eq_false_iff_not, Nat.not_le]
      exact hn
    have hsignalled := run_of_quiet (r := { r with signal := ⟨some n⟩ }) hsurvey hquiet
    have halone := runUnder_of_quiet (r := { r with signal := {} })
      (underSettings_workers hunder 1).2 (StopSignal.shows_default _)
    exact ⟨hsignalled.2.trans hresult, hsignalled.1.trans hfree.1.symm, halone.2.trans hresult,
      hsignalled.1.trans halone.1.symm⟩

/-- Of the mixed project four declarations are kept. A request to stop that shows after four quiet
polls still stops the pass, and one that shows a poll later leaves no trace. -/
theorem run_stopped_or_complete_mixedProject :
    ∃ result, (mixedRequest.run mixedProject).2.result = .ok result ∧
      result.wrappers.length = 2 ∧
        ({ mixedRequest with signal := ⟨some 4⟩ }.run mixedProject).2.result =
            .error .cancelled ∧
          ({ mixedRequest with signal := ⟨some 4⟩ }.run mixedProject).1 = mixedProject ∧
            ({ mixedRequest with signal := ⟨some 5⟩ }.run mixedProject).2.result = .ok result ∧
              ({ mixedRequest with signal := ⟨some 5⟩ }.run mixedProject).1 =
                (mixedRequest.runUnder mixedProject { mixedSettings with workers := 1 }).1 := by
  obtain ⟨-, hfour, result, hrun, htwo, -⟩ := mixedRequest_run
  obtain ⟨survey, hsurvey, hstopped, -⟩ :=
    run_stopped_or_complete mixedRequest mixedProject result 4 hrun
  obtain ⟨survey', hsurvey', -, hcomplete⟩ :=
    run_stopped_or_complete mixedRequest mixedProject result 5 hrun
  have hsame : survey = mixedSurvey := Except.ok.inj (hsurvey.symm.trans mixedProject_survey)
  have hsame' : survey' = mixedSurvey := Except.ok.inj (hsurvey'.symm.trans mixedProject_survey)
  subst hsame
  subst hsame'
  obtain ⟨hcancelled, hleft⟩ := hstopped (Nat.le_of_eq hfour.symm)
  obtain ⟨hresult, -, -, halone⟩ := hcomplete (Nat.lt_succ_of_le (Nat.le_of_eq hfour))
  exact ⟨result, hrun, htwo, hcancelled, hleft, hresult, halone⟩

end SpanWeave.PassRequest
