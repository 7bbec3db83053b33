import SpanWeave.Pass.Generation
import SpanWeave.Proofs.Pass.PoolResults

/-!
# What a pass plans

The plan of a pass is a function of what its survey finds. The number of workers, the order in which
they take up declarations and the records they leave do not enter it, and a request to stop only
decides whether there is a plan at all. The main statements are `planFor_result` for one survey and
`run_cases` for a whole pass.
-/

set_option autoImplicit false

namespace SpanWeave

variable {ε : Type}

/-- What comes of a declaration, without the records. -/
def Outcome.reached (index : SourceIndex) (assembler : Assembler) (c : Candidate) : Outcome :=
  match (assembler.assemble (index.resolve c)).result with
  | .error e => .finding ⟨.failed c.identity e, e.origin?.getD c.origin⟩
  | .ok (_, some w) => .wrapper w
  | .ok (verdict, none) => .finding ⟨.passedOver c.identity verdict, c.origin⟩

/-- Assembling a declaration never breaks off: every failure becomes a finding. -/
theorem Outcome.ofCandidate_result (index : SourceIndex) (assembler : Assembler) (c : Candidate) :
    (Outcome.ofCandidate index assembler c : Traced ε Outcome).result =
      .ok (Outcome.reached index assembler c) := by
  unfold Outcome.ofCandidate Outcome.reached
  rw [Traced.result_bind_of_ok (Traced.result_settle _)]
  match (assembler.assemble (index.resolve c)).result with
  | .error e => rfl
  | .ok (_, some w) => rfl
  | .ok (verdict, none) => rfl

namespace PassRequest

/-- The declarations that a survey keeps, one for each type. -/
def keptOf (survey : Survey) : List Candidate :=
  (Selection.ofCandidates survey.index survey.index.candidates).kept

/-- What comes of the declarations that a survey keeps. -/
def outcomesOf (r : PassRequest) (survey : Survey) : List Outcome :=
  (keptOf survey).map (Outcome.reached survey.index (r.assemblerFor survey.settings))

/-- Where the wrappers of a survey go. -/
def placementOf (r : PassRequest) (survey : Survey) : Placement :=
  Placement.ofWrappers (r.destination survey.settings)
    (sortWrappers ((r.outcomesOf survey).filterMap Outcome.wrapper?))

/-- What is written and what is reported of a survey if nothing stops the pass. -/
def planOf (r : PassRequest) (survey : Survey) : PassPlan :=
  { placed := (r.placementOf survey).placed
    findings :=
      (Selection.ofCandidates survey.index survey.index.candidates).findings ++
        (r.outcomesOf survey).filterMap Outcome.finding? ++ (r.placementOf survey).findings }

/-- The plan for a survey is there unless the last poll shows the request to stop. -/
theorem planFor_result (r : PassRequest) (survey : Survey) :
    (r.planFor survey).result =
      if r.signal.shows (keptOf survey).length then .error .cancelled
      else .ok (r.planOf survey) := by
  have hwork : ∀ c, (Outcome.ofCandidate survey.index (r.assemblerFor survey.settings) c :
      Traced PassError Outcome).result = .ok (Outcome.reached survey.index
        (r.assemblerFor survey.settings) c) :=
    Outcome.ofCandidate_result survey.index (r.assemblerFor survey.settings)
  have hall := Pool.runAll_result (s := r.signal) hwork survey.settings.workers r.order
    (keptOf survey) (r.order_complete _)
  unfold planFor
  rw [Traced.result_note_bind]
  apply (Traced.result_bind_of_ok hall _).trans
  cases r.signal.shows (keptOf survey).length with
  | true => rfl
  | false => rfl

/-- Logging findings never breaks off. -/
theorem noteFindings_result (findings : List Finding) :
    (noteFindings findings : Traced ε Unit).result = .ok () := by
  induction findings with
  | nil => rfl
  | cons f rest ih =>
    unfold noteFindings
    rw [Traced.result_note_bind]
    exact ih

/-- A pass under given settings plans what its survey leads to. -/
theorem planUnder_result (r : PassRequest) (tree : FileTree) (settings : Settings) :
    (r.planUnder tree settings).result =
      (Survey.underSettings tree r.root r.scanSuffix settings).result >>= fun survey =>
        if r.signal.shows (keptOf survey).length then .error .cancelled
        else .ok (r.planOf survey) := by
  unfold planUnder
  rw [Traced.result_bind]
  congr 1
  funext survey
  rw [Traced.result_bind, planFor_result]
  cases r.signal.shows (keptOf survey).length with
  | true => rfl
  | false =>
    show (noteFindings (r.planOf survey).findings >>= fun _ =>
      pure (r.planOf survey) : Traced PassError PassPlan).result = _
    rw [Traced.result_bind_of_ok (noteFindings_result _)]
    rfl

/-- Carrying out a pass depends on its plan only, not on the records left while planning. -/
theorem conclude_of_result (r : PassRequest) (tree : FileTree)
    {planned planned' : Traced PassError PassPlan} (h : planned.result = planned'.result) :
    (r.conclude tree planned).1 = (r.conclude tree planned').1 ∧
      (r.conclude tree planned).2.result = (r.conclude tree planned').2.result := by
  unfold conclude
  rw [h]
  cases planned'.result with
  | ok plan => exact ⟨rfl, rfl⟩
  | error e => exact ⟨rfl, rfl⟩

/-- The settings of a project are those that its document settles. -/
theorem settingsOf_result (tree : FileTree) (root : Path) :
    (Survey.settingsOf tree root).result = (Settings.load tree root).mapError .settings := by
  unfold Survey.settingsOf
  rw [Traced.result_bind, Traced.result_ofExcept]
  cases (Settings.load tree root).mapError PassError.settings with
  | error e => rfl
  | ok settings =>
    show (if tree.holds _ then _ else _ : Traced PassError Settings).result = _
    split <;> rfl

/-- There is no survey of a tree whose settings cannot be loaded. -/
theorem ofTree_of_load_error {tree : FileTree} {root : Path} {suffix : Option String}
    {e : SettingsError} (h : Settings.load tree root = .error e) :
    (Survey.ofTree tree root suffix).result = .error (.settings e) := by
  unfold Survey.ofTree
  rw [Traced.result_bind, settingsOf_result, h]
  rfl

/-- A pass over a tree plans what the survey of the tree leads to. -/
theorem plan_result (r : PassRequest) (tree : FileTree) :
    (r.plan tree).result =
      (Survey.ofTree tree r.root r.scanSuffix).result >>= fun survey =>
        if r.signal.shows (keptOf survey).length then .error .cancelled
        else .ok (r.planOf survey) := by
  unfold plan Survey.ofTree
  rw [Traced.result_note_bind, Traced.result_bind, Traced.result_bind, bind_assoc]
  congr 1
  funext settings
  exact planUnder_result r tree settings

/-- There is no plan for a tree whose settings cannot be loaded. -/
theorem plan_of_load_error {r : PassRequest} {tree : FileTree} {e : SettingsError}
    (h : Settings.load tree r.root = .error e) :
    (r.plan tree).result = .error (.settings e) := by
  rw [plan_result, ofTree_of_load_error h]
  rfl

/-- There is a plan if the tree is surveyed and nothing stops the pass. -/
theorem plan_result_eq_ok {r : PassRequest} {tree : FileTree} {plan : PassPlan} :
    (r.plan tree).result = .ok plan ↔
      ∃ survey, (Survey.ofTree tree r.root r.scanSuffix).result = .ok survey ∧
        r.signal.shows (keptOf survey).length = false ∧ plan = r.planOf survey := by
  rw [plan_result, Traced.except_bind_eq_ok]
  refine exists_congr fun survey => and_congr_right fun _ => ?_
  cases r.signal.shows (keptOf survey).length with
  | true => simp
  | false => simp [eq_comm]

/-- A survey under given settings keeps them, and its index does not depend on the number of
workers. -/
theorem underSettings_workers {tree : FileTree} {root : Path} {suffix : Option String}
    {settings : Settings} {survey : Survey}
    (h : (Survey.underSettings tree root suffix settings).result = .ok survey) (workers : Int) :
    survey.settings = settings ∧
      (Survey.underSettings tree root suffix { settings with workers }).result =
        .ok { survey with settings := { settings with workers } } := by
  unfold Survey.underSettings at *
  obtain ⟨manifest, hmanifest, h⟩ := Traced.result_bind_eq_ok.mp h
  rw [Traced.result_note_bind] at h
  obtain ⟨index, hindex, h⟩ := Traced.result_bind_eq_ok.mp h
  cases h
  refine ⟨rfl, ?_⟩
  rw [Traced.result_bind_of_ok hmanifest, Traced.result_note_bind, Traced.result_bind_of_ok hindex]
  rfl

/-- A tree is surveyed under the settings of its project. -/
theorem ofTree_result_eq_ok {tree : FileTree} {root : Path} {suffix : Option String}
    {survey : Survey} :
    (Survey.ofTree tree root suffix).result = .ok survey ↔
      Settings.load tree root = .ok survey.settings ∧
        (Survey.underSettings tree root suffix survey.settings).result = .ok survey := by
  unfold Survey.ofTree
  rw [Traced.result_bind_eq_ok, settingsOf_result]
  constructor
  · rintro ⟨settings, hsettings, hsurvey⟩
    have hkeeps := (underSettings_workers hsurvey 1).1
    cases hload : Settings.load tree root with
    | error e =>
      rw [hload] at hsettings
      cases hsettings
    | ok loaded =>
      rw [hload] at hsettings
      cases hsettings
      exact ⟨by rw [hkeeps], by rw [hkeeps]; exact hsurvey⟩
  · rintro ⟨hload, hsurvey⟩
    exact ⟨survey.settings, by rw [hload]; rfl, hsurvey⟩

/-- The settings of a survey are those of its project. -/
theorem settings_of_ofTree {tree : FileTree} {root : Path} {suffix : Option String}
    {settings : Settings} {survey : Survey} (hload : Settings.load tree root = .ok settings)
    (hsurvey : (Survey.ofTree tree root suffix).result = .ok survey) :
    survey.settings = settings :=
  Except.ok.inj ((ofTree_result_eq_ok.mp hsurvey).1.symm.trans hload)

/-- A pass over a tree is the pass under the settings of its project. -/
theorem run_eq_runUnder {r : PassRequest} {tree : FileTree} {settings : Settings}
    (h : Settings.load tree r.root = .ok settings) :
    (r.run tree).1 = (r.runUnder tree settings).1 ∧
      (r.run tree).2.result = (r.runUnder tree settings).2.result := by
  apply conclude_of_result
  unfold plan
  rw [Traced.result_note_bind, Traced.result_bind, settingsOf_result, h]
  rfl

/-- A pass that nothing stops carries out the plan for its survey. -/
theorem runUnder_of_quiet {r : PassRequest} {tree : FileTree} {settings : Settings}
    {survey : Survey}
    (hsurvey : (Survey.underSettings tree r.root r.scanSuffix settings).result = .ok survey)
    (hquiet : r.signal.shows (keptOf survey).length = false) :
    (r.runUnder tree settings).1 = (r.carryOut tree (r.planOf survey)).1 ∧
      (r.runUnder tree settings).2.result = (r.carryOut tree (r.planOf survey)).2.result := by
  have hplan : (r.planUnder tree settings).result = .ok (r.planOf survey) := by
    rw [planUnder_result, hsurvey]
    show (if _ then _ else _) = _
    rw [if_neg (by simp [hquiet])]
  unfold runUnder conclude
  rw [hplan]
  exact ⟨rfl, rfl⟩

/-- A pass without a plan leaves the tree as it is. -/
theorem conclude_of_error (r : PassRequest) (tree : FileTree)
    {planned : Traced PassError PassPlan} {e : PassError} (h : planned.result = .error e) :
    (r.conclude tree planned).1 = tree ∧ (r.conclude tree planned).2.result = .error e := by
  unfold conclude
  rw [h]
  exact ⟨rfl, rfl⟩

/-- What a pass yields is what it has planned. -/
theorem planned_of_carryOut {r : PassRequest} {tree : FileTree} {plan : PassPlan}
    {result : PassResult} (h : (r.carryOut tree plan).2.result = .ok result) :
    result.wrappers = plan.placed.map PlacedWrapper.wrapper ∧ result.findings = plan.findings := by
  unfold carryOut at h
  dsimp only at h
  split at h
  · rw [Traced.result_note_bind] at h
    cases h
    exact ⟨rfl, rfl⟩
  · obtain ⟨_, -, h⟩ := Traced.result_bind_eq_ok.mp h
    rw [Traced.result_note_bind] at h
    cases h
    exact ⟨rfl, rfl⟩

/-- A pass that yields a result has a plan, and yields what it has planned. -/
theorem exists_plan_of_run {r : PassRequest} {tree : FileTree} {result : PassResult}
    (hrun : (r.run tree).2.result = .ok result) :
    ∃ plan, (r.plan tree).result = .ok plan ∧
      result.wrappers = plan.placed.map PlacedWrapper.wrapper ∧
        result.findings = plan.findings := by
  unfold run conclude at hrun
  cases hplan : (r.plan tree).result with
  | error e =>
    rw [hplan] at hrun
    cases hrun
  | ok plan =>
    rw [hplan] at hrun
    exact ⟨plan, rfl, planned_of_carryOut hrun⟩

/-- A pass that is stopped leaves the tree as it is and says that it was stopped. -/
theorem runUnder_of_stopped {r : PassRequest} {tree : FileTree} {settings : Settings}
    {survey : Survey}
    (hsurvey : (Survey.underSettings tree r.root r.scanSuffix settings).result = .ok survey)
    (hshows : r.signal.shows (keptOf survey).length = true) :
    (r.runUnder tree settings).1 = tree ∧
      (r.runUnder tree settings).2.result = .error .cancelled := by
  apply r.conclude_of_error
  rw [planUnder_result, hsurvey]
  show (if _ then _ else _) = _
  rw [if_pos hshows]

/-- A pass over a surveyed tree that nothing stops carries out the plan for the survey. -/
theorem run_of_quiet {r : PassRequest} {tree : FileTree} {survey : Survey}
    (hsurvey : (Survey.ofTree tree r.root r.scanSuffix).result = .ok survey)
    (hquiet : r.signal.shows (keptOf survey).length = false) :
    (r.run tree).1 = (r.carryOut tree (r.planOf survey)).1 ∧
      (r.run tree).2.result = (r.carryOut tree (r.planOf survey)).2.result := by
  obtain ⟨hload, hunder⟩ := ofTree_result_eq_ok.mp hsurvey
  have hsame := run_eq_runUnder hload
  have hrun := runUnder_of_quiet hunder hquiet
  exact ⟨hsame.1.trans hrun.1, hsame.2.trans hrun.2⟩

/-- A pass breaks off and leaves the tree as it is, or it has surveyed the tree, nothing has stopped
it, and it carries out the plan for the survey. -/
theorem run_cases (r : PassRequest) (tree : FileTree) :
    ((r.run tree).1 = tree ∧ ∃ e, (r.run tree).2.result = .error e) ∨
      ∃ survey, (Survey.ofTree tree r.root r.scanSuffix).result = .ok survey ∧
        r.signal.shows (keptOf survey).length = false ∧
          (r.run tree).1 = (r.carryOut tree (r.planOf survey)).1 ∧
            (r.run tree).2.result = (r.carryOut tree (r.planOf survey)).2.result := by
  cases hload : Settings.load tree r.root with
  | error e =>
    obtain ⟨hleft, hresult⟩ := r.conclude_of_error tree (plan_of_load_error hload)
    exact Or.inl ⟨hleft, _, hresult⟩
  | ok settings =>
    have hrun := run_eq_runUnder hload
    cases hunder : (Survey.underSettings tree r.root r.scanSuffix settings).result with
    | error e =>
      have hplan : (r.planUnder tree settings).result = .error e := by
        rw [planUnder_result, hunder]
        rfl
      obtain ⟨hleft, hresult⟩ := r.conclude_of_error tree hplan
      exact Or.inl ⟨hrun.1.trans hleft, _, hrun.2.trans hresult⟩
    | ok survey =>
      have hsurvey : (Survey.ofTree tree r.root r.scanSuffix).result = .ok survey := by
        rw [ofTree_result_eq_ok, (underSettings_workers hunder 1).1]
        exact ⟨hload, hunder⟩
      cases hshows : r.signal.shows (keptOf survey).length with
      | false => exact Or.inr ⟨survey, hsurvey, hshows, run_of_quiet hsurvey hshows⟩
      | true =>
        obtain ⟨hleft, hresult⟩ := runUnder_of_stopped hunder hshows
        exact Or.inl ⟨hrun.1.trans hleft, _, hrun.2.trans hresult⟩

/-- A pass that yields a result has surveyed its tree, and nothing has stopped it. -/
theorem exists_survey_of_run {r : PassRequest} {tree : FileTree} {result : PassResult}
    (hrun : (r.run tree).2.result = .ok result) :
    ∃ survey, (Survey.ofTree tree r.root r.scanSuffix).result = .ok survey ∧
      r.signal.shows (keptOf survey).length = false := by
  rcases r.run_cases tree with ⟨-, e, he⟩ | ⟨survey, hsurvey, hquiet, -⟩
  · rw [he] at hrun
    cases hrun
  · exact ⟨survey, hsurvey, hquiet⟩

end PassRequest

end SpanWeave
