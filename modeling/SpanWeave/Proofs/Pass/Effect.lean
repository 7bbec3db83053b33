import SpanWeave.Proofs.Pass.Targets

/-!
# The effect of a pass

Writing one wrapper changes the place of its target and makes at most folders. As the targets of a
pass are at different places, no write undoes another one: in the end each target holds its wrapper
and every other file is as it was. A rehearsal comes to the same wrappers and findings and changes
nothing.
-/

set_option autoImplicit false

namespace SpanWeave.PassRequest

open FileTree (ChangedOnly)

/-! ## Writing wrappers -/

/-- Writing one wrapper puts it at its target and changes no other place but for new folders. -/
theorem writeOne_eq_ok {tree u : FileTree} {p : PlacedWrapper} (h : writeOne tree p = .ok u) :
    ChangedOnly tree u [p.target.place] ∧
      u.at? p.target = some (.file (Text.encode p.wrapper.text)) := by
  obtain ⟨grown, hfolders, hwrite⟩ := Traced.except_bind_eq_ok.mp h
  obtain ⟨hlocate, hfree, rfl⟩ := FileTree.write_eq_ok.mp hwrite
  have hset := FileTree.changedOnly_of_set hfree (Text.encode p.wrapper.text)
  refine ⟨(FileTree.changedOnly_of_ensureFolders hfolders).trans hset, ?_⟩
  refine FileTree.at?_eq_some.mpr ⟨FileTree.locate_mono hset.folders hlocate, ?_⟩
  rw [FileTree.entryAt?_set (FileTree.place_ne_nil hfree), if_pos rfl]

/-- Writing succeeds if each wrapper can be written after those before it. -/
theorem writeAll_cons_eq_ok {tree : FileTree} {p : PlacedWrapper} {rest : List PlacedWrapper}
    (h : (writeAll tree (p :: rest)).2.result = .ok ()) :
    ∃ grown, writeOne tree p = .ok grown ∧ (writeAll grown rest).2.result = .ok () ∧
      (writeAll tree (p :: rest)).1 = (writeAll grown rest).1 := by
  rw [writeAll] at h ⊢
  cases hone : writeOne tree p with
  | error e =>
    rw [hone] at h
    cases h
  | ok grown =>
    rw [hone] at h
    dsimp only at h
    rw [Traced.result_note_bind] at h
    exact ⟨grown, rfl, h, rfl⟩

/-- Wrappers for different places are all there when they have been written, and no other place has
changed but for new folders. -/
theorem writeAll_spec {placed : List PlacedWrapper} {tree : FileTree}
    (h : (writeAll tree placed).2.result = .ok ())
    (hplaces : (placed.map fun p => p.target.place).Nodup) :
    ChangedOnly tree (writeAll tree placed).1 (placed.map fun p => p.target.place) ∧
      ∀ p ∈ placed,
        (writeAll tree placed).1.read p.target = .ok (Text.encode p.wrapper.text) := by
  induction placed generalizing tree with
  | nil => exact ⟨ChangedOnly.refl tree, fun p hp => absurd hp List.not_mem_nil⟩
  | cons p rest ih =>
    obtain ⟨grown, hone, hrest, hfinal⟩ := writeAll_cons_eq_ok h
    rw [List.map_cons, List.nodup_cons] at hplaces
    obtain ⟨hchanged, hreads⟩ := ih hrest hplaces.2
    obtain ⟨hfirst, hthere⟩ := writeOne_eq_ok hone
    rw [hfinal]
    refine ⟨hfirst.trans hchanged, ?_⟩
    intro q hq
    rcases List.mem_cons.mp hq with rfl | hq
    · -- the later writes keep the file of the first one
      obtain ⟨hlocate, hentry⟩ := FileTree.at?_eq_some.mp hthere
      exact FileTree.read_eq_ok.mpr (FileTree.at?_eq_some.mpr
        ⟨FileTree.locate_mono hchanged.folders hlocate,
          (hchanged.file_iff hplaces.1 _).mpr hentry⟩)
    · exact hreads q hq

/-! ## Rehearsals and passes that write -/

variable {r : PassRequest} {tree : FileTree} {survey : Survey}

/-- A rehearsal leaves the tree as it is. -/
theorem run_rehearsal_fst (r : PassRequest) (tree : FileTree) :
    ({ r with rehearsal := true }.run tree).1 = tree := by
  unfold run conclude
  split
  · rfl
  · unfold carryOut
    rfl

/-- A rehearsal of a surveyed tree that nothing stops comes to the plan. -/
theorem run_rehearsal_result
    (hsurvey : (Survey.ofTree tree r.root r.scanSuffix).result = .ok survey)
    (hquiet : r.signal.shows (keptOf survey).length = false) :
    ({ r with rehearsal := true }.run tree).2.result =
      .ok ⟨(r.placementOf survey).placed.map PlacedWrapper.wrapper, (r.planOf survey).findings,
        []⟩ := by
  rw [(run_of_quiet (r := { r with rehearsal := true }) hsurvey hquiet).2]
  rfl

/-- A pass that writes and yields a result has written its plan. -/
theorem written_of_run {result : PassResult}
    (hrun : ({ r with rehearsal := false }.run tree).2.result = .ok result) :
    ∃ survey, (Survey.ofTree tree r.root r.scanSuffix).result = .ok survey ∧
      r.signal.shows (keptOf survey).length = false ∧
        (writeAll tree (r.placementOf survey).placed).2.result = .ok () ∧
          ({ r with rehearsal := false }.run tree).1 =
            (writeAll tree (r.placementOf survey).placed).1 ∧
              result = ⟨(r.placementOf survey).placed.map PlacedWrapper.wrapper,
                (r.planOf survey).findings,
                (r.placementOf survey).placed.map PlacedWrapper.target⟩ := by
  obtain ⟨survey, hsurvey, hquiet⟩ := exists_survey_of_run hrun
  obtain ⟨hfinal, hresult⟩ :=
    run_of_quiet (r := { r with rehearsal := false }) hsurvey hquiet
  rw [hresult] at hrun
  obtain ⟨_, hwritten, hrun⟩ := Traced.result_bind_eq_ok.mp hrun
  rw [Traced.result_note_bind] at hrun
  cases hrun
  exact ⟨survey, hsurvey, hquiet, hwritten, hfinal, rfl⟩

/-- A rehearsal changes nothing. If a pass that writes yields a result, the rehearsal comes to the
same wrappers and findings; one path has been written for each wrapper, in order and all of them
different; each written file holds the text of its wrapper; and every other file holds what it held
before. -/
theorem run_writes_wrappers_only (r : PassRequest) (tree : FileTree) (htree : tree.WellFormed)
    (hroot : r.root.IsPlain)
    (hsuffix : ∀ settings, Settings.load tree r.root = .ok settings →
      '/' ∉ (r.assemblerFor settings).suffix.toList) :
    let rehearsed := { r with rehearsal := true }.run tree
    let carried := { r with rehearsal := false }.run tree
    rehearsed.1 = tree ∧
      ∀ result, carried.2.result = .ok result →
        rehearsed.2.result = .ok { result with written := [] } ∧
          result.written.length = result.wrappers.length ∧ result.written.Nodup ∧
            (∀ path w, (path, w) ∈ result.written.zip result.wrappers →
              carried.1.read path = .ok (Text.encode w.text)) ∧
              ∀ place, (∀ path ∈ result.written, path.place ≠ place) → ∀ content,
                (carried.1.entryAt? place = some (.file content) ↔
                  tree.entryAt? place = some (.file content)) := by
  refine ⟨run_rehearsal_fst r tree, ?_⟩
  intro result hrun
  obtain ⟨survey, hsurvey, hquiet, hwritten, hfinal, rfl⟩ := written_of_run hrun
  have hindex := Survey.faithful_of_ofTree htree hroot hsurvey
  have hplaces := nodup_places (r := r) htree hroot hindex
    (hsuffix _ (ofTree_result_eq_ok.mp hsurvey).1)
  obtain ⟨hchanged, hreads⟩ := writeAll_spec hwritten hplaces
  refine ⟨run_rehearsal_result hsurvey hquiet, by simp, ?_, ?_, ?_⟩
  · exact (Placement.ofWrappers_progress _ _).distinct
  · intro path w hmem
    rw [List.zip_map'] at hmem
    obtain ⟨p, hp, heq⟩ := List.mem_map.mp hmem
    cases heq
    rw [hfinal]
    exact hreads p hp
  · intro place hplace content
    rw [hfinal]
    refine hchanged.file_iff ?_ content
    intro hmem
    obtain ⟨p, hp, heq⟩ := List.mem_map.mp hmem
    exact hplace p.target (List.mem_map.mpr ⟨p, hp, rfl⟩) heq

/-- The two wrappers of the mixed project are written to two paths. -/
theorem run_writes_wrappers_only_mixedProject :
    ∃ result, (mixedRequest.run mixedProject).2.result = .ok result ∧
      result.wrappers.length = 2 ∧ result.written.length = 2 ∧ result.written.Nodup ∧
        ∀ path w, (path, w) ∈ result.written.zip result.wrappers →
          (mixedRequest.run mixedProject).1.read path = .ok (Text.encode w.text) := by
  obtain ⟨-, -, result, hrun, htwo, -⟩ := mixedRequest_run
  have hsuffix : ∀ settings, Settings.load mixedProject mixedRequest.root = .ok settings →
      '/' ∉ (mixedRequest.assemblerFor settings).suffix.toList := by
    intro settings hload
    rw [mixedProject_load] at hload
    cases hload
    decide
  obtain ⟨-, heffect⟩ := run_writes_wrappers_only mixedRequest mixedProject
    mixedProject_wellFormed mixedRequest_plain hsuffix
  obtain ⟨-, hlength, hnodup, hreads, -⟩ := heffect result hrun
  exact ⟨result, hrun, htwo, hlength.trans htwo, hnodup, hreads⟩

end SpanWeave.PassRequest
