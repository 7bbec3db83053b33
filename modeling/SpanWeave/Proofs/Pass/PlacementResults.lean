import Mathlib.Data.List.Induction
import SpanWeave.Proofs.Pass.Accounts

/-!
# Every wrapper is placed or refused

Placing one more wrapper either puts it at a target that is still free or leaves one error at its
location. By induction over the wrappers each of them is accounted for, and no two placed wrappers
have the same target.
-/

set_option autoImplicit false

namespace SpanWeave.Placement

/-- A wrapper stays, or an error stands at its location. -/
def Settles (w : WrapperModule) : Outcome → Prop
  | .wrapper placed => placed = w
  | .finding f => f.cause.severity = .error ∧ f.origin = w.origin

/-- What stands against a wrapper is an error. -/
theorem obstacle_severity {d : Destination} {placed : List PlacedWrapper} {w : WrapperModule}
    {cause : Cause} (h : obstacle? d placed w = some cause) : cause.severity = .error := by
  unfold obstacle? at h
  split at h
  · cases h
    rfl
  · obtain ⟨p, -, rfl⟩ := Option.map_eq_some_iff.mp h
    rfl

/-- Nothing stands against a wrapper only if its target is free. -/
theorem free_of_obstacle_eq_none {d : Destination} {placed : List PlacedWrapper}
    {w : WrapperModule} (h : obstacle? d placed w = none) :
    ∀ p ∈ placed, p.target ≠ d.target w := by
  unfold obstacle? at h
  split at h
  · cases h
  · rw [Option.map_eq_none_iff, List.find?_eq_none] at h
    intro p hp heq
    exact h p hp (by simpa using heq)

/-- What placing has come to after some wrappers: each of them is accounted for, the placed ones
stand at their targets, and these are all different. -/
structure Progress (d : Destination) (ws : List WrapperModule) (p : Placement) : Prop where
  accounted : ∃ fates, List.Forall₂ Settles ws fates ∧
    p.placed.map PlacedWrapper.wrapper = fates.filterMap Outcome.wrapper? ∧
      p.findings = fates.filterMap Outcome.finding?
  targets : ∀ placed ∈ p.placed, placed.target = d.target placed.wrapper
  distinct : (p.placed.map PlacedWrapper.target).Nodup

namespace Progress

theorem empty (d : Destination) : Progress d [] {} :=
  ⟨⟨[], .nil, rfl, rfl⟩, fun _ h => absurd h List.not_mem_nil, List.nodup_nil⟩

/-- One more wrapper keeps all this. -/
theorem add {d : Destination} {ws : List WrapperModule} {p : Placement} (h : Progress d ws p)
    (w : WrapperModule) : Progress d (ws ++ [w]) (Placement.add d p w) := by
  obtain ⟨⟨fates, hfates, hplaced, hfindings⟩, htargets, hdistinct⟩ := h
  unfold Placement.add
  split
  · rename_i cause hcause
    refine ⟨⟨fates ++ [.finding ⟨cause, w.origin⟩], ?_, ?_, ?_⟩, htargets, hdistinct⟩
    · exact List.rel_append hfates (.cons ⟨obstacle_severity hcause, rfl⟩ .nil)
    · rw [List.filterMap_append, ← hplaced]
      exact (List.append_nil _).symm
    · rw [List.filterMap_append, ← hfindings]
      rfl
  · rename_i hnone
    have hfree := free_of_obstacle_eq_none hnone
    refine ⟨⟨fates ++ [.wrapper w], ?_, ?_, ?_⟩, ?_, ?_⟩
    · exact List.rel_append hfates (.cons rfl .nil)
    · rw [List.filterMap_append, List.map_append, hplaced]
      rfl
    · rw [List.filterMap_append, ← hfindings]
      exact (List.append_nil _).symm
    · intro placed hmem
      rcases List.mem_append.mp hmem with hmem | hmem
      · exact htargets placed hmem
      · rw [List.mem_singleton] at hmem
        subst hmem
        rfl
    · rw [List.map_append, List.nodup_append]
      refine ⟨hdistinct, by simp, ?_⟩
      intro target hmem other hother heq
      obtain ⟨q, hq, rfl⟩ := List.mem_map.mp hmem
      simp only [List.map_cons, List.map_nil, List.mem_singleton] at hother
      exact hfree q hq (heq.trans hother)

/-- Wrappers that are placed in order make progress one after the other. -/
theorem foldl {d : Destination} (more : List WrapperModule) {ws : List WrapperModule}
    {p : Placement} (h : Progress d ws p) :
    Progress d (ws ++ more) (more.foldl (Placement.add d) p) := by
  induction more generalizing ws p with
  | nil => simpa using h
  | cons w more ih =>
    rw [List.foldl_cons, List.append_cons]
    exact ih (h.add w)

end Progress

/-- All wrappers of a pass are placed or refused. -/
theorem ofWrappers_progress (d : Destination) (ws : List WrapperModule) :
    Progress d ws (ofWrappers d ws) :=
  Progress.foldl ws (Progress.empty d)

/-- Only wrappers that are given are placed. -/
theorem mem_of_mem_placed {d : Destination} {ws : List WrapperModule} {p : PlacedWrapper}
    (h : p ∈ (ofWrappers d ws).placed) : p.wrapper ∈ ws := by
  obtain ⟨fates, hfates, hplaced, -⟩ := (ofWrappers_progress d ws).accounted
  have hmem : p.wrapper ∈ fates.filterMap Outcome.wrapper? := by
    rw [← hplaced]
    exact List.mem_map.mpr ⟨p, h, rfl⟩
  obtain ⟨o, ho, hw⟩ := List.mem_filterMap.mp hmem
  obtain ⟨w, hmem, hsettles⟩ := exists_left_of_forall₂ hfates ho
  rw [Outcome.wrapper?_eq_some.mp hw] at hsettles
  have hsame : p.wrapper = w := hsettles
  rw [hsame]
  exact hmem

/-- The placed wrappers and the refusals account for all wrappers. -/
theorem ofWrappers_accounts (d : Destination) (ws : List WrapperModule) :
    Accounts Settles ws ((ofWrappers d ws).placed.map PlacedWrapper.wrapper)
      (ofWrappers d ws).findings := by
  obtain ⟨fates, hfates, hplaced, hfindings⟩ := (ofWrappers_progress d ws).accounted
  rw [hplaced, hfindings]
  exact Accounts.of_forall₂ hfates

/-- The last wrapper is placed after all others. -/
theorem ofWrappers_concat (d : Destination) (ws : List WrapperModule) (w : WrapperModule) :
    ofWrappers d (ws ++ [w]) = add d (ofWrappers d ws) w :=
  List.foldl_concat ..

/-- Next to their sources, wrappers with different targets are all placed. -/
theorem ofWrappers_of_nodup {d : Destination} (houtput : d.output = none) {ws : List WrapperModule}
    (h : (ws.map d.target).Nodup) : ofWrappers d ws = ⟨ws.map fun w => ⟨d.target w, w⟩, []⟩ := by
  induction ws using List.reverseRecOn with
  | nil => rfl
  | append_singleton ws w ih =>
    rw [List.map_append, List.nodup_append] at h
    obtain ⟨hws, -, hfree⟩ := h
    have hnone : obstacle? d (ws.map fun v => ⟨d.target v, v⟩) w = none := by
      unfold obstacle?
      rw [houtput, Option.filter_none]
      dsimp only
      rw [Option.map_eq_none_iff, List.find?_eq_none]
      intro p hp heq
      obtain ⟨v, hv, rfl⟩ := List.mem_map.mp hp
      have hsame : d.target v = d.target w := by simpa using heq
      exact hfree _ (List.mem_map.mpr ⟨v, hv, rfl⟩) _ (List.mem_singleton_self _) hsame
    rw [ofWrappers_concat, ih hws, add, hnone, List.map_append]
    rfl

/-! ## Wrappers with relative imports -/

section

variable {d : Destination} {directory : Path} {ws : List WrapperModule}

/-- In an output directory stands no wrapper that is marked for relative imports. -/
theorem relativeImports_of_mem_placed (houtput : d.output = some directory) {p : PlacedWrapper}
    (hp : p ∈ (ofWrappers d ws).placed) : p.wrapper.relativeImports = false := by
  induction ws using List.reverseRecOn with
  | nil => cases hp
  | append_singleton ws w ih =>
    rw [ofWrappers_concat, add] at hp
    split at hp
    · exact ih hp
    · rename_i hnone
      rcases List.mem_append.mp hp with hp | hp
      · exact ih hp
      · rw [List.mem_singleton] at hp
        rw [hp]
        dsimp only
        by_contra hrelative
        rw [Bool.not_eq_false] at hrelative
        unfold obstacle? at hnone
        rw [houtput, hrelative] at hnone
        cases hnone

/-- A wrapper that is marked for relative imports is refused for an output directory. -/
theorem mem_findings_of_relativeImports (houtput : d.output = some directory) {w : WrapperModule}
    (hw : w ∈ ws) (hrelative : w.relativeImports = true) :
    ⟨.relativeImport w.source directory, w.origin⟩ ∈ (ofWrappers d ws).findings := by
  induction ws using List.reverseRecOn with
  | nil => cases hw
  | append_singleton ws v ih =>
    rw [ofWrappers_concat, add]
    rcases List.mem_append.mp hw with hw | hw
    · have hkept := ih hw
      split
      · exact List.mem_append_left _ hkept
      · exact hkept
    · rw [List.mem_singleton] at hw
      subst hw
      have hobstacle : obstacle? d (ofWrappers d ws).placed w =
          some (.relativeImport w.source directory) := by
        unfold obstacle?
        rw [houtput, hrelative]
        rfl
      rw [hobstacle]
      exact List.mem_append_right _ (List.mem_singleton_self _)

end

end SpanWeave.Placement
