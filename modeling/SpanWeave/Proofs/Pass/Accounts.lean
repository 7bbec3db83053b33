import Mathlib.Data.List.Perm.Basic
import SpanWeave.Pass.Generation
import SpanWeave.Proofs.ItemByItem

/-!
# Accounting for what comes in

A stage of a pass accounts for what it is given if each item comes to one wrapper or to one finding,
and nothing else comes out. Accounts of parts are put together, and the account of a stage is
refined by that of the next one, which takes up its wrappers.
-/

set_option autoImplicit false

namespace SpanWeave

variable {α : Type} {R S T : α → Outcome → Prop}

@[simp] theorem Outcome.wrapper?_eq_some {o : Outcome} {w : WrapperModule} :
    o.wrapper? = some w ↔ o = .wrapper w := by
  cases o <;> simp [wrapper?]

@[simp] theorem Outcome.finding?_eq_some {o : Outcome} {f : Finding} :
    o.finding? = some f ↔ o = .finding f := by
  cases o <;> simp [finding?]

/-- Each item comes to one outcome that fits it, and these are all wrappers and findings. -/
def Accounts (R : α → Outcome → Prop) (items : List α) (wrappers : List WrapperModule)
    (findings : List Finding) : Prop :=
  ∃ fates, List.Forall₂ R items fates ∧ wrappers.Perm (fates.filterMap Outcome.wrapper?) ∧
    findings.Perm (fates.filterMap Outcome.finding?)

/-- As many items come in as wrappers and findings come out. -/
theorem Accounts.length_eq {items : List α} {ws : List WrapperModule} {fs : List Finding}
    (h : Accounts R items ws fs) : ws.length + fs.length = items.length := by
  obtain ⟨fates, hfates, hws, hfs⟩ := h
  have hsplit : ∀ outcomes : List Outcome,
      (outcomes.filterMap Outcome.wrapper?).length + (outcomes.filterMap Outcome.finding?).length =
        outcomes.length := by
    intro outcomes
    induction outcomes with
    | nil => rfl
    | cons o outcomes ih =>
      cases o with
      | wrapper w =>
        simp only [List.filterMap_cons, Outcome.wrapper?, Outcome.finding?, List.length_cons]
        omega
      | finding f =>
        simp only [List.filterMap_cons, Outcome.wrapper?, Outcome.finding?, List.length_cons]
        omega
  rw [hws.length_eq, hfs.length_eq, hsplit, hfates.length_eq]

/-- Items of which each comes to an outcome of its own. -/
theorem Accounts.of_forall₂ {items : List α} {fates : List Outcome}
    (h : List.Forall₂ R items fates) :
    Accounts R items (fates.filterMap Outcome.wrapper?) (fates.filterMap Outcome.finding?) :=
  ⟨fates, h, .refl _, .refl _⟩

/-- Items of which none comes to a wrapper. -/
theorem Accounts.of_findings {items : List α} {fs : List Finding}
    (h : List.Forall₂ (fun a f => R a (.finding f)) items fs) : Accounts R items [] fs := by
  refine ⟨fs.map .finding, ?_, ?_, ?_⟩
  · rw [List.forall₂_map_right_iff]
    exact h
  · have hnone : (fs.map Outcome.finding).filterMap Outcome.wrapper? = [] := by
      rw [List.filterMap_map, List.filterMap_eq_nil_iff]
      intro f _
      rfl
    rw [hnone]
  · have hall : (fs.map Outcome.finding).filterMap Outcome.finding? = fs := by
      rw [List.filterMap_map]
      exact List.filterMap_some
    rw [hall]

/-- The accounts of two parts make up that of the whole. -/
theorem Accounts.append {items items' : List α} {ws ws' : List WrapperModule}
    {fs fs' : List Finding} (h : Accounts R items ws fs) (h' : Accounts R items' ws' fs') :
    Accounts R (items ++ items') (ws ++ ws') (fs ++ fs') := by
  obtain ⟨fates, hfates, hws, hfs⟩ := h
  obtain ⟨fates', hfates', hws', hfs'⟩ := h'
  refine ⟨fates ++ fates', List.rel_append hfates hfates', ?_, ?_⟩
  · rw [List.filterMap_append]
    exact hws.append hws'
  · rw [List.filterMap_append]
    exact hfs.append hfs'

/-- The order of the items does not matter. -/
theorem Accounts.perm {items items' : List α} {ws : List WrapperModule} {fs : List Finding}
    (hperm : items.Perm items') (h : Accounts R items ws fs) : Accounts R items' ws fs := by
  obtain ⟨fates, hfates, hws, hfs⟩ := h
  obtain ⟨fates', hfates', hsame⟩ := List.perm_comp_forall₂ hperm.symm hfates
  exact ⟨fates', hfates', hws.trans (hsame.symm.filterMap _), hfs.trans (hsame.symm.filterMap _)⟩

/-- A stage that accounts for the wrappers of the stage before it refines the account of that stage.
-/
theorem Accounts.refine {items : List α} {fates : List Outcome} {Q : WrapperModule → Outcome → Prop}
    {ws : List WrapperModule} {fs : List Finding} (hfates : List.Forall₂ R items fates)
    (hnext : Accounts Q (fates.filterMap Outcome.wrapper?) ws fs)
    (hfinding : ∀ a f, R a (.finding f) → T a (.finding f))
    (hwrapper : ∀ a w o, R a (.wrapper w) → Q w o → T a o) :
    Accounts T items ws (fates.filterMap Outcome.finding? ++ fs) := by
  obtain ⟨next, hnext, hws, hfs⟩ := hnext
  -- along the items: a finding stays, a wrapper comes to what the next stage makes of it
  have hall : ∃ all, List.Forall₂ T items all ∧
      all.filterMap Outcome.wrapper? = next.filterMap Outcome.wrapper? ∧
        (all.filterMap Outcome.finding?).Perm
          (fates.filterMap Outcome.finding? ++ next.filterMap Outcome.finding?) := by
    clear hws hfs
    induction hfates generalizing next with
    | nil =>
      cases hnext
      exact ⟨[], .nil, rfl, .refl _⟩
    | @cons a o items fates hao _ ih =>
      cases o with
      | finding f =>
        obtain ⟨all, hall, hws, hfs⟩ := ih next hnext
        exact ⟨.finding f :: all, .cons (hfinding a f hao) hall, hws, hfs.cons f⟩
      | wrapper w =>
        obtain ⟨o', next', hwo, hrest, rfl⟩ := List.forall₂_cons_left_iff.mp hnext
        obtain ⟨all, hall, hws, hfs⟩ := ih next' hrest
        refine ⟨o' :: all, .cons (hwrapper a w o' hao hwo) hall, ?_, ?_⟩
        · cases o' with
          | wrapper w' => exact congrArg (w' :: ·) hws
          | finding f' => exact hws
        · cases o' with
          | wrapper w' => exact hfs
          | finding f' => exact (hfs.cons f').trans List.perm_middle.symm
  obtain ⟨all, hall, hsame, hfindings⟩ := hall
  refine ⟨all, hall, ?_, ?_⟩
  · rw [hsame]
    exact hws
  · exact (List.Perm.append_left _ hfs).trans hfindings.symm

/-! ## Items with locations -/

/-- An outcome that is a wrapper only at the given location. -/
def Outcome.StandsAt (origin : Location) : Outcome → Prop
  | .wrapper w => w.origin = origin
  | .finding _ => True

/-- If items have different locations, the wrapper at the location of an item is the one that the
item comes to. -/
theorem wrappers_at {place : α → Location} {items : List α} {fates : List Outcome}
    (h : List.Forall₂ (fun a => Outcome.StandsAt (place a)) items fates)
    (hdistinct : (items.map place).Nodup) :
    List.Forall₂ (fun a o => ((fates.filterMap Outcome.wrapper?).filter fun w =>
      w.origin == place a) = o.wrapper?.toList) items fates := by
  induction h with
  | nil => exact .nil
  | @cons a o items fates hao hrest ih =>
    rw [List.map_cons, List.nodup_cons] at hdistinct
    have hsplit : (o :: fates).filterMap Outcome.wrapper? =
        o.wrapper?.toList ++ fates.filterMap Outcome.wrapper? := by
      cases o <;> rfl
    -- the wrapper of the first item stands at its location and at no other one
    have hfirst : ∀ origin, (o.wrapper?.toList.filter fun w => w.origin == origin) =
        if place a = origin then o.wrapper?.toList else [] := by
      intro origin
      cases o with
      | finding f => simp [Outcome.wrapper?]
      | wrapper w =>
        have hw : w.origin = place a := hao
        by_cases horigin : place a = origin
        · simp [Outcome.wrapper?, hw, horigin]
        · simp [Outcome.wrapper?, hw, horigin]
    rw [hsplit]
    refine .cons ?_ ?_
    · have hnone :
          ((fates.filterMap Outcome.wrapper?).filter fun w => w.origin == place a) = [] := by
        rw [List.filter_eq_nil_iff]
        intro w hw heq
        obtain ⟨o', ho', hw⟩ := List.mem_filterMap.mp hw
        obtain ⟨b, hb, hfits⟩ := exists_left_of_forall₂ hrest ho'
        cases o' with
        | finding f => cases hw
        | wrapper w' =>
          cases hw
          have hwb : w.origin = place b := hfits
          rw [beq_iff_eq, hwb] at heq
          exact hdistinct.1 (List.mem_map.mpr ⟨b, hb, heq⟩)
      rw [List.filter_append, hfirst, hnone, if_pos rfl, List.append_nil]
    · have hothers : ∀ b ∈ items, place a ≠ place b := by
        intro b hb heq
        exact hdistinct.1 (List.mem_map.mpr ⟨b, hb, heq.symm⟩)
      refine ((List.forall₂_and_left _ _).mpr ⟨hothers, ih hdistinct.2⟩).imp ?_
      rintro b o' ⟨hne, hb⟩
      rw [List.filter_append, hfirst, if_neg hne, List.nil_append]
      exact hb

end SpanWeave
