import Mathlib.Data.List.Permutation
import SpanWeave.Pass.Selection
import SpanWeave.Proofs.Index.LocationOrder

/-!
# Every declaration is kept or passed by

Grouping by type only regroups declarations, and of every group one is kept. So the kept ones and
the ones that are passed by are together all declarations, and each that is passed by has a finding
of its own that names the kept declaration of its type. Which declaration of a type is kept is a
matter of its own group: `filter_kept`. All this together is `ofCandidates_keeps_first`.
-/

set_option autoImplicit false

namespace SpanWeave.Selection

/-- A finding for a declaration that is passed by for another one of its type. -/
def PassesBy (kept : List Candidate) (c : Candidate) (f : Finding) : Prop :=
  ∃ k ∈ kept, k.key = c.key ∧ f = ⟨.duplicate c.identity k.origin, c.origin⟩

/-- The first declaration takes all others of its type into its group. -/
theorem groups_cons (c : Candidate) (cs : List Candidate) :
    groups (c :: cs) =
      (c :: cs.filter fun d => d.key == c.key) ::
        groups (cs.filter fun d => !(d.key == c.key)) := by
  have hkeys : (cs.map Candidate.key).filter (fun key => !key == c.key) =
      (cs.filter fun d => !(d.key == c.key)).map Candidate.key := by
    rw [List.filter_map]
    rfl
  unfold groups
  rw [List.map_cons, List.eraseDups_cons, List.map_cons, hkeys]
  congr 1
  · rw [List.filter_cons_of_pos (by simp)]
  · apply List.map_congr_left
    intro key hkey
    -- the keys that are left differ from that of the first declaration
    rw [List.mem_eraseDups] at hkey
    obtain ⟨d, hd, rfl⟩ := List.mem_map.mp hkey
    have hne : (d.key == c.key) = false := by simpa using (List.mem_filter.mp hd).2
    have hcd : (c.key == d.key) = false := by
      rw [beq_eq_false_iff_ne] at hne ⊢
      exact Ne.symm hne
    rw [List.filter_cons_of_neg (by simp [hcd]), List.filter_filter]
    apply List.filter_congr
    intro e _
    by_cases he : e.key = d.key
    · simp [he, hne]
    · simp [he]

/-- Induction over declarations type by type: a first declaration is taken away together with all
others of its type. -/
theorem inductionByType {motive : List Candidate → Prop} (nil : motive [])
    (cons : ∀ c cs, motive (cs.filter fun d => !(d.key == c.key)) → motive (c :: cs))
    (cs : List Candidate) : motive cs := by
  induction hlength : cs.length using Nat.strongRecOn generalizing cs with
  | _ n ih =>
    cases cs with
    | nil => exact nil
    | cons c cs =>
      have hsmaller : (cs.filter fun d => !(d.key == c.key)).length < n := by
        rw [← hlength, List.length_cons]
        exact Nat.lt_succ_of_le (List.length_filter_le _ _)
      exact cons c cs (ih _ hsmaller _ rfl)

/-- What the groups of declarations have in common: none is empty, each is of one type, and together
they are all declarations. -/
theorem groups_spec (cs : List Candidate) :
    (groups cs).flatten.Perm cs ∧
      ∀ group ∈ groups cs, group ≠ [] ∧ ∀ a ∈ group, ∀ b ∈ group, a.key = b.key := by
  induction cs using inductionByType with
  | nil => exact ⟨List.Perm.nil, fun group hgroup => by cases hgroup⟩
  | cons c cs ih =>
    obtain ⟨hperm, hgroups⟩ := ih
    rw [groups_cons]
    constructor
    · rw [List.flatten_cons, List.cons_append]
      apply List.Perm.cons c
      exact (List.Perm.append_left _ hperm).trans (List.filter_append_perm _ cs)
    · intro group hgroup
      rcases List.mem_cons.mp hgroup with rfl | hgroup
      · refine ⟨by simp, ?_⟩
        have hkey : ∀ a ∈ c :: cs.filter (fun d => d.key == c.key), a.key = c.key := by
          intro a ha
          rcases List.mem_cons.mp ha with rfl | ha
          · rfl
          · simpa using (List.mem_filter.mp ha).2
        intro a ha b hb
        rw [hkey a ha, hkey b hb]
      · exact hgroups group hgroup

/-- A group keeps one of its declarations and passes the others by. -/
theorem ofGroup_spec (index : SourceIndex) {group : List Candidate} (hne : group ≠ [])
    (hkey : ∀ a ∈ group, ∀ b ∈ group, a.key = b.key) :
    ∃ kept others, (kept :: others).Perm group ∧
      ofGroup index group = ⟨[kept], passedBy kept others⟩ ∧
        ∀ c ∈ others, kept.key = c.key := by
  have hk : index.keptPosition group < group.length := by
    unfold SourceIndex.keptPosition
    cases hfind : group.findIdx? fun c => index.verdict c == .eligible with
    | none => exact List.length_pos_iff.mpr hne
    | some k => exact (List.findIdx?_eq_some_iff_getElem.mp hfind).1
  have hperm := List.getElem_cons_eraseIdx_perm hk
  refine ⟨_, _, hperm, ?_, ?_⟩
  · unfold ofGroup
    dsimp only
    rw [List.getElem?_eq_getElem hk]
  · intro c hc
    exact hkey _ (List.getElem_mem hk) c (hperm.mem_iff.mp (List.mem_cons_of_mem _ hc))

/-- Of all groups together, the kept declarations and those with a finding are all declarations. -/
theorem ofGroups_spec (index : SourceIndex) {gs : List (List Candidate)}
    (hgroups : ∀ group ∈ gs, group ≠ [] ∧ ∀ a ∈ group, ∀ b ∈ group, a.key = b.key) :
    ∃ others, ((gs.map (ofGroup index)).flatMap kept ++ others).Perm gs.flatten ∧
      List.Forall₂ (PassesBy ((gs.map (ofGroup index)).flatMap kept)) others
        ((gs.map (ofGroup index)).flatMap findings) := by
  induction gs with
  | nil => exact ⟨[], List.Perm.nil, List.Forall₂.nil⟩
  | cons group gs ih =>
    obtain ⟨hne, hkey⟩ := hgroups group List.mem_cons_self
    obtain ⟨first, others, hperm, hgroup, hothers⟩ := ofGroup_spec index hne hkey
    obtain ⟨rest, hrest, hfindings⟩ := ih fun g hg => hgroups g (List.mem_cons_of_mem _ hg)
    refine ⟨others ++ rest, ?_, ?_⟩
    · rw [List.map_cons, List.flatMap_cons, hgroup, List.flatten_cons]
      -- the kept ones of the other groups go before those passed by in this one
      generalize (gs.map (ofGroup index)).flatMap kept = more at hrest
      have hswap : (more ++ others ++ rest).Perm (others ++ more ++ rest) :=
        List.perm_append_comm.append_right rest
      have hall := (hswap.cons first).trans
        (by simpa only [List.cons_append, List.append_assoc] using hperm.append hrest)
      simpa only [List.append_assoc, List.cons_append, List.nil_append] using hall
    · rw [List.map_cons, List.flatMap_cons, List.flatMap_cons, hgroup]
      refine List.rel_append ?_ ?_
      · unfold passedBy
        rw [List.forall₂_map_right_iff, List.forall₂_same]
        intro c hc
        exact ⟨first, by simp, hothers c hc, rfl⟩
      · apply hfindings.imp
        rintro c f ⟨k, hk, hfinding⟩
        exact ⟨k, List.mem_append_right _ hk, hfinding⟩

/-- The kept declarations and those with a finding are all declarations. -/
theorem ofCandidates_spec (index : SourceIndex) (cs : List Candidate) :
    ∃ others, ((ofCandidates index cs).kept ++ others).Perm cs ∧
      List.Forall₂ (PassesBy (ofCandidates index cs).kept) others
        (ofCandidates index cs).findings := by
  obtain ⟨hperm, hgroups⟩ := groups_spec cs
  obtain ⟨others, hall, hfindings⟩ := ofGroups_spec index hgroups
  have hsorted : (ofCandidates index cs).kept.Perm
      (((groups cs).map (ofGroup index)).flatMap kept) := List.mergeSort_perm _ _
  refine ⟨others, (hsorted.append_right others).trans (hall.trans hperm), ?_⟩
  apply hfindings.imp
  rintro c f ⟨k, hk, hfinding⟩
  exact ⟨k, hsorted.mem_iff.mpr hk, hfinding⟩

/-! ## The kept declaration of one type -/

/-- A group keeps at most one declaration, and it is one of its own. -/
theorem kept_ofGroup (index : SourceIndex) (group : List Candidate) :
    (ofGroup index group).kept = group[index.keptPosition group]?.toList := by
  unfold ofGroup
  dsimp only
  cases group[index.keptPosition group]? <;> rfl

theorem mem_of_mem_kept_ofGroup {index : SourceIndex} {group : List Candidate} {c : Candidate}
    (h : c ∈ (ofGroup index group).kept) : c ∈ group := by
  rw [kept_ofGroup, Option.mem_toList] at h
  exact List.mem_of_getElem? h

/-- Of the declarations of one type the kept one is that of their group. -/
theorem filter_kept (index : SourceIndex) (cs : List Candidate) (key : TypeKey) :
    ((ofCandidates index cs).kept.filter fun c => c.key == key) =
      (ofGroup index (cs.filter fun c => c.key == key)).kept := by
  have hgroups : (((groups cs).map (ofGroup index)).flatMap kept).filter (fun c => c.key == key) =
      (ofGroup index (cs.filter fun c => c.key == key)).kept := by
    induction cs using inductionByType with
    | nil => rfl
    | cons c cs ih =>
      rw [groups_cons, List.map_cons, List.flatMap_cons, List.filter_append, ih]
      have hfirst : ∀ d ∈ (ofGroup index (c :: cs.filter fun d => d.key == c.key)).kept,
          d.key = c.key := by
        intro d hd
        rcases List.mem_cons.mp (mem_of_mem_kept_ofGroup hd) with rfl | hd
        · rfl
        · simpa using (List.mem_filter.mp hd).2
      by_cases hkey : c.key = key
      · -- the first group is the one asked for, and no other group is of its type
        subst hkey
        have hnone : (cs.filter fun d => !(d.key == c.key)).filter (fun d => d.key == c.key) =
            [] := by
          rw [List.filter_filter, List.filter_eq_nil_iff]
          intro d _
          simp
        rw [hnone, List.filter_eq_self.mpr fun d hd => by simp [hfirst d hd],
          List.filter_cons_of_pos (by simp)]
        exact List.append_nil _
      · have hrest : (cs.filter fun d => !(d.key == c.key)).filter (fun d => d.key == key) =
            cs.filter fun d => d.key == key := by
          rw [List.filter_filter]
          apply List.filter_congr
          intro d _
          by_cases hd : d.key = key
          · simp [hd, Ne.symm hkey]
          · simp [hd]
        rw [hrest, List.filter_eq_nil_iff.mpr fun d hd => by simp [hfirst d hd, hkey],
          List.filter_cons_of_neg (by simp [hkey])]
        exact List.nil_append _
  unfold ofCandidates
  dsimp only
  rw [filter_sorted, hgroups, kept_ofGroup]
  cases (cs.filter fun c => c.key == key)[index.keptPosition
    (cs.filter fun c => c.key == key)]? with
  | none => exact List.mergeSort_nil
  | some c => exact List.mergeSort_singleton c

/-- No two kept declarations are of one type. -/
theorem nodup_keys (index : SourceIndex) (cs : List Candidate) :
    ((ofCandidates index cs).kept.map Candidate.key).Nodup := by
  rw [List.nodup_iff_count_le_one]
  intro key
  have hgroup : ((ofCandidates index cs).kept.filter fun c => c.key == key).length ≤ 1 := by
    rw [filter_kept, kept_ofGroup]
    cases (cs.filter fun c => c.key == key)[index.keptPosition
      (cs.filter fun c => c.key == key)]? <;> simp
  rw [← List.countP_eq_length_filter] at hgroup
  rw [List.count, List.countP_map]
  exact hgroup

/-- The declaration of a group that is kept: the first eligible one, or the first one if none is. -/
def firstEligible? (index : SourceIndex) (group : List Candidate) : Option Candidate :=
  (group.find? fun c => index.verdict c == .eligible).or group.head?

theorem getElem?_keptPosition (index : SourceIndex) (group : List Candidate) :
    group[index.keptPosition group]? = firstEligible? index group := by
  unfold SourceIndex.keptPosition firstEligible?
  cases hfind : group.findIdx? fun c => index.verdict c == .eligible with
  | none =>
    have hnone : (group.find? fun c => index.verdict c == .eligible) = none := by
      rw [List.find?_eq_none]
      intro c hc
      rw [List.findIdx?_eq_none_iff.mp hfind c hc]
      exact Bool.false_ne_true
    rw [hnone, Option.none_or, Option.getD_none, List.head?_eq_getElem?]
  | some k =>
    obtain ⟨hk, heligible, hbefore⟩ := List.findIdx?_eq_some_iff_getElem.mp hfind
    have hfirst : (group.find? fun c => index.verdict c == .eligible) = some group[k] := by
      rw [List.find?_eq_some_iff_getElem]
      exact ⟨heligible, k, hk, rfl, fun j hj => by simpa using hbefore j hj⟩
    rw [hfirst, Option.some_or, Option.getD_some, List.getElem?_eq_getElem hk]

theorem exists_firstEligible? (index : SourceIndex) {group : List Candidate} (hne : group ≠ []) :
    ∃ k, firstEligible? index group = some k := by
  obtain ⟨c, rest, rfl⟩ := List.exists_cons_of_ne_nil hne
  unfold firstEligible?
  cases (c :: rest).find? fun c => index.verdict c == .eligible with
  | none => exact ⟨c, rfl⟩
  | some k => exact ⟨k, rfl⟩

/-- One declaration of each type is kept, by location: the first eligible one, or the first one if
none is. Each other declaration has a warning at its own location that names the kept one of its
type, and there are no other findings. -/
theorem ofCandidates_keeps_first (index : SourceIndex) (cs : List Candidate) :
    let selection := ofCandidates index cs
    (∀ c ∈ cs, ∃ k, firstEligible? index (cs.filter fun d => d.key == c.key) = some k ∧
      (selection.kept.filter fun d => d.key == c.key) = [k]) ∧
    (selection.kept.Pairwise fun a b => a.origin.upTo b.origin = true) ∧
    ∃ others, (selection.kept ++ others).Perm cs ∧
      List.Forall₂ (fun c f => ∃ k ∈ selection.kept, k.key = c.key ∧
        f.diagnostic = ⟨"duplicate", .warning, c.identity.qualifiedName ++
          " is marked more than once; the declaration at " ++ k.origin.text ++
            " generates the wrapper", some c.origin⟩) others selection.findings := by
  dsimp only
  refine ⟨?_, ?_, ?_⟩
  · intro c hc
    have hgroup : c ∈ cs.filter fun d => d.key == c.key :=
      List.mem_filter.mpr ⟨hc, beq_self_eq_true _⟩
    obtain ⟨k, hk⟩ := exists_firstEligible? index (List.ne_nil_of_mem hgroup)
    refine ⟨k, hk, ?_⟩
    rw [filter_kept, kept_ofGroup, getElem?_keptPosition, hk]
    rfl
  · exact pairwise_sorted Candidate.origin _
  · obtain ⟨others, hperm, hfindings⟩ := ofCandidates_spec index cs
    refine ⟨others, hperm, hfindings.imp ?_⟩
    rintro c f ⟨k, hk, hkey, rfl⟩
    exact ⟨k, hk, hkey, rfl⟩

/-- A module that marks a type twice, first where it is not abstract and then where it is. -/
def twiceMarked : SourceIndex :=
  let file : SourceFile := ⟨"m.py", some "m", "", ""⟩
  { marker := "Instrumentation"
    classes :=
      [⟨file, [], ⟨"A", ["Instrumentation"], false, ⟨"m.py", 1, 1⟩, []⟩⟩,
        ⟨file, [], ⟨"A", ["Instrumentation"], true, ⟨"m.py", 4, 1⟩, []⟩⟩] }

/-- The later declaration is kept since only that one is eligible, and the earlier one has the
warning. -/
theorem ofCandidates_keeps_first_twiceMarked :
    ∃ earlier later, twiceMarked.classes.map IndexedClass.candidate = [earlier, later] ∧
      earlier ∈ [earlier, later] ∧
        ((ofCandidates twiceMarked [earlier, later]).kept.filter fun d => d.key == earlier.key) =
          [later] := by
  refine ⟨_, _, rfl, List.mem_cons_self, ?_⟩
  obtain ⟨hkept, -⟩ := ofCandidates_keeps_first twiceMarked
    (twiceMarked.classes.map IndexedClass.candidate)
  obtain ⟨k, hk, hone⟩ := hkept _ List.mem_cons_self
  have hlater : firstEligible? twiceMarked ((twiceMarked.classes.map IndexedClass.candidate).filter
      fun d => d.key == ⟨"", ⟨"", "A"⟩⟩) = (twiceMarked.classes.map IndexedClass.candidate)[1]? := by
    cbv
  rw [show k = _ from Option.some.inj (hk.symm.trans hlater)] at hone
  exact hone

end SpanWeave.Selection
