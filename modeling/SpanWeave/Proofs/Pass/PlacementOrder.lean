import SpanWeave.Proofs.Pass.NextToSources
import SpanWeave.Proofs.Pass.OutputDirectory

/-!
# Who gets a target

Placing wrappers in order is greedy: a wrapper is placed unless its relative imports are refused or
an earlier wrapper has its target, where those refused for their imports do not count. What is known
while placing is therefore, for each target, the first wrapper that asks for it (`find?_placed`).
A pass places wrappers by file name, and sorting by file name keeps those of one name as they come.
They come by the location of their declarations, so in an output directory the first declaration of
a class name gets the file.
-/

set_option autoImplicit false

namespace SpanWeave

namespace Destination

/-- Whether a wrapper is refused since relative imports lead nowhere in the output directory. -/
def refusesImports (d : Destination) (w : WrapperModule) : Bool :=
  d.output.isSome && w.relativeImports

/-- Whether a wrapper asks for a target: it has that target, and its imports are not refused. -/
def asksFor (d : Destination) (target : Path) (w : WrapperModule) : Bool :=
  !d.refusesImports w && d.target w == target

theorem asksFor_iff {d : Destination} {target : Path} {w : WrapperModule} :
    d.asksFor target w = true ↔ d.refusesImports w = false ∧ d.target w = target := by
  simp [asksFor]

/-- A wrapper that can be placed after the given ones: its imports are not refused, and none of the
others has its target unless that one's imports are refused. -/
def StandsFree (d : Destination) (earlier : List WrapperModule) (w : WrapperModule) : Prop :=
  d.refusesImports w = false ∧
    ∀ v ∈ earlier, d.refusesImports v = false → d.target v ≠ d.target w

instance (d : Destination) (earlier : List WrapperModule) (w : WrapperModule) :
    Decidable (d.StandsFree earlier w) :=
  inferInstanceAs (Decidable (_ ∧ _))

/-- The report of a wrapper that is refused when the given ones have been placed: about its imports
if they are refused, and about the wrapper at its target if not. -/
inductive ReportsRefusal (d : Destination) (placed : List PlacedWrapper) (w : WrapperModule) :
    Diagnostic → Prop
  | relativeImport {directory : Path} (houtput : d.output = some directory)
    (hrelative : w.relativeImports = true) :
    ReportsRefusal d placed w ⟨"relative-import", .error,
      w.source.qualifiedName ++ ": relative imports do not resolve from " ++ directory.text ++
        "; use absolute imports or write wrappers next to their sources", some w.origin⟩
  | occupied {p : PlacedWrapper} (hfits : d.refusesImports w = false) (hplaced : p ∈ placed)
    (htarget : p.target = d.target w) :
    ReportsRefusal d placed w ⟨"duplicate-artifact", .error,
      w.source.qualifiedName ++ ": " ++ (d.target w).text ++ " is already generated for " ++
        p.wrapper.source.qualifiedName, some w.origin⟩

/-- A refusal stays reported when more wrappers are placed. -/
theorem ReportsRefusal.mono {d : Destination} {placed more : List PlacedWrapper}
    {w : WrapperModule} {report : Diagnostic} (h : d.ReportsRefusal placed w report)
    (hmore : placed ⊆ more) : d.ReportsRefusal more w report := by
  cases h with
  | relativeImport houtput hrelative => exact .relativeImport houtput hrelative
  | occupied hfits hplaced htarget => exact .occupied hfits (hmore hplaced) htarget

end Destination

namespace Placement

variable {d : Destination} {w : WrapperModule} {placed : List PlacedWrapper}

/-! ## One more wrapper -/

/-- Relative imports are an obstacle in an output directory, whatever has been placed there. -/
theorem obstacle?_of_refusesImports (placed : List PlacedWrapper) (h : d.refusesImports w = true) :
    ∃ directory, d.output = some directory ∧ w.relativeImports = true ∧
      obstacle? d placed w = some (.relativeImport w.source directory) := by
  obtain ⟨hsome, hrelative⟩ := Bool.and_eq_true_iff.mp h
  obtain ⟨directory, houtput⟩ := Option.isSome_iff_exists.mp hsome
  refine ⟨directory, houtput, hrelative, ?_⟩
  unfold obstacle?
  rw [houtput, hrelative]
  rfl

/-- Otherwise only what has been placed at its target stands against a wrapper. -/
theorem obstacle?_of_fits (h : d.refusesImports w = false) :
    obstacle? d placed w = (placed.find? fun p => p.target == d.target w).map fun p =>
      .occupied w.source (d.target w) p.wrapper.source := by
  have hnone : (d.output.filter fun _ => w.relativeImports) = none := by
    unfold Destination.refusesImports at h
    cases houtput : d.output with
    | none => rfl
    | some directory =>
      rw [houtput, Option.isSome_some, Bool.true_and] at h
      rw [h]
      rfl
  unfold obstacle?
  rw [hnone]

/-- An obstacle is reported as the refusal of the wrapper. -/
theorem reportsRefusal_of_obstacle {cause : Cause} (h : obstacle? d placed w = some cause) :
    d.ReportsRefusal placed w (Finding.mk cause w.origin).diagnostic := by
  cases hrefused : d.refusesImports w with
  | true =>
    obtain ⟨directory, houtput, hrelative, hobstacle⟩ :=
      obstacle?_of_refusesImports placed hrefused
    rw [hobstacle] at h
    cases h
    exact .relativeImport houtput hrelative
  | false =>
    rw [obstacle?_of_fits hrefused] at h
    obtain ⟨p, hp, rfl⟩ := Option.map_eq_some_iff.mp h
    exact .occupied hrefused (List.mem_of_find?_eq_some hp) (by simpa using List.find?_some hp)

/-! ## All wrappers in order -/

/-- At each target stands the first of the wrappers that ask for it. -/
theorem find?_placed (d : Destination) (ws : List WrapperModule) (target : Path) :
    (ofWrappers d ws).placed.find? (fun p => p.target == target) =
      (ws.find? (d.asksFor target)).map fun w => ⟨target, w⟩ := by
  induction ws using List.reverseRecOn generalizing target with
  | nil => rfl
  | append_singleton ws w ih =>
    rw [ofWrappers_concat, add, List.find?_append]
    cases hrefused : d.refusesImports w with
    | true =>
      have hnone : [w].find? (d.asksFor target) = none := by
        simp [Destination.asksFor, hrefused]
      obtain ⟨directory, -, -, hobstacle⟩ :=
        obstacle?_of_refusesImports (ofWrappers d ws).placed hrefused
      rw [hobstacle, hnone, Option.or_none]
      exact ih target
    | false =>
      rw [obstacle?_of_fits hrefused, ih (d.target w)]
      by_cases htarget : d.target w = target
      · -- the target asked for is that of the last wrapper, who gets it if nobody else has
        have hlast : [w].find? (d.asksFor target) = some w := by
          simp [Destination.asksFor, hrefused, htarget]
        rw [htarget, hlast]
        cases hfirst : ws.find? (d.asksFor target) with
        | some v => simpa [hfirst] using ih target
        | none =>
          have hfree := ih target
          rw [hfirst, Option.map_none] at hfree
          simp [List.find?_append, hfree]
      · have hnone : [w].find? (d.asksFor target) = none := by
          simp [Destination.asksFor, htarget]
        rw [hnone, Option.or_none]
        cases ws.find? (d.asksFor (d.target w)) with
        | some v => exact ih target
        | none => simp [List.find?_append, htarget, ih target]

/-- Nothing stands against a wrapper after others exactly if it stands free. -/
theorem obstacle?_eq_none_iff {ws : List WrapperModule} :
    obstacle? d (ofWrappers d ws).placed w = none ↔ d.StandsFree ws w := by
  unfold Destination.StandsFree
  cases hrefused : d.refusesImports w with
  | true =>
    obtain ⟨directory, -, -, hobstacle⟩ :=
      obstacle?_of_refusesImports (ofWrappers d ws).placed hrefused
    simp [hobstacle]
  | false =>
    rw [obstacle?_of_fits hrefused, find?_placed, Option.map_map, Option.map_eq_none_iff,
      List.find?_eq_none]
    simp [Destination.asksFor_iff]

/-- Placed are the wrappers that stand free after those before them, each at its target. -/
theorem ofWrappers_placed (d : Destination) (ws : List WrapperModule) :
    (ofWrappers d ws).placed = ((withEarlier ws).filter fun p => d.StandsFree p.1 p.2).map
      fun p => ⟨d.target p.2, p.2⟩ := by
  induction ws using List.reverseRecOn with
  | nil => rfl
  | append_singleton ws w ih =>
    rw [ofWrappers_concat, add, withEarlier_concat, List.filter_append, List.map_append, ← ih]
    by_cases hfree : d.StandsFree ws w
    · rw [obstacle?_eq_none_iff.mpr hfree, List.filter_cons_of_pos (by simpa using hfree)]
      rfl
    · obtain ⟨cause, hcause⟩ := Option.ne_none_iff_exists'.mp (mt obstacle?_eq_none_iff.mp hfree)
      rw [hcause, List.filter_cons_of_neg (by simpa using hfree)]
      exact (List.append_nil _).symm

/-- The findings are reports of the refusals of all other wrappers, in order. -/
theorem ofWrappers_findings (d : Destination) (ws : List WrapperModule) :
    List.Forall₂ (fun p f => d.ReportsRefusal (ofWrappers d ws).placed p.2 f.diagnostic)
      ((withEarlier ws).filter fun p => ¬ d.StandsFree p.1 p.2) (ofWrappers d ws).findings := by
  induction ws using List.reverseRecOn with
  | nil => exact .nil
  | append_singleton ws w ih =>
    rw [ofWrappers_concat, add, withEarlier_concat, List.filter_append]
    by_cases hfree : d.StandsFree ws w
    · rw [obstacle?_eq_none_iff.mpr hfree, List.filter_cons_of_neg (by simpa using hfree),
        List.filter_nil, List.append_nil]
      exact ih.imp fun p f hreport => hreport.mono (List.subset_append_left _ _)
    · obtain ⟨cause, hcause⟩ := Option.ne_none_iff_exists'.mp (mt obstacle?_eq_none_iff.mp hfree)
      rw [hcause, List.filter_cons_of_pos (by simpa using hfree)]
      exact List.rel_append ih (.cons (reportsRefusal_of_obstacle hcause) .nil)

/-- Placing goes on behind the findings that there are, and does not look at them. -/
theorem foldl_add_noted (d : Destination) (noted : List Finding) (ws : List WrapperModule) :
    ws.foldl (add d) { findings := noted } =
      ⟨(ofWrappers d ws).placed, noted ++ (ofWrappers d ws).findings⟩ := by
  induction ws using List.reverseRecOn with
  | nil => simp [ofWrappers]
  | append_singleton ws w ih =>
    rw [List.foldl_concat, ih, ofWrappers_concat]
    unfold add
    dsimp only
    cases obstacle? d (ofWrappers d ws).placed w with
    | some cause => simp
    | none => rfl

/-- A wrapper is placed exactly if it is the first that asks for its target. -/
theorem mem_placed_iff {ws : List WrapperModule} :
    w ∈ (ofWrappers d ws).placed.map PlacedWrapper.wrapper ↔
      ws.find? (d.asksFor (d.target w)) = some w := by
  have hprogress := ofWrappers_progress d ws
  have hfirst := find?_placed d ws (d.target w)
  constructor
  · intro hw
    obtain ⟨p, hp, rfl⟩ := List.mem_map.mp hw
    obtain ⟨q, hq⟩ : ∃ q, (ofWrappers d ws).placed.find?
        (fun q => q.target == d.target p.wrapper) = some q := by
      rw [← Option.isSome_iff_exists, List.find?_isSome]
      exact ⟨p, hp, beq_iff_eq.mpr (hprogress.targets p hp)⟩
    have htarget : q.target = p.target := by
      rw [hprogress.targets p hp]
      simpa using List.find?_some hq
    have hsame : q = p :=
      List.inj_on_of_nodup_map hprogress.distinct (List.mem_of_find?_eq_some hq) hp htarget
    rw [hq, hsame] at hfirst
    obtain ⟨v, hv, hvp⟩ := Option.map_eq_some_iff.mp hfirst.symm
    rw [hv, ← hvp]
  · intro hw
    rw [hw, Option.map_some] at hfirst
    exact List.mem_map.mpr ⟨_, List.mem_of_find?_eq_some hfirst, rfl⟩

end Placement

/-! ## The wrappers of a pass -/

namespace PassRequest

/-- Sorting keeps the wrappers of one file name as they come. -/
theorem filter_sortWrappers (ws : List WrapperModule) (name : String) :
    (sortWrappers ws).filter (fun w => w.fileName == name) =
      ws.filter fun w => w.fileName == name := by
  have hnames : ∀ w ∈ ws.filter (fun w => w.fileName == name), w.fileName = name := by
    intro w hw
    simpa using (List.mem_filter.mp hw).2
  have halike : (ws.filter fun w => w.fileName == name).Pairwise fun v w =>
      decide (v.fileName ≤ w.fileName) = true := by
    apply List.pairwise_of_forall_mem_list
    intro v hv w hw
    rw [hnames v hv, hnames w hw]
    exact decide_eq_true (String.le_refl name)
  have hsub : (ws.filter fun w => w.fileName == name).Sublist (sortWrappers ws) := by
    refine List.sublist_mergeSort ?_ ?_ halike List.filter_sublist
    · intro u v w huv hvw
      rw [decide_eq_true_eq] at *
      exact String.le_trans huv hvw
    · intro v w
      rw [Bool.or_eq_true, decide_eq_true_eq, decide_eq_true_eq]
      exact String.le_total _ _
  have hperm : (sortWrappers ws).Perm ws := List.mergeSort_perm _ _
  have hsame := (hsub.filter fun w => w.fileName == name).eq_of_length
  rw [List.filter_filter] at hsame
  simp only [Bool.and_self] at hsame
  exact (hsame (hperm.filter _).length_eq.symm).symm

/-- Among wrappers of one file name, the first one of a kind is the first one after sorting. -/
theorem find?_sortWrappers {ws : List WrapperModule} {kind : WrapperModule → Bool} {name : String}
    (h : ∀ w ∈ ws, kind w = true → w.fileName = name) :
    (sortWrappers ws).find? kind = ws.find? kind := by
  have hnamed : ∀ vs : List WrapperModule, (∀ v ∈ vs, v ∈ ws) →
      vs.filter kind = (vs.filter fun w => w.fileName == name).filter kind := by
    intro vs hvs
    rw [List.filter_filter]
    apply List.filter_congr
    intro v hv
    cases hkind : kind v with
    | false => rfl
    | true => simp [h v (hvs v hv) hkind]
  rw [← List.head?_filter, ← List.head?_filter, hnamed ws fun v hv => hv, hnamed (sortWrappers ws),
    filter_sortWrappers]
  intro v hv
  exact List.mem_mergeSort.mp hv

variable {r : PassRequest} {survey : Survey} {tree : FileTree} {directory : Path}
  {v w : WrapperModule}

/-- Wrappers stand at the locations of their declarations, in the same order. -/
theorem origins_sublist (index : SourceIndex) (a : Assembler) (cs : List Candidate) :
    (((cs.map (Outcome.reached index a)).filterMap Outcome.wrapper?).map
      WrapperModule.origin).Sublist (cs.map Candidate.origin) := by
  induction cs with
  | nil => exact .slnil
  | cons c cs ih =>
    rw [List.map_cons, List.map_cons]
    cases hreached : Outcome.reached index a c with
    | finding f => exact ih.cons _
    | wrapper w =>
      rw [← (Outcome.askedBy_of_reached hreached).2.origin]
      exact ih.cons_cons _

/-- The wrappers that a pass assembles come by location, each at one of its own. -/
theorem assembled_by_origin (hindex : survey.index.Faithful tree r.root) :
    (((r.outcomesOf survey).filterMap Outcome.wrapper?).Pairwise fun v w =>
      v.origin.upTo w.origin) ∧
    (((r.outcomesOf survey).filterMap Outcome.wrapper?).map WrapperModule.origin).Nodup := by
  have hsub := origins_sublist survey.index (r.assemblerFor survey.settings) (keptOf survey)
  have hsorted : ((keptOf survey).map Candidate.origin).Pairwise fun a b => a.upTo b = true :=
    List.pairwise_map.mpr (pairwise_sorted Candidate.origin _)
  have hdistinct : ((keptOf survey).map Candidate.origin).Nodup := by
    obtain ⟨others, hperm, -⟩ := Selection.ofCandidates_spec survey.index survey.index.candidates
    have hall := (hperm.map Candidate.origin).nodup_iff.mpr hindex.candidates_distinct
    rw [List.map_append] at hall
    exact hall.of_append_left
  exact ⟨List.pairwise_map.mp (hsorted.sublist hsub), hsub.nodup hdistinct⟩

/-- An assembled wrapper was asked for by a declaration of its class name, which is an
identifier. -/
theorem fileName_of_mem_assembled (hindex : survey.index.Faithful tree r.root)
    (hw : w ∈ (r.outcomesOf survey).filterMap Outcome.wrapper?) :
    w.fileName = Assembler.companionName w.source.name ++ (r.assemblerFor survey.settings).suffix ∧
      Text.isIdentifier w.source.name = true := by
  obtain ⟨c, hc, hreached⟩ := mem_assembled.mp hw
  have hasked := (Outcome.askedBy_of_reached hreached).2
  rw [hasked.fileName, hasked.source]
  exact ⟨rfl, (hindex.candidate_spec (mem_candidates_of_mem_keptOf hc)).1⟩

/-- In an output directory, wrappers of one class name have one target and others do not. -/
theorem target_eq_iff_name (hindex : survey.index.Faithful tree r.root)
    (houtput : (r.destination survey.settings).output = some directory)
    (hv : v ∈ (r.outcomesOf survey).filterMap Outcome.wrapper?)
    (hw : w ∈ (r.outcomesOf survey).filterMap Outcome.wrapper?) :
    (r.destination survey.settings).target v = (r.destination survey.settings).target w ↔
      v.source.name = w.source.name := by
  obtain ⟨hfile, hname⟩ := fileName_of_mem_assembled hindex hv
  obtain ⟨hfile', hname'⟩ := fileName_of_mem_assembled hindex hw
  obtain ⟨first, rest, hread⟩ :=
    exists_ofText_companionName (r.assemblerFor survey.settings).suffix
  have htarget : ∀ u : WrapperModule, Text.isIdentifier u.source.name = true → u.fileName =
      Assembler.companionName u.source.name ++ (r.assemblerFor survey.settings).suffix →
      (r.destination survey.settings).target u = ⟨directory.anchor, directory.names ++
        (Assembler.companionName u.source.name ++ first) :: rest⟩ := by
    intro u hname hfile
    unfold Destination.target
    rw [houtput, Option.getD_some, hfile, Path.below, Path.join, hread _ hname, if_pos rfl]
  rw [htarget v hname hfile, htarget w hname' hfile']
  constructor
  · intro h
    rw [Path.mk.injEq] at h
    exact companionName_append_injective (List.cons.inj (List.append_cancel_left h.2)).1
  · intro h
    rw [h]

/-- In an output directory, an assembled wrapper is placed exactly if it has no relative imports and
no other one of its class name without them comes before it. -/
theorem mem_placed_iff_least (hindex : survey.index.Faithful tree r.root)
    (houtput : (r.destination survey.settings).output = some directory)
    (hw : w ∈ (r.outcomesOf survey).filterMap Outcome.wrapper?) :
    w ∈ (r.placementOf survey).placed.map PlacedWrapper.wrapper ↔
      w.relativeImports = false ∧ ∀ v ∈ (r.outcomesOf survey).filterMap Outcome.wrapper?,
        v.source.name = w.source.name → v.relativeImports = false →
          w.origin.upTo v.origin = true := by
  obtain ⟨hsorted, hdistinct⟩ := r.assembled_by_origin hindex
  have hrefuses : ∀ u : WrapperModule,
      (r.destination survey.settings).refusesImports u = u.relativeImports := by
    intro u
    unfold Destination.refusesImports
    rw [houtput]
    rfl
  have hasks : ∀ v ∈ (r.outcomesOf survey).filterMap Outcome.wrapper?,
      ((r.destination survey.settings).asksFor ((r.destination survey.settings).target w) v = true
        ↔ v.relativeImports = false ∧ v.source.name = w.source.name) := by
    intro v hv
    rw [Destination.asksFor_iff, target_eq_iff_name hindex houtput hv hw, hrefuses]
  have hfiles : ∀ v ∈ (r.outcomesOf survey).filterMap Outcome.wrapper?,
      (r.destination survey.settings).asksFor ((r.destination survey.settings).target w) v = true →
        v.fileName = w.fileName := by
    intro v hv hasked
    rw [(fileName_of_mem_assembled hindex hv).1, (fileName_of_mem_assembled hindex hw).1,
      ((hasks v hv).mp hasked).2]
  unfold placementOf
  rw [Placement.mem_placed_iff, find?_sortWrappers hfiles,
    find?_eq_some_iff_least hsorted hdistinct, hasks w hw]
  constructor
  · rintro ⟨-, ⟨hfits, -⟩, hleast⟩
    exact ⟨hfits, fun v hv hname hfits' => hleast v hv ((hasks v hv).mpr ⟨hfits', hname⟩)⟩
  · rintro ⟨hfits, hleast⟩
    refine ⟨hw, ⟨hfits, rfl⟩, fun v hv hasked => ?_⟩
    obtain ⟨hfits', hname⟩ := (hasks v hv).mp hasked
    exact hleast v hv hname hfits'

/-- In an output directory no two placed wrappers have one class name. -/
theorem nodup_placed_names (hindex : survey.index.Faithful tree r.root)
    (houtput : (r.destination survey.settings).output = some directory) :
    ((r.placementOf survey).placed.map fun p => p.wrapper.source.name).Nodup := by
  have hassembled : ∀ p ∈ (r.placementOf survey).placed,
      p.wrapper ∈ (r.outcomesOf survey).filterMap Outcome.wrapper? :=
    fun p hp => mem_assembled.mpr (reached_of_mem_placed hp)
  have hdistinct : (r.placementOf survey).placed.Pairwise fun p q => p.target ≠ q.target :=
    List.pairwise_map.mp (Placement.ofWrappers_progress _ _).distinct
  rw [List.Nodup, List.pairwise_map]
  apply hdistinct.imp_of_mem
  intro p q hp hq hne hname
  rw [(askedBy_of_mem_placed hp).1, (askedBy_of_mem_placed hq).1] at hne
  exact hne ((target_eq_iff_name hindex houtput (hassembled p hp) (hassembled q hq)).mpr hname)

/-- A pass places what it has assembled, by file name, behind the findings that there are. -/
theorem planOf_places (r : PassRequest) (survey : Survey) :
    ∃ noted, (⟨(r.planOf survey).placed, (r.planOf survey).findings⟩ : Placement) =
      (sortWrappers ((r.outcomesOf survey).filterMap Outcome.wrapper?)).foldl
        (Placement.add (r.destination survey.settings)) { findings := noted } := by
  refine ⟨(Selection.ofCandidates survey.index survey.index.candidates).findings ++
    (r.outcomesOf survey).filterMap Outcome.finding?, ?_⟩
  rw [Placement.foldl_add_noted]
  rfl

/-- Placing keeps the wrappers that stand free after those before them, in order and at different
targets, and reports each other one behind the findings that there were. A pass places so what it
has assembled. With an output directory, it places of the assembled wrappers of one class name
without relative imports just the one whose declaration comes first. -/
theorem placement_keeps_first :
    (∀ (d : Destination) (noted : List Finding) (ws : List WrapperModule),
      let p := ws.foldl (Placement.add d) { findings := noted }
      p.placed = ((withEarlier ws).filter fun q => d.StandsFree q.1 q.2).map
        (fun q => ⟨d.target q.2, q.2⟩) ∧
      (p.placed.map PlacedWrapper.target).Nodup ∧
      ∃ refusals, p.findings = noted ++ refusals ∧
        List.Forall₂ (fun q f => d.ReportsRefusal p.placed q.2 f.diagnostic)
          ((withEarlier ws).filter fun q => ¬ d.StandsFree q.1 q.2) refusals) ∧
    ∀ (r : PassRequest) (tree : FileTree) (settings : Settings) (directory : Path),
      tree.WellFormed → r.root.IsPlain → Settings.load tree r.root = .ok settings →
      r.output.or settings.output.directory = some directory →
      (∀ plan, (r.plan tree).result = .ok plan →
        ∃ survey, (Survey.ofTree tree r.root r.scanSuffix).result = .ok survey ∧
          let assembled := (r.outcomesOf survey).filterMap Outcome.wrapper?
          (∃ noted, (⟨plan.placed, plan.findings⟩ : Placement) =
            (sortWrappers assembled).foldl (Placement.add ⟨r.root, some directory⟩)
              { findings := noted }) ∧
          (plan.placed.map fun p => p.wrapper.source.name).Nodup ∧
          ∀ w ∈ assembled, (w ∈ plan.placed.map PlacedWrapper.wrapper ↔
            w.relativeImports = false ∧ ∀ v ∈ assembled, v.source.name = w.source.name →
              v.relativeImports = false → w.origin.upTo v.origin = true)) ∧
      ∀ result, (r.run tree).2.result = .ok result →
        ∃ plan, (r.plan tree).result = .ok plan ∧
          result.wrappers = plan.placed.map PlacedWrapper.wrapper ∧
            result.findings = plan.findings := by
  refine ⟨?_, ?_⟩
  · intro d noted ws
    rw [Placement.foldl_add_noted]
    exact ⟨Placement.ofWrappers_placed d ws, (Placement.ofWrappers_progress d ws).distinct, _, rfl,
      Placement.ofWrappers_findings d ws⟩
  · intro r tree settings directory htree hroot hload houtput
    refine ⟨?_, fun result hrun => exists_plan_of_run hrun⟩
    intro plan hplan
    obtain ⟨survey, hsurvey, -, rfl⟩ := plan_result_eq_ok.mp hplan
    have hdestination : r.destination survey.settings = ⟨r.root, some directory⟩ := by
      unfold destination
      rw [settings_of_ofTree hload hsurvey, houtput]
    have hdirectory : (r.destination survey.settings).output = some directory := by
      rw [hdestination]
    have hindex := Survey.faithful_of_ofTree htree hroot hsurvey
    exact ⟨survey, hsurvey, hdestination ▸ r.planOf_places survey,
      nodup_placed_names hindex hdirectory, fun w hw => mem_placed_iff_least hindex hdirectory hw⟩

set_option maxRecDepth 100000 in
/-- The project with two modules of one name leads to two wrappers of one class name. -/
theorem twinSurvey_assembled :
    ((outputRequest.outcomesOf twinSurvey).filterMap Outcome.wrapper?).map
        (fun w => (w.source.name, w.origin, w.relativeImports)) =
      [("A", ⟨"x/m.py", 2, 1⟩, false), ("A", ⟨"y/m.py", 2, 1⟩, false)] := by
  unfold outcomesOf
  rw [twinSurvey_kept]
  decide +kernel

/-- Of the two wrappers, the one for the first module is placed in the output directory. -/
theorem placement_keeps_first_twinProject :
    ∃ plan v w, (outputRequest.plan twinProject).result = .ok plan ∧
      (outputRequest.outcomesOf twinSurvey).filterMap Outcome.wrapper? = [v, w] ∧
        v.source.name = w.source.name ∧ v.origin.path = "x/m.py" ∧ w.origin.path = "y/m.py" ∧
          v ∈ plan.placed.map PlacedWrapper.wrapper ∧
            w ∉ plan.placed.map PlacedWrapper.wrapper := by
  have hplan : (outputRequest.plan twinProject).result = .ok (outputRequest.planOf twinSurvey) :=
    plan_result_eq_ok.mpr ⟨twinSurvey, twinProject_survey, rfl, rfl⟩
  obtain ⟨hplans, -⟩ := placement_keeps_first.2 outputRequest twinProject
    { root := smallRequest.root } ⟨.root, ["out"]⟩ twinProject_wellFormed smallRequest_plain
    twinProject_load rfl
  obtain ⟨survey, hsurvey, -, -, hleast⟩ := hplans _ hplan
  have hsame : survey = twinSurvey := Except.ok.inj (hsurvey.symm.trans twinProject_survey)
  subst hsame
  obtain ⟨v, vs, hassembled, hv, hvs⟩ := List.map_eq_cons_iff.mp twinSurvey_assembled
  obtain ⟨w, ws, rfl, hw, hws⟩ := List.map_eq_cons_iff.mp hvs
  rw [List.map_eq_nil_iff.mp hws] at hassembled
  rw [Prod.mk.injEq, Prod.mk.injEq] at hv hw
  obtain ⟨hname, horigin, hfits⟩ := hv
  obtain ⟨hname', horigin', -⟩ := hw
  rw [hassembled] at hleast
  refine ⟨_, v, w, hplan, hassembled, hname.trans hname'.symm, congrArg Location.path horigin,
    congrArg Location.path horigin', ?_, ?_⟩
  · refine (hleast v List.mem_cons_self).mpr ⟨hfits, ?_⟩
    have hupTo : v.origin.upTo v.origin = true ∧ v.origin.upTo w.origin = true := by
      rw [horigin, horigin']
      decide
    simp [hupTo]
  · intro hplaced
    have hupTo := ((hleast w (by simp)).mp hplaced).2 v List.mem_cons_self
      (hname.trans hname'.symm) hfits
    rw [horigin, horigin'] at hupTo
    exact absurd hupTo (by decide)

end PassRequest

end SpanWeave
