import SpanWeave.Pass.Generation
import SpanWeave.Proofs.Pass.PlanResults

/-!
# What comes of one declaration

An eligible declaration comes to a wrapper of its own type or to one error; any other one is passed
over with its verdict. A wrapper is known by the declaration that asked for it: its file name, its
directory and its location follow from that declaration.
-/

set_option autoImplicit false

namespace SpanWeave

/-- A wrapper that a declaration asked for, with the given ending of its file name. -/
structure WrapperModule.AskedBy (suffix : String) (c : Candidate) (w : WrapperModule) : Prop where
  fileName : w.fileName = Assembler.companionName c.name ++ suffix
  directory : w.directory = (Path.ofText c.origin.path).parent.text
  origin : w.origin = c.origin
  source : w.source = c.identity

namespace SourceIndex

/-- A declaration resolves to a type of its own name at its own location. -/
theorem resolve_eq_some {index : SourceIndex} {c : Candidate} {t : LogicalType}
    (h : index.resolve c = some t) :
    t.name = c.name ∧ t.namespace = c.file.namespace ∧ t.origin = c.origin := by
  unfold resolve at h
  obtain ⟨entry, -, h⟩ := Option.bind_eq_some_iff.mp h
  obtain ⟨module, -, h⟩ := Option.bind_eq_some_iff.mp h
  dsimp only at h
  split at h
  · cases h
  · cases h
    exact ⟨rfl, rfl, rfl⟩

/-- What resolves has a module to import it from, and its fragments are those of its key. -/
theorem module_of_resolve {index : SourceIndex} {c : Candidate} {t : LogicalType}
    (h : index.resolve c = some t) :
    c.file.module = some t.module ∧ t.fragments = index.fragments c.key := by
  unfold resolve at h
  obtain ⟨entry, -, h⟩ := Option.bind_eq_some_iff.mp h
  obtain ⟨module, hmodule, h⟩ := Option.bind_eq_some_iff.mp h
  dsimp only at h
  split at h
  · cases h
  · cases h
    exact ⟨(Option.filter_eq_some_iff.mp hmodule).1, rfl⟩

/-- The fragments of a type are the classes of its key. -/
theorem mem_fragments {index : SourceIndex} {key : TypeKey} {f : Fragment} :
    f ∈ index.fragments key ↔ ∃ c ∈ index.classes, c.key = key ∧ c.fragment = f := by
  unfold fragments
  rw [List.mem_mergeSort, List.mem_map]
  constructor
  · rintro ⟨c, hc, rfl⟩
    obtain ⟨hmem, hkey⟩ := List.mem_filter.mp hc
    exact ⟨c, hmem, by simpa using hkey, rfl⟩
  · rintro ⟨c, hmem, hkey, rfl⟩
    exact ⟨c, List.mem_filter.mpr ⟨hmem, by simpa using hkey⟩, rfl⟩

/-- A class of a module that can be imported resolves to a type. -/
theorem exists_resolve {index : SourceIndex} {c : IndexedClass} (hc : c ∈ index.classes)
    {module : String} (hmodule : c.file.module = some module) (hne : module ≠ "") :
    ∃ t, index.resolve c.candidate = some t := by
  have hentry : (index.classAt? c.declaration.origin).isSome = true := by
    unfold classAt?
    rw [List.find?_isSome]
    exact ⟨c, List.mem_reverse.mpr hc, by simp⟩
  have hfragments : (index.fragments c.key).isEmpty = false := by
    rw [List.isEmpty_eq_false_iff]
    exact List.ne_nil_of_mem (mem_fragments.mpr ⟨c, hc, rfl, rfl⟩)
  obtain ⟨entry, hentry⟩ := Option.isSome_iff_exists.mp hentry
  have hat : index.classAt? c.candidate.origin = some entry := hentry
  have hkey : c.candidate.key = c.key := rfl
  have hnamed : c.candidate.file.module.filter (fun name => name != "") = some module :=
    Option.filter_eq_some_iff.mpr ⟨hmodule, by simpa using hne⟩
  unfold resolve
  rw [hat, hnamed, hkey]
  dsimp only [Option.bind_eq_bind, Option.bind_some]
  rw [hfragments]
  exact ⟨_, rfl⟩

/-- The candidates of an index are its marked classes. -/
theorem mem_candidates {index : SourceIndex} {c : Candidate} :
    c ∈ index.candidates ↔
      ∃ d ∈ index.classes, d.declaration.carries index.marker = true ∧ d.candidate = c := by
  unfold candidates
  rw [List.mem_mergeSort, List.mem_map]
  constructor
  · rintro ⟨d, hd, hsame⟩
    obtain ⟨hmem, hmarked⟩ := List.mem_filter.mp hd
    exact ⟨d, hmem, hmarked, hsame⟩
  · rintro ⟨d, hmem, hmarked, hsame⟩
    exact ⟨d, List.mem_filter.mpr ⟨hmem, hmarked⟩, hsame⟩

end SourceIndex

namespace Assembler

variable {a : Assembler} {t : LogicalType} {w : WrapperModule}

/-- The parts of a wrapper hold an override of each method, in order, under aliases that differ from
all names that the methods hand on. -/
theorem parts_eq_ok {members : CollectedMembers} {node : WrapperNode}
    (h : a.parts t members = .ok node) :
    let aliases := a.aliases.avoiding (takenNames members.methods)
    node.body.name = companionName t.name ∧ node.binding.spanSource = aliases.spanSource ∧
      node.binding.setTag = aliases.setTag ∧
        List.Forall₂ (fun c e => aliases.override c.member.name c.member.type c.signature
          (receiverName c.member) = .ok e) members.methods node.body.methods := by
  unfold parts at h
  obtain ⟨methods, hmethods, h⟩ := Traced.except_bind_eq_ok.mp h
  cases h
  exact ⟨rfl, rfl, rfl, forall₂_of_mapM_eq_ok hmethods⟩

/-- A type is wrapped if its members are collected and there are parts for them. -/
theorem wrap_result_eq_ok :
    (a.wrap t).result = .ok w ↔ ∃ members node, t.collect.result = .ok members ∧
      a.parts t members = .ok node ∧ w = a.moduleOf t members node := by
  unfold wrap
  constructor
  · intro h
    obtain ⟨members, hmembers, h⟩ := Traced.result_bind_eq_ok.mp h
    obtain ⟨node, hparts, h⟩ := Traced.result_bind_eq_ok.mp h
    rw [Traced.result_note_bind] at h
    cases h
    exact ⟨members, node, hmembers, hparts, rfl⟩
  · rintro ⟨members, node, hmembers, hparts, rfl⟩
    rw [Traced.result_bind_of_ok hmembers, Traced.result_bind_of_ok hparts,
      Traced.result_note_bind]
    rfl

theorem assemble_result_of_eligible (h : Verdict.ofType? (some t) = .eligible) :
    (a.assemble (some t)).result = (a.wrap t).result.map fun w => (.eligible, some w) := by
  unfold assemble
  split
  · rename_i t' heligible hsome
    cases hsome
    rw [Traced.result_bind]
    cases (a.wrap t).result <;> rfl
  · rename_i hother
    exact absurd rfl (hother t h)

theorem assemble_result_of_ineligible {t? : Option LogicalType}
    (h : Verdict.ofType? t? ≠ .eligible) :
    (a.assemble t?).result = .ok (Verdict.ofType? t?, none) := by
  unfold assemble
  split
  · rename_i heligible
    exact absurd heligible h
  · rfl

/-- A wrapper is assembled of a type if the type is eligible and is wrapped. -/
theorem assemble_result_eq_ok :
    (a.assemble (some t)).result = .ok (.eligible, some w) ↔
      Verdict.ofType? (some t) = .eligible ∧ (a.wrap t).result = .ok w := by
  by_cases heligible : Verdict.ofType? (some t) = .eligible
  · rw [assemble_result_of_eligible heligible]
    cases (a.wrap t).result <;> simp [Except.map, heligible]
  · rw [assemble_result_of_ineligible heligible]
    simp [heligible]

/-- Whether a wrapper is assembled can be told without comparing wrappers. -/
theorem exists_wrapper_of_any {t? : Option LogicalType}
    (h : (a.assemble t?).result.toOption.any (fun p => p.1 = .eligible && p.2.isSome) = true) :
    ∃ w, (a.assemble t?).result = .ok (.eligible, some w) := by
  cases hresult : (a.assemble t?).result with
  | error e =>
    rw [hresult] at h
    cases h
  | ok p =>
    obtain ⟨verdict, w?⟩ := p
    simp only [hresult, Except.toOption, Option.any_some, Bool.and_eq_true, decide_eq_true_eq] at h
    obtain ⟨rfl, hsome⟩ := h
    obtain ⟨w, rfl⟩ := Option.isSome_iff_exists.mp hsome
    exact ⟨w, rfl⟩

/-- A candidate from which a wrapper is assembled whose parts pass a check. -/
theorem exists_parts_of_any (a : Assembler) (index : SourceIndex)
    (check : LogicalType → CollectedMembers → WrapperNode → Bool)
    (h : (index.candidates.any fun c => (index.resolve c).any fun t =>
      decide (Verdict.ofType? (some t) = .eligible) &&
        t.collect.result.toOption.any fun members =>
          (a.parts t members).toOption.any (check t members)) = true) :
    ∃ c ∈ index.candidates, ∃ t members node, index.resolve c = some t ∧
      (a.assemble (some t)).result = .ok (.eligible, some (a.moduleOf t members node)) ∧
        t.collect.result = .ok members ∧ a.parts t members = .ok node ∧
          check t members node = true := by
  obtain ⟨c, hc, h⟩ := List.any_eq_true.mp h
  obtain ⟨t, ht, h⟩ := (Option.any_eq_true _ _).mp h
  rw [Bool.and_eq_true, decide_eq_true_eq] at h
  obtain ⟨heligible, h⟩ := h
  obtain ⟨members, hmembers, h⟩ := (Option.any_eq_true _ _).mp h
  obtain ⟨node, hnode, h⟩ := (Option.any_eq_true _ _).mp h
  replace hmembers := Traced.eq_ok_of_toOption hmembers
  replace hnode := Traced.eq_ok_of_toOption hnode
  exact ⟨c, hc, t, members, node, ht, assemble_result_eq_ok.mpr ⟨heligible,
    wrap_result_eq_ok.mpr ⟨members, node, hmembers, hnode, rfl⟩⟩, hmembers, hnode, h⟩

/-- The marked classes can be searched in place of the candidates, which are sorted. -/
theorem exists_parts_of_any_class (a : Assembler) (index : SourceIndex)
    (check : LogicalType → CollectedMembers → WrapperNode → Bool)
    (h : (index.classes.any fun d => d.declaration.carries index.marker &&
      (index.resolve d.candidate).any fun t =>
        decide (Verdict.ofType? (some t) = .eligible) &&
          t.collect.result.toOption.any fun members =>
            (a.parts t members).toOption.any (check t members)) = true) :
    ∃ c ∈ index.candidates, ∃ t members node, index.resolve c = some t ∧
      (a.assemble (some t)).result = .ok (.eligible, some (a.moduleOf t members node)) ∧
        t.collect.result = .ok members ∧ a.parts t members = .ok node ∧
          check t members node = true := by
  obtain ⟨d, hd, hfound⟩ := List.any_eq_true.mp h
  rw [Bool.and_eq_true] at hfound
  have hcandidate := SourceIndex.mem_candidates.mpr ⟨d, hd, hfound.1, rfl⟩
  exact exists_parts_of_any a index check (List.any_eq_true.mpr ⟨_, hcandidate, hfound.2⟩)

/-- The wrapper of a type is named after the type and stands where the type does. -/
theorem wrap_result_names (h : (a.wrap t).result = .ok w) :
    w.fileName = companionName t.name ++ a.suffix ∧
      w.directory = (Path.ofText t.origin.path).parent.text ∧ w.origin = t.origin ∧
        w.source = t.identity := by
  obtain ⟨members, node, -, hparts, rfl⟩ := wrap_result_eq_ok.mp h
  exact ⟨congrArg (· ++ a.suffix) (parts_eq_ok hparts).1, rfl, rfl, rfl⟩

end Assembler

namespace Outcome

variable {index : SourceIndex} {a : Assembler} {c : Candidate}

/-- A declaration that is not eligible is passed over with its verdict. -/
theorem reached_of_ineligible (h : index.verdict c ≠ .eligible) :
    reached index a c = .finding ⟨.passedOver c.identity (index.verdict c), c.origin⟩ := by
  have hassemble : (a.assemble (index.resolve c)).result = .ok (index.verdict c, none) :=
    Assembler.assemble_result_of_ineligible h
  unfold reached
  rw [hassemble]

/-- An eligible declaration comes to its own wrapper or to one failure. -/
theorem reached_of_eligible (h : index.verdict c = .eligible) :
    (∃ w, reached index a c = .wrapper w ∧ w.AskedBy a.suffix c) ∨
      ∃ e : GenerationError,
        reached index a c = .finding ⟨.failed c.identity e, e.origin?.getD c.origin⟩ := by
  unfold SourceIndex.verdict at h
  cases hresolve : index.resolve c with
  | none =>
    rw [hresolve] at h
    cases h
  | some t =>
    rw [hresolve] at h
    obtain ⟨hname, hnamespace, horigin⟩ := SourceIndex.resolve_eq_some hresolve
    unfold reached
    rw [hresolve, Assembler.assemble_result_of_eligible h]
    cases hwrap : (a.wrap t).result with
    | error e => exact Or.inr ⟨e, rfl⟩
    | ok w =>
      obtain ⟨hfile, hdirectory, hw, hsource⟩ := Assembler.wrap_result_names hwrap
      refine Or.inl ⟨w, rfl, ?_, ?_, hw.trans horigin, ?_⟩
      · rw [hfile, hname]
      · rw [hdirectory, horigin]
      · rw [hsource, LogicalType.identity, hname, hnamespace]
        rfl

/-- Only an eligible declaration comes to a wrapper, and the wrapper is its own. -/
theorem askedBy_of_reached {w : WrapperModule} (h : reached index a c = .wrapper w) :
    index.verdict c = .eligible ∧ w.AskedBy a.suffix c := by
  by_cases heligible : index.verdict c = .eligible
  · rcases reached_of_eligible (a := a) heligible with ⟨w', hw', hasked⟩ | ⟨e, he⟩
    · rw [hw'] at h
      cases h
      exact ⟨heligible, hasked⟩
    · rw [he] at h
      cases h
  · rw [reached_of_ineligible heligible] at h
    cases h

/-- A declaration comes to a wrapper if it resolves to an eligible type that is wrapped. -/
theorem reached_eq_wrapper {w : WrapperModule} :
    reached index a c = .wrapper w ↔ index.verdict c = .eligible ∧
      ∃ t, index.resolve c = some t ∧ (a.wrap t).result = .ok w := by
  constructor
  · intro h
    have heligible := (askedBy_of_reached h).1
    refine ⟨heligible, ?_⟩
    unfold SourceIndex.verdict at heligible
    cases hresolve : index.resolve c with
    | none =>
      rw [hresolve] at heligible
      cases heligible
    | some t =>
      rw [hresolve] at heligible
      unfold reached at h
      rw [hresolve, Assembler.assemble_result_of_eligible heligible] at h
      cases hwrap : (a.wrap t).result with
      | error e =>
        rw [hwrap] at h
        cases h
      | ok v =>
        rw [hwrap] at h
        cases h
        exact ⟨t, rfl, hwrap⟩
  · rintro ⟨heligible, t, hresolve, hwrap⟩
    unfold SourceIndex.verdict at heligible
    rw [hresolve] at heligible
    unfold reached
    rw [hresolve, Assembler.assemble_result_of_eligible heligible, hwrap]
    rfl

end Outcome

end SpanWeave
