import SpanWeave.Proofs.Index.AddingOrder
import SpanWeave.Proofs.Pass.Conservation

/-!
# What marked declarations resolve to

An index answers questions about locations, about types and about marks. As long as every class has
a location of its own, the answers fit together: the class that is found at the location of a marked
declaration is that declaration, so it carries the marker, and it is found again among the fragments
of its type. Only a module without a name to import it by keeps a marked declaration from resolving,
and no report of a tree ever misses a marker.
-/

set_option autoImplicit false

namespace SpanWeave

namespace SourceIndex

/-- The classes that share a declaration's name, its namespace and its import root. -/
def namesakes (index : SourceIndex) (c : Candidate) : List IndexedClass :=
  index.classes.filter fun d => d.declaration.name = c.name ∧
    d.file.namespace = c.file.namespace ∧ d.file.importRoot = c.file.importRoot

/-- What the type that a marked class resolves to says of the class and of its namesakes. -/
structure Describes (index : SourceIndex) (d : IndexedClass) (t : LogicalType) : Prop where
  name : t.name = d.declaration.name
  «namespace» : t.namespace = d.file.namespace
  module : d.file.module = some t.module
  origin : t.origin = d.declaration.origin
  isMarked : t.isMarked = true
  isAbstract : t.isAbstract = d.declaration.isAbstract
  own : d.fragment ∈ t.fragments
  fragments : t.fragments.Perm ((index.namesakes d.candidate).map IndexedClass.fragment)
  ordered : t.fragments.Pairwise fun a b => a.origin.upTo b.origin = true ∧ a.origin ≠ b.origin

/-- A marked declaration and what it resolves to: a type that describes the declaration, unless its
module has no name to import it by. -/
def ResolvesWell (index : SourceIndex) (c : Candidate) : Prop :=
  ∃ d ∈ index.classes, d.candidate = c ∧
    (index.resolve c = none ↔ c.file.module = none ∨ c.file.module = some "") ∧
      ∀ t, index.resolve c = some t → index.Describes d t

section

variable {index : SourceIndex} {d : IndexedClass}

theorem key_eq_iff {c : Candidate} :
    d.key = c.key ↔ d.declaration.name = c.name ∧ d.file.namespace = c.file.namespace ∧
      d.file.importRoot = c.file.importRoot := by
  unfold IndexedClass.key Candidate.key Candidate.identity
  rw [TypeKey.mk.injEq, TypeIdentity.mk.injEq]
  constructor
  · rintro ⟨hroot, hnamespace, hname⟩
    exact ⟨hname, hnamespace, hroot⟩
  · rintro ⟨hname, hnamespace, hroot⟩
    exact ⟨hroot, hnamespace, hname⟩

/-- The fragments of a declaration's type are its namesakes. -/
theorem fragments_perm (index : SourceIndex) (c : Candidate) :
    (index.fragments c.key).Perm ((index.namesakes c).map IndexedClass.fragment) := by
  have hsame : (index.classes.filter fun d => d.key == c.key) = index.namesakes c := by
    unfold namesakes
    apply List.filter_congr
    intro d _
    rw [Bool.beq_eq_decide_eq, decide_eq_decide]
    exact key_eq_iff
  unfold fragments
  rw [hsame]
  exact List.mergeSort_perm _ _

/-- What resolves has a name to import it by and is described by the class at its location. -/
theorem entry_of_resolve {c : Candidate} {t : LogicalType} (h : index.resolve c = some t) :
    t.module ≠ "" ∧ ∃ entry, index.classAt? c.origin = some entry ∧
      t.isAbstract = entry.declaration.isAbstract ∧
        t.isMarked = entry.declaration.carries index.marker := by
  unfold resolve at h
  obtain ⟨entry, hentry, h⟩ := Option.bind_eq_some_iff.mp h
  obtain ⟨module, hmodule, h⟩ := Option.bind_eq_some_iff.mp h
  have hne : module ≠ "" := by simpa using (Option.filter_eq_some_iff.mp hmodule).2
  dsimp only at h
  split at h
  · cases h
  · cases h
    exact ⟨hne, entry, hentry, rfl, rfl⟩

variable (hdistinct : (index.classes.map fun c => c.declaration.origin).Nodup)

include hdistinct

theorem pairwise_fragments (key : TypeKey) :
    (index.fragments key).Pairwise fun a b =>
      a.origin.upTo b.origin = true ∧ a.origin ≠ b.origin := by
  have horigins : ((index.fragments key).map Fragment.origin).Nodup := by
    unfold fragments
    rw [((List.mergeSort_perm _ _).map _).nodup_iff, List.map_map]
    exact hdistinct.sublist (List.filter_sublist.map _)
  exact (pairwise_sorted Fragment.origin _).and (List.pairwise_map.mp horigins)

/-- Where every class has a location of its own, marked declarations resolve well. -/
theorem resolvesWell {c : Candidate} (hc : c ∈ index.candidates) : index.ResolvesWell c := by
  obtain ⟨d, hd, hmarked, rfl⟩ := mem_candidates.mp hc
  refine ⟨d, hd, rfl, ?_, ?_⟩
  · constructor
    · intro hnone
      cases hmodule : d.file.module with
      | none => exact Or.inl hmodule
      | some module =>
        by_cases hempty : module = ""
        · exact Or.inr (by rw [← hempty]; exact hmodule)
        · obtain ⟨t, ht⟩ := exists_resolve hd hmodule hempty
          rw [hnone] at ht
          cases ht
    · intro hmodule
      by_contra hsome
      obtain ⟨t, ht⟩ := Option.ne_none_iff_exists'.mp hsome
      have hnamed : d.file.module = some t.module := (module_of_resolve ht).1
      rcases hmodule with hnone | hempty
      · rw [show d.file.module = none from hnone] at hnamed
        cases hnamed
      · rw [show d.file.module = some "" from hempty] at hnamed
        exact (entry_of_resolve ht).1 (Option.some.inj hnamed).symm
  · intro t ht
    obtain ⟨hname, hnamespace, horigin⟩ := resolve_eq_some ht
    obtain ⟨hmodule, hfragments⟩ := module_of_resolve ht
    obtain ⟨-, entry, hentry, habstract, hcarries⟩ := entry_of_resolve ht
    -- the class at the location of the declaration is the declaration itself
    have hself : index.classAt? d.declaration.origin = some d :=
      (find?_reverse_eq_some_iff hdistinct).mpr ⟨hd, rfl⟩
    have hentry' : index.classAt? d.declaration.origin = some entry := hentry
    rw [hself, Option.some.injEq] at hentry'
    subst hentry'
    exact
      { name := hname
        «namespace» := hnamespace
        module := hmodule
        origin := horigin
        isMarked := hcarries.trans hmarked
        isAbstract := habstract
        own := hfragments ▸ mem_fragments.mpr ⟨d, hd, rfl, rfl⟩
        fragments := hfragments ▸ index.fragments_perm d.candidate
        ordered := hfragments ▸ pairwise_fragments hdistinct _ }

theorem verdict_ne_missingMarker {c : Candidate} (hc : c ∈ index.candidates) :
    index.verdict c ≠ .missingMarker := by
  obtain ⟨d, -, -, -, hdescribes⟩ := resolvesWell hdistinct hc
  unfold verdict
  cases hresolve : index.resolve c with
  | none => simp [Verdict.ofType?]
  | some t =>
    have hmarked := (hdescribes t hresolve).isMarked
    unfold Verdict.ofType?
    dsimp only
    rw [hmarked]
    cases t.isAbstract <;> simp

end

end SourceIndex

/-! ## Modules that stand in their files -/

/-- The classes of a module stand in its file, each at a place of its own. -/
structure ModuleReading.StandsIn (module : ModuleReading) (file : SourceFile) : Prop where
  paths : ∀ declaration ∈ module.classes, declaration.origin.path = file.path
  distinct : (module.classes.map ClassDeclaration.origin).Nodup

/-- What is read of a file stands in the file. -/
theorem ModuleReading.ofBytes_standsIn (file : SourceFile) (content : List UInt8) :
    (ModuleReading.ofBytes file.path content).StandsIn file := by
  obtain ⟨hdistinct, hclasses⟩ := ModuleReading.classes_ofBytes file.path content
  exact ⟨fun declaration h => (hclasses declaration h).1, hdistinct⟩

/-- In an index of modules that stand in different files every class has a location of its own. -/
theorem SourceIndex.nodup_addModules (marker : String)
    {modules : List (SourceFile × ModuleReading)} (hstands : ∀ m ∈ modules, m.2.StandsIn m.1)
    (hpaths : (modules.map fun m => m.1.path).Nodup) :
    ((({ marker } : SourceIndex).addModules modules).classes.map
      fun c => c.declaration.origin).Nodup := by
  rw [addModules_eq]
  refine nodup_origins ?_ ?_ hpaths
  · intro m hm
    unfold classesOf
    rw [List.map_map]
    exact (hstands m hm).distinct
  · intro m hm c hc
    obtain ⟨declaration, hmem, rfl⟩ := List.mem_map.mp hc
    exact (hstands m hm).paths declaration hmem

/-! ## Reports of missing markers -/

theorem Verdict.code_eq_iff {v : Verdict} : v.code = "missing-marker" ↔ v = .missingMarker := by
  cases v <;> decide

/-- What makes a pass fail is not a missing marker. -/
theorem Cause.code_ne_of_error {cause : Cause} (h : cause.severity = .error) :
    cause.code ≠ "missing-marker" := by
  cases cause with
  | passedOver type verdict => cases h
  | failed type error => cases error <;> simp [Cause.code, GenerationError.code]
  | duplicate type kept => cases h
  | relativeImport type directory => simp [Cause.code]
  | occupied type target owner => simp [Cause.code]

namespace PassRequest

/-- The fate of a marked declaration does not say that its marker is missing, unless the verdict
does. -/
theorem code_ne_of_fateIn {survey : Survey} {c : Candidate} {f : Finding}
    (hverdict : survey.index.verdict c ≠ .missingMarker) (h : FateIn survey c (.finding f)) :
    f.diagnostic.code ≠ "missing-marker" := by
  rcases h with ⟨-, -, hcode, -⟩ | ⟨-, -, -, hcode, -⟩ | ⟨-, -, herror⟩
  · rw [hcode]
    decide
  · rw [hcode]
    exact fun h => hverdict (Verdict.code_eq_iff.mp h)
  · exact Cause.code_ne_of_error herror

theorem code_ne_of_run {r : PassRequest} {tree : FileTree} (htree : tree.WellFormed)
    (hroot : r.root.IsPlain) {result : PassResult} (hrun : (r.run tree).2.result = .ok result)
    {f : Finding} (hf : f ∈ result.findings) : f.diagnostic.code ≠ "missing-marker" := by
  obtain ⟨survey, hsurvey, -, hfindings⟩ := planned_of_run hrun
  have hfaithful := Survey.faithful_of_ofTree htree hroot hsurvey
  rw [hfindings] at hf
  obtain ⟨fates, hfates, -, hperm⟩ := r.planOf_accounts survey hfaithful.candidates_distinct
  obtain ⟨o, ho, hof⟩ := List.mem_filterMap.mp (hperm.mem_iff.mp hf)
  obtain ⟨c, hc, hfate⟩ := exists_left_of_forall₂ hfates ho
  rw [Outcome.finding?_eq_some.mp hof] at hfate
  exact code_ne_of_fateIn (SourceIndex.verdict_ne_missingMarker hfaithful.distinct hc) hfate

theorem code_ne_of_ofTree {r : PassRequest} {tree : FileTree} (htree : tree.WellFormed)
    (hroot : r.root.IsPlain) {survey : Survey}
    (hsurvey : (Survey.ofTree tree r.root r.scanSuffix).result = .ok survey)
    {report : CandidateReport} (hreport : report ∈ survey.reports) :
    report.verdict.code ≠ "missing-marker" := by
  have hfaithful := Survey.faithful_of_ofTree htree hroot hsurvey
  obtain ⟨c, hc, rfl⟩ := List.mem_map.mp hreport
  intro hcode
  exact SourceIndex.verdict_ne_missingMarker hfaithful.distinct hc (Verdict.code_eq_iff.mp hcode)

end PassRequest

/-- Candidates resolve consistently in the index of modules that stand in different files, as all
modules that are read from a source do. A candidate resolves to nothing exactly if its module has no
name to import it by; else it resolves to a type that is marked, that is as abstract as the
declaration, and whose fragments are, by location, all classes of the declaration's name, namespace
and import root, itself among them. Therefore neither a check nor a pass reports that a marker is
missing. -/
theorem SourceIndex.candidates_resolve_consistently (marker : String)
    (modules : List (SourceFile × ModuleReading)) (hstands : ∀ m ∈ modules, m.2.StandsIn m.1)
    (hpaths : (modules.map fun m => m.1.path).Nodup) (r : PassRequest) (tree : FileTree)
    (htree : tree.WellFormed) (hroot : r.root.IsPlain) :
    (∀ c ∈ (({ marker } : SourceIndex).addModules modules).candidates,
        (({ marker } : SourceIndex).addModules modules).ResolvesWell c) ∧
      (∀ (file : SourceFile) (content : List UInt8),
        (ModuleReading.ofBytes file.path content).StandsIn file) ∧
        (∀ survey, (Survey.ofTree tree r.root r.scanSuffix).result = .ok survey →
          ∀ report ∈ survey.reports, report.verdict.code ≠ "missing-marker") ∧
          ∀ result, (r.run tree).2.result = .ok result →
            ∀ f ∈ result.findings, f.diagnostic.code ≠ "missing-marker" := by
  refine ⟨?_, ModuleReading.ofBytes_standsIn, ?_, ?_⟩
  · intro c hc
    exact resolvesWell (nodup_addModules marker hstands hpaths) hc
  · intro survey hsurvey report hreport
    exact PassRequest.code_ne_of_ofTree htree hroot hsurvey hreport
  · intro result hrun f hf
    exact PassRequest.code_ne_of_run htree hroot hrun hf

/-- Two modules of one package that share a type, which one of them declares twice, and a marked
type of a module that has no name to import it by. -/
def namesakeModules : List (SourceFile × ModuleReading) :=
  [((⟨"p/a.py", some "p.a", "p", ""⟩ : SourceFile),
      "@Instrumentation\nclass A: pass\n\n@Instrumentation\nclass A(ABC): pass\n"),
    (⟨"p/b.py", some "p.b", "p", ""⟩, "class A: pass\n"),
    (⟨"p/c-d.py", none, "p", ""⟩, "@Instrumentation\nclass A(ABC): pass\n")].map
      fun m => (m.1, .ofBytes m.1.path (Text.encode m.2))

/-- All marked declarations of the modules resolve well, and there are three of them. -/
theorem SourceIndex.candidates_resolve_consistently_namesakeModules :
    (∀ m ∈ namesakeModules, m.2.StandsIn m.1) ∧
      (namesakeModules.map fun m => m.1.path).Nodup ∧
        (({ marker := "Instrumentation" } : SourceIndex).addModules
          namesakeModules).candidates.length = 3 ∧
          (∀ c ∈ (({ marker := "Instrumentation" } : SourceIndex).addModules
              namesakeModules).candidates,
            (({ marker := "Instrumentation" } : SourceIndex).addModules
              namesakeModules).ResolvesWell c) ∧
            ∃ result, (smallRequest.run smallProject).2.result = .ok result ∧
              ∀ f ∈ result.findings, f.diagnostic.code ≠ "missing-marker" := by
  have hstands : ∀ m ∈ namesakeModules, m.2.StandsIn m.1 := by
    intro m hm
    obtain ⟨source, -, rfl⟩ := List.mem_map.mp hm
    exact ModuleReading.ofBytes_standsIn source.1 _
  have hpaths : (namesakeModules.map fun m => m.1.path).Nodup := by decide
  have hcount : ((({ marker := "Instrumentation" } : SourceIndex).addModules
      namesakeModules).classes.filter
        fun c => c.declaration.carries "Instrumentation").length = 3 := by
    decide +kernel
  obtain ⟨result, hrun, -⟩ := smallRequest_run
  obtain ⟨hresolve, -, -, hpass⟩ := candidates_resolve_consistently "Instrumentation"
    namesakeModules hstands hpaths smallRequest smallProject smallProject_wellFormed
    smallRequest_plain
  refine ⟨hstands, hpaths, ?_, hresolve, result, hrun, hpass result hrun⟩
  unfold candidates
  rw [List.length_mergeSort, List.length_map]
  exact hcount

end SpanWeave
