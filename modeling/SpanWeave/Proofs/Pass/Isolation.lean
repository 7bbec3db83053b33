import SpanWeave.Proofs.Index.AddingOrder
import SpanWeave.Proofs.Pass.SelectionResults
import SpanWeave.Proofs.Wrapper.AssemblyResults

/-!
# Types do not affect each other

A further module changes what an index says of the types that it declares and of no other type. A
type of another key has the same marked declarations and the same fragments as before, each of its
declarations resolves as before, the same one is kept, and the same comes of it. What the module
declares of its own types does not matter for this: they may be malformed, ineligible or declared
twice.
-/

set_option autoImplicit false

namespace SpanWeave

namespace SourceIndex

variable {index : SourceIndex} {file : SourceFile} {module : ModuleReading} {key : TypeKey}

/-- A further module has no classes of a type that it does not declare. -/
theorem filter_classesOf (hother : ∀ c ∈ classesOf file module, c.key ≠ key) :
    (classesOf file module).filter (fun c => c.key == key) = [] := by
  rw [List.filter_eq_nil_iff]
  intro c hc
  simpa using hother c hc

theorem fragments_add (hother : ∀ c ∈ classesOf file module, c.key ≠ key) :
    (index.add file module).fragments key = index.fragments key := by
  unfold fragments add
  dsimp only
  rw [List.filter_append, filter_classesOf hother, List.append_nil]

/-- The marked declarations of one type are those among the classes of this type. -/
theorem filter_candidates (index : SourceIndex) (key : TypeKey) :
    (index.candidates.filter fun c => c.key == key) =
      (((index.classes.filter fun c => c.key == key).filter fun c =>
        c.declaration.carries index.marker).map IndexedClass.candidate).mergeSort fun a b =>
          a.origin.upTo b.origin := by
  unfold candidates
  rw [filter_sorted, List.filter_map, List.filter_comm]
  rfl

theorem candidates_add (hother : ∀ c ∈ classesOf file module, c.key ≠ key) :
    ((index.add file module).candidates.filter fun c => c.key == key) =
      index.candidates.filter fun c => c.key == key := by
  rw [filter_candidates, filter_candidates]
  unfold add
  dsimp only
  rw [List.filter_append, filter_classesOf hother, List.append_nil]

/-- A further module hides no class at a location in another file. -/
theorem classAt?_add {origin : Location}
    (hfar : ∀ c ∈ classesOf file module, c.declaration.origin ≠ origin) :
    (index.add file module).classAt? origin = index.classAt? origin := by
  have hnone : (classesOf file module).reverse.find? (fun c => c.declaration.origin == origin) =
      none := by
    rw [List.find?_eq_none]
    intro c hc
    simpa using hfar c (List.mem_reverse.mp hc)
  unfold classAt? add
  dsimp only
  rw [List.reverse_append, List.find?_append, hnone, Option.none_or]

theorem resolve_add {c : Candidate} (hother : ∀ d ∈ classesOf file module, d.key ≠ c.key)
    (hfar : ∀ d ∈ classesOf file module, d.declaration.origin ≠ c.origin) :
    (index.add file module).resolve c = index.resolve c := by
  unfold resolve
  rw [classAt?_add hfar, fragments_add hother]
  rfl

/-- Which of several declarations is kept depends on the verdicts on them only. -/
theorem keptPosition_congr {one two : SourceIndex} {group : List Candidate}
    (h : ∀ c ∈ group, one.verdict c = two.verdict c) :
    one.keptPosition group = two.keptPosition group := by
  have hfind : (group.findIdx? fun c => one.verdict c == .eligible) =
      group.findIdx? fun c => two.verdict c == .eligible := by
    induction group with
    | nil => rfl
    | cons c group ih =>
      rw [List.findIdx?_cons, List.findIdx?_cons, h c List.mem_cons_self,
        ih fun d hd => h d (List.mem_cons_of_mem c hd)]
  unfold keptPosition
  rw [hfind]

/-! ## The types that a module leaves alone -/

/-- Two indexes that say the same of one type. -/
structure AgreesOn (one two : SourceIndex) (key : TypeKey) : Prop where
  candidates_eq : (two.candidates.filter fun c => c.key == key) =
    one.candidates.filter fun c => c.key == key
  fragments_eq : two.fragments key = one.fragments key
  resolve_eq : ∀ c ∈ one.candidates, c.key = key → two.resolve c = one.resolve c

namespace AgreesOn

variable {one two : SourceIndex}

/-- The same declaration of the type is kept. -/
theorem kept_eq (h : AgreesOn one two key) :
    ((Selection.ofCandidates two two.candidates).kept.filter fun c => c.key == key) =
      (Selection.ofCandidates one one.candidates).kept.filter fun c => c.key == key := by
  rw [Selection.filter_kept, Selection.filter_kept, h.candidates_eq, Selection.kept_ofGroup,
    Selection.kept_ofGroup]
  have hposition : two.keptPosition (one.candidates.filter fun c => c.key == key) =
      one.keptPosition (one.candidates.filter fun c => c.key == key) := by
    apply keptPosition_congr
    intro c hc
    obtain ⟨hmem, hkey⟩ := List.mem_filter.mp hc
    unfold verdict
    rw [h.resolve_eq c hmem (by simpa using hkey)]
  rw [hposition]

/-- The same comes of a declaration of the type, with the same records. -/
theorem outcome_eq {ε : Type} (h : AgreesOn one two key) (assembler : Assembler) {c : Candidate}
    (hc : c ∈ one.candidates) (hkey : c.key = key) :
    (Outcome.ofCandidate two assembler c : Traced ε Outcome) =
      Outcome.ofCandidate one assembler c := by
  unfold Outcome.ofCandidate
  rw [h.resolve_eq c hc hkey]

end AgreesOn

/-- A module in a new file leaves the types alone that it does not declare. -/
theorem agreesOn_add (hfar : ∀ c ∈ index.classes, c.declaration.origin.path ≠ file.path)
    (hpath : ∀ c ∈ classesOf file module, c.declaration.origin.path = file.path)
    (hother : ∀ c ∈ classesOf file module, c.key ≠ key) :
    AgreesOn index (index.add file module) key := by
  refine ⟨candidates_add hother, fragments_add hother, ?_⟩
  rintro c hc rfl
  refine resolve_add hother ?_
  intro d hd heq
  -- the candidate stands in a module that was added before, and so in another file
  obtain ⟨entry, hentry, -, rfl⟩ := mem_candidates.mp hc
  refine hfar entry hentry ?_
  rw [← hpath d hd, heq]
  rfl

/-- Whatever modules an index holds, adding one more in a new file always succeeds and leaves every
type alone that this module does not declare. The type has the same marked declarations in the same
order and the same fragments, each of its declarations resolves to the same type, the same one is
kept, and assembling the kept one comes to the same wrapper or the same finding. -/
theorem addSource_isolates {ε : Type} (marker : String) (modules : List (SourceFile × List UInt8))
    (file : SourceFile) (content : List UInt8) (hnew : ∀ m ∈ modules, m.1.path ≠ file.path) :
    ∃ (one two : SourceIndex) (reading : ModuleReading),
      (addSources { marker } modules : Traced ε SourceIndex).result = .ok one ∧
        (one.addSource file content : Traced ε (SourceIndex × ModuleReading)).result =
          .ok (two, reading) ∧
        ∀ key : TypeKey,
          (∀ d ∈ reading.classes, (⟨file.importRoot, ⟨file.namespace, d.name⟩⟩ : TypeKey) ≠ key) →
            (two.candidates.filter fun c => c.key == key) =
                (one.candidates.filter fun c => c.key == key) ∧
              two.fragments key = one.fragments key ∧
              (∀ c ∈ one.candidates, c.key = key → two.resolve c = one.resolve c) ∧
              ((Selection.ofCandidates two two.candidates).kept.filter fun c => c.key == key) =
                ((Selection.ofCandidates one one.candidates).kept.filter fun c => c.key == key) ∧
              ∀ (assembler : Assembler), ∀ c ∈ (Selection.ofCandidates one one.candidates).kept,
                c.key = key → (Outcome.ofCandidate two assembler c : Traced ε Outcome) =
                  Outcome.ofCandidate one assembler c := by
  obtain ⟨one, hone, hfar⟩ : ∃ one : SourceIndex,
      (addSources { marker } modules : Traced ε SourceIndex).result = .ok one ∧
        ∀ c ∈ one.classes, c.declaration.origin.path ≠ file.path := by
    refine ⟨_, addSources_result _ modules, ?_⟩
    intro c hc
    obtain ⟨m, hm, hc⟩ := List.mem_flatMap.mp hc
    rw [((classesIn_origins m.1 m.2).2 c hc).2.1]
    exact hnew m hm
  refine ⟨one, _, _, hone, addSource_result one file content, ?_⟩
  intro key hother
  have hagrees : one.AgreesOn (one.add file (.ofBytes file.path content)) key := by
    refine agreesOn_add hfar ?_ ?_
    · intro c hc
      exact ((classesIn_origins file content).2 c hc).2.1
    · intro c hc
      obtain ⟨d, hd, rfl⟩ := List.mem_map.mp hc
      exact hother d hd
  refine ⟨hagrees.candidates_eq, hagrees.fragments_eq, hagrees.resolve_eq, hagrees.kept_eq, ?_⟩
  intro assembler c hc hkey
  obtain ⟨others, hperm, -⟩ := Selection.ofCandidates_spec one one.candidates
  exact hagrees.outcome_eq assembler (hperm.mem_iff.mp (List.mem_append_left others hc)) hkey

/-- A module outside the package that marks a type of the same name twice, once with a method that
cannot be handed on and once without being abstract. -/
def namesake : SourceFile × List UInt8 :=
  (⟨"q/a.py", some "a", "", "q"⟩,
    Text.encode ("@Instrumentation\nclass A(ABC):\n  async def f(self): pass\n" ++
      "@Instrumentation\nclass A: pass\n"))

/-- The type that two modules share keeps its fragments and its declaration when a type of the same
name is added under another import root. -/
theorem addSource_isolates_namesake :
    (∀ m ∈ sharedType, m.1.path ≠ namesake.1.path) ∧
      ∃ (one two : SourceIndex) (reading : ModuleReading),
        (addSources { marker := "Instrumentation" } sharedType : Traced Unit SourceIndex).result =
            .ok one ∧
          (one.addSource namesake.1 namesake.2 :
            Traced Unit (SourceIndex × ModuleReading)).result = .ok (two, reading) ∧
          (∀ d ∈ reading.classes, (⟨"q", ⟨"", d.name⟩⟩ : TypeKey) ≠ ⟨"", ⟨"p", "A"⟩⟩) ∧
          two.fragments ⟨"", ⟨"p", "A"⟩⟩ = one.fragments ⟨"", ⟨"p", "A"⟩⟩ ∧
          ((Selection.ofCandidates two two.candidates).kept.filter
              fun c => c.key == ⟨"", ⟨"p", "A"⟩⟩) =
            (Selection.ofCandidates one one.candidates).kept.filter
              fun c => c.key == ⟨"", ⟨"p", "A"⟩⟩ := by
  have hnew : ∀ m ∈ sharedType, m.1.path ≠ namesake.1.path := by decide
  obtain ⟨one, two, reading, hone, htwo, hall⟩ :=
    addSource_isolates (ε := Unit) "Instrumentation" sharedType namesake.1 namesake.2 hnew
  have hother : ∀ d ∈ reading.classes,
      (⟨"q", ⟨"", d.name⟩⟩ : TypeKey) ≠ ⟨"", ⟨"p", "A"⟩⟩ := by
    intro d _ hsame
    have hroot : "q" = "" := congrArg TypeKey.importRoot hsame
    exact absurd hroot (by decide)
  obtain ⟨-, hfragments, -, hkept, -⟩ := hall ⟨"", ⟨"p", "A"⟩⟩ hother
  exact ⟨hnew, one, two, reading, hone, htwo, hother, hfragments, hkept⟩

end SourceIndex

end SpanWeave
