import SpanWeave.Proofs.Index.LocationOrder
import SpanWeave.Proofs.Index.Sources

/-!
# The order in which modules are added

An index keeps its classes in the order in which their modules were added, and every answer sorts
them by location or looks one up by its location. As no two classes share a location, two indexes
with the same classes answer alike, and so the order of adding does not matter.
-/

set_option autoImplicit false

namespace SpanWeave.SourceIndex

/-- Two indexes for one marker that hold the same classes in whatever order, each class at a
location of its own. -/
structure Agrees (one two : SourceIndex) : Prop where
  marker : one.marker = two.marker
  classes : one.classes.Perm two.classes
  distinct : (one.classes.map fun c => c.declaration.origin).Nodup

namespace Agrees

variable {one two : SourceIndex}

theorem distinct' (h : one.Agrees two) :
    (two.classes.map fun c => c.declaration.origin).Nodup :=
  (h.classes.map _).nodup_iff.mp h.distinct

/-- Both indexes list the same marked declarations in the same order. -/
theorem candidates_eq (h : one.Agrees two) : one.candidates = two.candidates := by
  unfold candidates
  rw [h.marker]
  apply sorted_eq_of_perm ((h.classes.filter _).map _)
  rw [List.map_map]
  exact h.distinct.sublist (List.filter_sublist.map _)

/-- Both indexes list the same declarations of a type in the same order. -/
theorem fragments_eq (h : one.Agrees two) (key : TypeKey) : one.fragments key = two.fragments key := by
  unfold fragments
  apply sorted_eq_of_perm ((h.classes.filter _).map _)
  rw [List.map_map]
  exact h.distinct.sublist (List.filter_sublist.map _)

/-- Both indexes find the same class at a location. -/
theorem classAt?_eq (h : one.Agrees two) (origin : Location) :
    one.classAt? origin = two.classAt? origin := by
  ext c
  unfold classAt?
  rw [find?_reverse_eq_some_iff h.distinct, find?_reverse_eq_some_iff h.distinct',
    h.classes.mem_iff]

/-- A candidate resolves to the same type in both indexes. -/
theorem resolve_eq (h : one.Agrees two) (c : Candidate) : one.resolve c = two.resolve c := by
  unfold resolve
  rw [h.classAt?_eq, h.fragments_eq, h.marker]

end Agrees

/-! ## Adding sources -/

/-- The index with the classes of more modules, given by their files and sources in order. -/
def addSources {ε : Type} (index : SourceIndex) (modules : List (SourceFile × List UInt8)) :
    Traced ε SourceIndex :=
  modules.foldlM (fun index m => Prod.fst <$> index.addSource m.1 m.2) index

/-- Sources are added one behind the other. -/
theorem addSources_result {ε : Type} (index : SourceIndex)
    (modules : List (SourceFile × List UInt8)) :
    (index.addSources modules : Traced ε SourceIndex).result =
      .ok { index with
        classes := index.classes ++ modules.flatMap fun m => classesIn m.1 m.2 } := by
  have hstep : ∀ (index : SourceIndex) (m : SourceFile × List UInt8),
      (Prod.fst <$> index.addSource m.1 m.2 : Traced ε SourceIndex).result =
        .ok (index.add m.1 (.ofBytes m.1.path m.2)) := by
    intro index m
    exact Traced.result_bind_of_ok (addSource_result index m.1 m.2) _
  have hadded := index.addModules_eq (modules.map fun m => (m.1, .ofBytes m.1.path m.2))
  unfold addModules at hadded
  rw [List.foldl_map, List.flatMap_map] at hadded
  unfold addSources
  rw [Traced.result_foldlM_of_ok hstep, hadded]
  rfl

/-- The same modules at different paths, added in two orders, give indexes that agree. -/
theorem agrees_of_perm (marker : String) {modules others : List (SourceFile × List UInt8)}
    (hperm : modules.Perm others) (hpaths : (modules.map fun m => m.1.path).Nodup) :
    Agrees ⟨marker, modules.flatMap fun m => classesIn m.1 m.2⟩
      ⟨marker, others.flatMap fun m => classesIn m.1 m.2⟩ := by
  refine ⟨rfl, hperm.flatMap_right _, ?_⟩
  refine nodup_origins (fun m _ => (classesIn_origins m.1 m.2).1) ?_ hpaths
  intro m _ c hc
  exact ((classesIn_origins m.1 m.2).2 c hc).2.1

/-- Adding the sources of modules at different paths always succeeds, and in whatever order they are
added, the index answers alike: it lists the same marked declarations in the same order, the same
fragments of each type in the same order, and it resolves each candidate to the same type. -/
theorem addSources_perm {ε : Type} (marker : String) (modules others : List (SourceFile × List UInt8))
    (hperm : modules.Perm others) (hpaths : (modules.map fun m => m.1.path).Nodup) :
    ∃ one two : SourceIndex,
      (addSources { marker } modules : Traced ε SourceIndex).result = .ok one ∧
        (addSources { marker } others : Traced ε SourceIndex).result = .ok two ∧
          one.candidates = two.candidates ∧ (∀ key, one.fragments key = two.fragments key) ∧
            ∀ c, one.resolve c = two.resolve c := by
  have hagrees := agrees_of_perm marker hperm hpaths
  refine ⟨_, _, addSources_result _ modules, addSources_result _ others, ?_⟩
  exact ⟨hagrees.candidates_eq, hagrees.fragments_eq, hagrees.resolve_eq⟩

/-- Two modules of one package that declare a type together; the second one marks it. -/
def sharedType : List (SourceFile × List UInt8) :=
  [(⟨"p/a.py", some "p.a", "p", ""⟩, Text.encode "class A:\n  def f(self): pass\n"),
    (⟨"p/b.py", some "p.b", "p", ""⟩, Text.encode "@Instrumentation\nclass A(ABC): pass\n")]

/-- The type that two modules share has the same fragments whichever module is added first. -/
theorem addSources_perm_sharedType :
    sharedType.Perm sharedType.reverse ∧ (sharedType.map fun m => m.1.path).Nodup ∧
      ∃ one two : SourceIndex,
        (addSources { marker := "Instrumentation" } sharedType : Traced Unit SourceIndex).result =
            .ok one ∧
          (addSources { marker := "Instrumentation" } sharedType.reverse :
              Traced Unit SourceIndex).result = .ok two ∧
            one.candidates = two.candidates ∧ (∀ key, one.fragments key = two.fragments key) ∧
              ∀ c, one.resolve c = two.resolve c := by
  have hperm : sharedType.Perm sharedType.reverse := (List.reverse_perm sharedType).symm
  have hpaths : (sharedType.map fun m => m.1.path).Nodup := by decide
  exact ⟨hperm, hpaths, addSources_perm "Instrumentation" sharedType sharedType.reverse hperm hpaths⟩

end SpanWeave.SourceIndex
