import Mathlib.Data.List.Nodup
import SpanWeave.Index
import SpanWeave.Proofs.Source.ClassHeads
import SpanWeave.Proofs.TracedResult

/-!
# Sources in an index

Adding the source of a module puts its classes behind those that the index holds. The classes of one
module stand at different locations in its own file, so modules at different paths give an index in
which a location tells its class. Where the classes stand in the order of their locations, sorting
leaves them as they are.
-/

set_option autoImplicit false

namespace SpanWeave.SourceIndex

variable {ε : Type}

/-- The classes that the source of a module declares. -/
def classesIn (file : SourceFile) (content : List UInt8) : List IndexedClass :=
  classesOf file (.ofBytes file.path content)

/-- A source is read and its classes are added; whether it is sound shows in the records only. -/
theorem addSource_result (index : SourceIndex) (file : SourceFile) (content : List UInt8) :
    (index.addSource file content : Traced ε (SourceIndex × ModuleReading)).result =
      .ok (index.add file (.ofBytes file.path content), .ofBytes file.path content) := by
  unfold addSource
  dsimp only
  split <;> rfl

/-- The classes of one source have its file, identifiers for names, and different locations. -/
theorem classesIn_origins (file : SourceFile) (content : List UInt8) :
    ((classesIn file content).map fun c => c.declaration.origin).Nodup ∧
      ∀ c ∈ classesIn file content, c.file = file ∧ c.declaration.origin.path = file.path ∧
        Text.isIdentifier c.declaration.name = true := by
  obtain ⟨hdistinct, hclasses⟩ := ModuleReading.classes_ofBytes file.path content
  unfold classesIn classesOf
  constructor
  · rw [List.map_map]
    exact hdistinct
  · intro c hc
    obtain ⟨declaration, hmem, rfl⟩ := List.mem_map.mp hc
    exact ⟨rfl, hclasses declaration hmem⟩

/-- Classes that come from modules at different paths have different locations if those of each
module have. -/
theorem nodup_origins {μ : Type} {classes : μ → List IndexedClass} {path : μ → String}
    {modules : List μ}
    (hdistinct : ∀ m ∈ modules, ((classes m).map fun c => c.declaration.origin).Nodup)
    (horigin : ∀ m ∈ modules, ∀ c ∈ classes m, c.declaration.origin.path = path m)
    (hpaths : (modules.map path).Nodup) :
    ((modules.flatMap classes).map fun c => c.declaration.origin).Nodup := by
  rw [List.map_flatMap, List.nodup_flatMap]
  refine ⟨hdistinct, ?_⟩
  apply (List.pairwise_map.mp hpaths).imp_of_mem
  intro a b hma hmb hne origin ha hb
  obtain ⟨c, hc, rfl⟩ := List.mem_map.mp ha
  obtain ⟨d, hd, heq⟩ := List.mem_map.mp hb
  -- a location tells the path of its module
  have hpath := horigin b hmb d hd
  rw [heq, horigin a hma c hc] at hpath
  exact hne hpath

/-! ## Classes in the order of their locations -/

/-- The classes of an index stand in the order of their locations, so nothing is left to sort. -/
def InOrder (index : SourceIndex) : Prop :=
  index.classes.Pairwise fun c d => c.declaration.origin.upTo d.declaration.origin = true

theorem InOrder.candidates_eq {index : SourceIndex} (h : index.InOrder) :
    index.candidates = (index.classes.filter fun c => c.declaration.carries index.marker).map
      IndexedClass.candidate :=
  List.mergeSort_of_pairwise (List.pairwise_map.mpr (h.filter _))

theorem InOrder.fragments_eq {index : SourceIndex} (h : index.InOrder) (key : TypeKey) :
    index.fragments key = (index.classes.filter fun c => c.key == key).map
      IndexedClass.fragment :=
  List.mergeSort_of_pairwise (List.pairwise_map.mpr (h.filter _))

/-! ## Adding modules -/

/-- The index with the classes of more modules, given by their files and what was read of them. -/
def addModules (index : SourceIndex) (modules : List (SourceFile × ModuleReading)) : SourceIndex :=
  modules.foldl (fun index m => index.add m.1 m.2) index

/-- Modules are added one behind the other. -/
theorem addModules_eq (index : SourceIndex) (modules : List (SourceFile × ModuleReading)) :
    index.addModules modules =
      { index with classes := index.classes ++ modules.flatMap fun m => classesOf m.1 m.2 } := by
  unfold addModules
  induction modules generalizing index with
  | nil => simp
  | cons m modules ih =>
    rw [List.foldl_cons, ih, List.flatMap_cons, ← List.append_assoc]
    rfl

end SpanWeave.SourceIndex
