import SpanWeave.Proofs.Index.AddingOrder
import SpanWeave.Proofs.Source.FunctionNames
import SpanWeave.Proofs.Wrapper.Fidelity

/-!
# Members that are read from sources

The members of a type that sources declare are read from the functions in the bodies of its classes.
So their names, the names of their parameters and what they call their receiver are identifiers, and
a method whose name begins with an underscore is not public.
-/

set_option autoImplicit false

namespace SpanWeave

open Source (nodeNames)

/-- A member that is read from a function whose names are identifiers. -/
def Member.IsRead (m : Member) : Prop :=
  ∃ path setters f, (∀ name ∈ f.names, Text.isIdentifier name = true) ∧
    m = Member.ofFunction path setters f

theorem names_numbered (start : Nat) (items : List (String × Option String)) :
    (numbered start items).map Parameter.name = items.map Prod.fst := by
  induction items generalizing start with
  | nil => rfl
  | cons item items ih => rw [numbered, List.map_cons, List.map_cons, ih]

/-- The receiver and the parameters of a list are named in it. -/
theorem ParameterList.names_ofNode (p : Source.ParametersNode) :
    (ofNode p).receiver.toList ++ (ofNode p).parameters.map Parameter.name ⊆
      nodeNames (p.nodes.getD []) := by
  unfold ofNode
  cases p.nodes with
  | none => exact List.nil_subset _
  | some nodes =>
    have hsublist : ((meanings (nodes.filter (· != .positionalMarker))).map Prod.fst).Sublist
        (nodeNames nodes) :=
      (List.filter_sublist.filterMap _).map _
    dsimp only [Option.getD_some]
    cases hmeanings : meanings (nodes.filter (· != .positionalMarker)) with
    | nil => exact List.nil_subset _
    | cons receiver rest =>
      rw [hmeanings] at hsublist
      dsimp only
      rw [names_numbered]
      exact hsublist.subset

namespace Member.IsRead

variable {m : Member} (h : m.IsRead)

include h

theorem name : Text.isIdentifier m.name = true := by
  obtain ⟨path, setters, f, hnames, rfl⟩ := h
  exact hnames f.name List.mem_cons_self

/-- The names in the parameter list of a member are identifiers. -/
theorem parameterList {p : ParameterList} (hp : m.parameters = some p) :
    ∀ x ∈ p.receiver.toList ++ p.parameters.map Parameter.name, Text.isIdentifier x = true := by
  obtain ⟨path, setters, f, hnames, rfl⟩ := h
  unfold Member.ofFunction at hp
  dsimp only at hp
  split at hp
  · cases hp
  · cases hp
    intro x hx
    exact hnames x (List.mem_cons_of_mem _ (ParameterList.names_ofNode _ hx))

theorem parameters : ∀ x ∈ m.parameterNames, Text.isIdentifier x = true := by
  unfold Member.parameterNames
  split
  · rename_i p hp
    exact fun x hx => h.parameterList hp x (List.mem_append_right _ hx)
  · exact fun x hx => absurd hx List.not_mem_nil

theorem receiver : Text.isIdentifier (Assembler.receiverName m) = true := by
  have hself : Text.isIdentifier "self" = true := by decide +kernel
  unfold Assembler.receiverName
  split
  · rename_i p hp
    cases hreceiver : p.receiver.filter (· != "") with
    | none => exact hself
    | some receiver =>
      have hnamed : p.receiver = some receiver := (Option.filter_eq_some_iff.mp hreceiver).1
      exact h.parameterList hp receiver (List.mem_append_left _ (by rw [hnamed]; simp))
  · exact hself

/-- A method is public unless its name begins with an underscore. -/
theorem isPublic : m.modifiers.isPublic = !Text.startsWith m.name "_" := by
  obtain ⟨path, setters, f, -, rfl⟩ := h
  rfl

end Member.IsRead

/-! ## Types -/

namespace SourceIndex

variable {ε : Type} {marker : String} {modules : List (SourceFile × List UInt8)}
  {index : SourceIndex} {c : Candidate} {t : LogicalType}

/-- The members of the classes of an index of sources are read. -/
theorem isRead_of_addSources
    (hindex : (addSources { marker } modules : Traced ε SourceIndex).result = .ok index)
    {d : IndexedClass} (hd : d ∈ index.classes) {m : Member} (hm : m ∈ d.declaration.members) :
    m.IsRead := by
  rw [addSources_result] at hindex
  cases hindex
  obtain ⟨module, -, hd⟩ := List.mem_flatMap.mp hd
  obtain ⟨declaration, hdeclaration, rfl⟩ := List.mem_map.mp hd
  obtain ⟨functions, hmembers, hnames⟩ := ModuleReading.functions_ofBytes hdeclaration
  have hmem : m ∈ declaration.members := hm
  rw [hmembers] at hmem
  obtain ⟨f, hf, rfl⟩ := List.mem_map.mp hmem
  exact ⟨_, _, f, hnames f (List.mem_filter.mp hf).1, rfl⟩

/-- What a wrapper of a type from sources is about is read. -/
theorem isRead_of_resolve
    (hindex : (addSources { marker } modules : Traced ε SourceIndex).result = .ok index)
    (ht : index.resolve c = some t) {m : Member} (hm : m ∈ t.forwardedMembers) : m.IsRead := by
  obtain ⟨fragment, hfragment, hdeclared⟩ :=
    List.mem_flatMap.mp (declared_of_mem_forwardedMembers hm).1
  rw [(module_of_resolve ht).2] at hfragment
  obtain ⟨d, hd, -, rfl⟩ := mem_fragments.mp hfragment
  exact isRead_of_addSources hindex hd hdeclared

end SourceIndex

/-! ## A module that marks a class -/

/-- A module that marks a class, given by the lines of its body. -/
def markedSource (body : String) : List (SourceFile × List UInt8) :=
  [(⟨"m.py", some "m", "", ""⟩, Text.encode ("@Instrumentation\nclass A(ABC):\n" ++ body))]

/-- The index of the module. -/
def markedIndex (body : String) : SourceIndex :=
  ⟨"Instrumentation", (markedSource body).flatMap fun m => SourceIndex.classesIn m.1 m.2⟩

theorem addSources_markedSource (body : String) :
    (SourceIndex.addSources { marker := "Instrumentation" } (markedSource body) :
      Traced Unit SourceIndex).result = .ok (markedIndex body) := by
  rw [SourceIndex.addSources_result]
  rfl

end SpanWeave
