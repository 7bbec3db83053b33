import SpanWeave.Proofs.Wrapper.ReadMembers
import SpanWeave.Proofs.Wrapper.WrittenOrder

/-!
# The object that a wrapper holds

A new wrapper keeps the object that it is given in a field, and every property and every override
reads that field. The class also has properties and methods under the names of the forwarded
members, and nothing compares these names with the two that the wrapper uses itself: the name of the
field and that of the constructor.

Methods whose names begin with an underscore are not forwarded, but such properties are. So in a
wrapper of a type from sources it is a property of the field's name that takes the field over: it
has no setter, and the object cannot be kept.
-/

set_option autoImplicit false

namespace SpanWeave

open ClassBody (Definition)

namespace ClassBody

/-! ## Objects of a class -/

section Objects

variable {V : Type}

/-- The definition that counts under a name, which is the last one. Names of one form are the
same. -/
def definition? (form : String → String) (body : ClassBody) (name : String) : Option Definition :=
  body.definitions.reverse.find? fun d => form d.name == form name

/-- Whether objects of the class can have a value of their own under a name. A property takes
reading and assigning over, while any other definition gives way. Where the class defines nothing, a
property of a class above takes them over; `inherited` says under which names there is one. -/
def hasField (form : String → String) (inherited : String → Bool) (body : ClassBody)
    (name : String) : Bool :=
  match body.definition? form name with
  | some (.property _) => false
  | some (.constructor _) => true
  | some (.method _) => true
  | none => !inherited (form name)

/-- The fields of a new object that is given an object to hold. There is none if something else than
the constructor counts as constructor, or if the assignment in the constructor is refused. -/
def construct (form : String → String) (inherited : String → Bool) (body : ClassBody) (impl : V) :
    Option (List (String × V)) :=
  match body.definition? form "__init__" with
  | some (.constructor _) =>
    if body.hasField form inherited body.fieldName then some [(body.fieldName, impl)] else none
  | _ => none

/-- What an object with the given fields has under a name as a value of its own. -/
def read (form : String → String) (inherited : String → Bool) (body : ClassBody)
    (fields : List (String × V)) (name : String) : Option V :=
  if body.hasField form inherited name then
    (fields.find? fun p => form p.1 == form name).map Prod.snd
  else none

/-- A new object can be made, and what reads its field gets the object that it was given. -/
def Holds (form : String → String) (inherited : String → Bool) (body : ClassBody) (impl : V) :
    Prop :=
  (body.construct form inherited impl).bind (fun fields =>
    body.read form inherited fields body.fieldName) = some impl

end Objects

variable {form : String → String} {inherited : String → Bool} {body : ClassBody} {name : String}

theorem find?_form_eq_none_iff {α : Type} {items : List α} {nameOf : α → String} :
    (items.reverse.find? fun item => form (nameOf item) == form name) = none ↔
      ∀ item ∈ items, form (nameOf item) ≠ form name := by
  rw [List.find?_eq_none]
  simp

/-- What counts under a name is a method of the name if there is one, else the constructor if the
name is its own, else a property of the name. -/
theorem definition?_cases (form : String → String) (body : ClassBody) (name : String) :
    (∃ e ∈ body.methods, form e.name = form name ∧
        body.definition? form name = some (.method e)) ∨
      (∀ e ∈ body.methods, form e.name ≠ form name) ∧
        (form "__init__" = form name ∧
            body.definition? form name = some (.constructor body.constructor) ∨
          form "__init__" ≠ form name ∧
            ((∃ p ∈ body.properties, form p.name = form name ∧
                body.definition? form name = some (.property p)) ∨
              (∀ p ∈ body.properties, form p.name ≠ form name) ∧
                body.definition? form name = none)) := by
  have hdefinition : body.definition? form name =
      ((body.methods.reverse.find? fun e => form e.name == form name).map Definition.method).or
        ((if form "__init__" = form name then some (.constructor body.constructor) else none).or
          ((body.properties.reverse.find? fun p => form p.name == form name).map
            Definition.property)) := by
    unfold definition? definitions
    rw [List.reverse_append, List.reverse_cons, ← List.map_reverse, ← List.map_reverse,
      List.append_assoc, List.find?_append, List.find?_append, List.find?_map, List.find?_map,
      List.find?_singleton]
    simp only [Definition.name, beq_iff_eq]
    rfl
  cases hmethod : body.methods.reverse.find? fun e => form e.name == form name with
  | some e =>
    rw [hmethod] at hdefinition
    refine Or.inl ⟨e, List.mem_reverse.mp (List.mem_of_find?_eq_some hmethod), ?_, hdefinition⟩
    simpa using List.find?_some hmethod
  | none =>
    rw [hmethod] at hdefinition
    refine Or.inr ⟨find?_form_eq_none_iff.mp hmethod, ?_⟩
    by_cases hinit : form "__init__" = form name
    · rw [if_pos hinit] at hdefinition
      exact Or.inl ⟨hinit, hdefinition⟩
    · rw [if_neg hinit] at hdefinition
      refine Or.inr ⟨hinit, ?_⟩
      cases hproperty : body.properties.reverse.find? fun p => form p.name == form name with
      | some p =>
        rw [hproperty] at hdefinition
        refine Or.inl ⟨p, List.mem_reverse.mp (List.mem_of_find?_eq_some hproperty), ?_,
          hdefinition⟩
        simpa using List.find?_some hproperty
      | none =>
        rw [hproperty] at hdefinition
        exact Or.inr ⟨find?_form_eq_none_iff.mp hproperty, hdefinition⟩

/-- Objects have a value of their own under a name unless a property takes the name over. -/
theorem hasField_iff (hinit : form "__init__" ≠ form name) :
    body.hasField form inherited name = true ↔
      (∃ e ∈ body.methods, form e.name = form name) ∨
        (∀ p ∈ body.properties, form p.name ≠ form name) ∧ inherited (form name) = false := by
  unfold hasField
  rcases body.definition?_cases form name with ⟨e, he, hname, hdefinition⟩ |
    ⟨hmethods, ⟨hsame, -⟩ | ⟨-, ⟨p, hp, hname, hdefinition⟩ | ⟨hproperties, hdefinition⟩⟩⟩
  · rw [hdefinition]
    exact iff_of_true rfl (Or.inl ⟨e, he, hname⟩)
  · exact absurd hsame hinit
  · rw [hdefinition]
    refine iff_of_false (by simp) ?_
    rintro (⟨e, he, hsame⟩ | ⟨hproperties, -⟩)
    · exact hmethods e he hsame
    · exact hproperties p hp hname
  · rw [hdefinition]
    dsimp only
    rw [Bool.not_eq_true']
    constructor
    · exact fun hfree => Or.inr ⟨hproperties, hfree⟩
    · rintro (⟨e, he, hsame⟩ | ⟨-, hfree⟩)
      · exact absurd hsame (hmethods e he)
      · exact hfree

/-- A new object holds what it is given exactly if no method has the name of the constructor and the
field is a value of its own. -/
theorem holds_iff {V : Type} {impl : V} :
    body.Holds form inherited impl ↔
      (∀ e ∈ body.methods, form e.name ≠ form "__init__") ∧
        body.hasField form inherited body.fieldName = true := by
  unfold Holds construct
  rcases body.definition?_cases form "__init__" with ⟨e, he, hname, hdefinition⟩ |
    ⟨hmethods, ⟨-, hdefinition⟩ | ⟨hother, -⟩⟩
  · rw [hdefinition]
    exact iff_of_false (by simp) fun h => h.1 e he hname
  · rw [hdefinition]
    dsimp only
    cases hfield : body.hasField form inherited body.fieldName with
    | true =>
      refine iff_of_true ?_ ⟨hmethods, rfl⟩
      simp [read, hfield]
    | false => exact iff_of_false (by simp) fun h => by cases h.2
  · exact absurd rfl hother

end ClassBody

/-! ## Wrappers -/

/-- The names of the forwarded members of a kind, in order. -/
def LogicalType.forwardedNames (t : LogicalType) (kind : MemberKind) : List String :=
  (t.forwardedMembers.filter fun m => m.kind = kind).map Member.name

theorem LogicalType.mem_forwardedNames {t : LogicalType} {kind : MemberKind} {name : String} :
    name ∈ t.forwardedNames kind ↔ ∃ m ∈ t.forwardedMembers, m.kind = kind ∧ m.name = name := by
  unfold forwardedNames
  simp only [List.mem_map, List.mem_filter, decide_eq_true_eq, and_assoc]

/-- What a wrapper's class is made of: a field, a property for each forwarded property, and for each
forwarded method an override that calls the method of what the field holds. -/
structure ClassBody.Forwards (field : String) (t : LogicalType) (body : ClassBody) : Prop where
  fieldName : body.fieldName = field
  properties : body.properties.map PropertyNode.name = t.forwardedNames .property
  methods : body.methods.map MethodNode.name = t.forwardedNames .method
  calls : ∀ e ∈ body.methods, ∃ receiver arguments,
    e.call = receiver ++ "." ++ field ++ "." ++ e.name ++ "(" ++ arguments ++ ")"

/-- Methods of sources that are forwarded have names that do not begin with an underscore. -/
theorem LogicalType.startsWith_of_mem_forwardedNames {t : LogicalType}
    (hread : ∀ m ∈ t.forwardedMembers, m.IsRead) {name : String}
    (h : name ∈ t.forwardedNames .method) : Text.startsWith name "_" = false := by
  obtain ⟨m, hm, hkind, rfl⟩ := mem_forwardedNames.mp h
  have hforwarded := (declared_of_mem_forwardedMembers hm).2
  have hpublic : m.modifiers.isPublic = true := by
    have hmethod : m.isForwardedMethod = true := by
      simpa [Member.isForwarded, Member.isForwardedProperty, hkind] using hforwarded
    simp only [Member.isForwardedMethod, Bool.and_eq_true] at hmethod
    exact hmethod.1.1.2
  rw [(hread m hm).isPublic, Bool.not_eq_true'] at hpublic
  exact hpublic

namespace ClassBody.Forwards

variable {field : String} {t : LogicalType} {body : ClassBody} (h : body.Forwards field t)

include h

/-- A new object holds what it is given exactly if no forwarded method has the name of the
constructor, and a forwarded method has the name of the field or no property has it. -/
theorem holds_iff_members {form : String → String} {inherited : String → Bool} {V : Type} {impl : V}
    (hfield : form "__init__" ≠ form field) :
    body.Holds form inherited impl ↔
      (∀ name ∈ t.forwardedNames .method, form name ≠ form "__init__") ∧
        ((∃ name ∈ t.forwardedNames .method, form name = form field) ∨
          (∀ name ∈ t.forwardedNames .property, form name ≠ form field) ∧
            inherited (form field) = false) := by
  rw [holds_iff, h.fieldName, hasField_iff hfield, ← h.methods, ← h.properties]
  rw [List.forall_mem_map, List.forall_mem_map]
  simp only [List.mem_map, exists_exists_and_eq_and]

/-- In a wrapper of a type from sources whose field begins with an underscore, no override has the
name of the field or of the constructor. -/
theorem not_mem_methods (hread : ∀ m ∈ t.forwardedMembers, m.IsRead)
    (hfield : Text.startsWith field "_" = true) :
    ∀ name ∈ [field, "__init__"], name ∉ t.forwardedNames .method := by
  intro name hname hmethod
  have hplain := LogicalType.startsWith_of_mem_forwardedNames hread hmethod
  simp only [List.mem_cons, List.not_mem_nil, or_false] at hname
  rcases hname with rfl | rfl
  · rw [hfield] at hplain
    cases hplain
  · revert hplain
    decide

theorem holds_id_iff (hread : ∀ m ∈ t.forwardedMembers, m.IsRead)
    (hfield : Text.startsWith field "_" = true) (hinit : field ≠ "__init__")
    {inherited : String → Bool} {V : Type} {impl : V} :
    body.Holds id inherited impl ↔
      field ∉ t.forwardedNames .property ∧ inherited field = false := by
  have hfree := h.not_mem_methods hread hfield
  have hconstructor : ∀ name ∈ t.forwardedNames .method, name ≠ "__init__" :=
    fun name hname heq => hfree "__init__" (by simp) (heq ▸ hname)
  have hkept : ¬ ∃ name ∈ t.forwardedNames .method, name = field := by
    rintro ⟨name, hname, rfl⟩
    exact hfree name (by simp) hname
  have hproperties : (∀ name ∈ t.forwardedNames .property, name ≠ field) ↔
      field ∉ t.forwardedNames .property :=
    ⟨fun hne hmem => hne field hmem rfl, fun hmem name hname heq => hmem (heq ▸ hname)⟩
  have hinit' : id "__init__" ≠ id field := hinit.symm
  rw [h.holds_iff_members hinit', ← hproperties]
  simp only [id_eq]
  rw [and_iff_right hconstructor, or_iff_right hkept]

end ClassBody.Forwards

namespace Assembler

variable {a : Assembler} {t : LogicalType}

/-- The class of a wrapper forwards the members of its type to its field. -/
theorem forwards_of_parts {members : CollectedMembers} {node : WrapperNode}
    (hcollect : t.collect.result = .ok members) (hparts : a.parts t members = .ok node) :
    node.body.Forwards a.aliases.field t := by
  obtain ⟨hmethods, hproperties⟩ := LogicalType.collected_of_collect hcollect
  obtain ⟨-, -, -, hoverrides⟩ := parts_eq_ok hparts
  refine ⟨?_, ?_, ?_, ?_⟩
  · unfold parts at hparts
    obtain ⟨methods, -, hparts⟩ := Traced.except_bind_eq_ok.mp hparts
    cases hparts
    rfl
  · rw [properties_of_parts hparts, hproperties, List.map_map]
    rfl
  · have hnames : List.Forall₂ (fun m e => e.name = m.name)
        (t.forwardedMembers.filter fun m => m.kind = .method) node.body.methods := by
      refine forall₂_comp hmethods hoverrides ?_
      rintro m c e ⟨rfl, -⟩ hmade
      obtain ⟨-, -, -, rfl⟩ := Aliases.override_eq_ok hmade
      rfl
    exact (map_eq_of_forall₂ hnames fun _ _ h => h.symm).symm
  · intro e he
    obtain ⟨c, -, hmade⟩ := exists_left_of_forall₂ hoverrides he
    obtain ⟨-, -, -, rfl⟩ := Aliases.override_eq_ok hmade
    exact ⟨_, _, rfl⟩

/-- An assembled wrapper reads its field in every override, and it has a property or an override
under the name of the field or of the constructor exactly if a forwarded member has this name.
Whatever the form in which names are compared, a new object can be made that holds what it is given
exactly if no forwarded method has the name of the constructor, and a forwarded method has the name
of the field or no property has it. If the members are read from sources, only a property can be in
the way. -/
theorem assemble_slots_iff (a : Assembler) (t : LogicalType) (w : WrapperModule)
    (h : (a.assemble (some t)).result = .ok (.eligible, some w)) :
    ∃ members node, t.collect.result = .ok members ∧ a.parts t members = .ok node ∧
      w.text = node.render ∧
      node.body.lines node.binding = node.body.heading ++
        node.body.definitions.flatMap (Definition.lines node.body.fieldName node.binding) ∧
      node.body.Forwards a.aliases.field t ∧
      (∀ (form : String → String) (inherited : String → Bool) (V : Type) (impl : V),
        form "__init__" ≠ form a.aliases.field →
          (node.body.Holds form inherited impl ↔
            (∀ name ∈ t.forwardedNames .method, form name ≠ form "__init__") ∧
              ((∃ name ∈ t.forwardedNames .method, form name = form a.aliases.field) ∨
                (∀ name ∈ t.forwardedNames .property, form name ≠ form a.aliases.field) ∧
                  inherited (form a.aliases.field) = false))) ∧
      ((∀ m ∈ t.forwardedMembers, m.IsRead) → Text.startsWith a.aliases.field "_" = true →
        a.aliases.field ≠ "__init__" →
          (∀ name ∈ [a.aliases.field, "__init__"], name ∉ node.body.methods.map MethodNode.name) ∧
            ∀ (inherited : String → Bool) (V : Type) (impl : V),
              node.body.Holds id inherited impl ↔
                a.aliases.field ∉ node.body.properties.map PropertyNode.name ∧
                  inherited a.aliases.field = false) := by
  obtain ⟨members, node, hcollect, hparts, rfl⟩ :=
    wrap_result_eq_ok.mp (assemble_result_eq_ok.mp h).2
  have hforwards := forwards_of_parts hcollect hparts
  refine ⟨members, node, hcollect, hparts, rfl, node.body.lines_eq node.binding, hforwards, ?_, ?_⟩
  · intro form inherited V impl hfield
    exact hforwards.holds_iff_members hfield
  · intro hread hfield hinit
    rw [hforwards.methods, hforwards.properties]
    refine ⟨hforwards.not_mem_methods hread hfield, ?_⟩
    intro inherited V impl
    exact hforwards.holds_id_iff hread hfield hinit

/-- Properties with underscores before their names, one of them named as the constructor. -/
def underscoredBody : String :=
  "  @property\n  def __init__(self): pass\n  @property\n  def _size(self): pass\n" ++
    "  def grow(self, _impl): pass\n"

set_option maxRecDepth 100000 in
/-- A wrapper with the underscored properties holds what it is given. -/
theorem assemble_slots_iff_underscoredBody :
    ∃ c t members node, (markedIndex underscoredBody).resolve c = some t ∧
      (assemble { currentYear := 2024 } (some t)).result =
        .ok (.eligible, some (moduleOf { currentYear := 2024 } t members node)) ∧
      node.body.properties.map PropertyNode.name = ["__init__", "_size"] ∧
      node.body.methods.map MethodNode.name = ["grow"] ∧
      ∀ impl : String, node.body.Holds id (fun _ => false) impl := by
  obtain ⟨c, -, t, members, node, ht, hassembled, hcollect, hparts, hnames⟩ :=
    exists_parts_of_any { currentYear := 2024 } (markedIndex underscoredBody)
      (fun _ _ node => decide
        (node.body.properties.map PropertyNode.name = ["__init__", "_size"] ∧
          node.body.methods.map MethodNode.name = ["grow"]))
      (by decide +kernel)
  obtain ⟨hproperties, hmethods⟩ := of_decide_eq_true hnames
  have hread : ∀ m ∈ t.forwardedMembers, m.IsRead := fun m hm =>
    SourceIndex.isRead_of_resolve (addSources_markedSource underscoredBody) ht hm
  obtain ⟨members', node', hcollect', hparts', -, -, -, -, hsource⟩ :=
    assemble_slots_iff { currentYear := 2024 } t _ hassembled
  rw [hcollect] at hcollect'
  cases hcollect'
  rw [hparts] at hparts'
  cases hparts'
  refine ⟨c, t, members, node, ht, hassembled, hproperties, hmethods, ?_⟩
  intro impl
  refine ((hsource hread (by decide) (by decide)).2 _ _ impl).mpr ⟨?_, rfl⟩
  rw [hproperties]
  decide

/-- A property of the field's name. -/
def clashingBody : String := "  @property\n  def _impl(self): pass\n"

set_option maxRecDepth 100000 in
/-- In the wrapper of the clashing body a property has the name of the field, and no object can be
made. -/
theorem assemble_redefines_field :
    (SourceIndex.addSources { marker := "Instrumentation" } (markedSource clashingBody) :
      Traced Unit SourceIndex).result = .ok (markedIndex clashingBody) ∧
    ∃ c ∈ (markedIndex clashingBody).candidates, ∃ t members node,
      (markedIndex clashingBody).resolve c = some t ∧
      (assemble { currentYear := 2024 } (some t)).result =
        .ok (.eligible, some (moduleOf { currentYear := 2024 } t members node)) ∧
      t.collect.result = .ok members ∧ parts { currentYear := 2024 } t members = .ok node ∧
      node.body.fieldName = "_impl" ∧ (∃ p ∈ node.body.properties, p.name = "_impl") ∧
        node.body.construct id (fun _ => false) () = none := by
  refine ⟨addSources_markedSource clashingBody, ?_⟩
  obtain ⟨c, hc, t, members, node, ht, hassembled, hcollect, hparts, hclash⟩ :=
    exists_parts_of_any { currentYear := 2024 } (markedIndex clashingBody)
      (fun _ _ node => decide (node.body.fieldName = "_impl" ∧
        (∃ p ∈ node.body.properties, p.name = "_impl") ∧
          node.body.construct id (fun _ => false) () = none))
      (by decide +kernel)
  exact ⟨c, hc, t, members, node, ht, hassembled, hcollect, hparts, of_decide_eq_true hclash⟩

end Assembler

end SpanWeave
