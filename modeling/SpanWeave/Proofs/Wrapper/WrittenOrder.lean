import SpanWeave.Proofs.Wrapper.Fidelity

/-!
# Which definition of a name counts

A wrapper's class is written with its properties first, then its constructor, then its methods, and
in such a class the last definition of a name is the one that counts. Members are collected in the
order of their fragments instead, methods and properties alike, and a repeated name is reported with
the words that the later declaration wins. The two orders agree on a name whose last declaration is
a method, or that only properties have. They do not agree on a property that is declared behind a
method of its name: the method is written below it and counts.
-/

set_option autoImplicit false

namespace SpanWeave

/-! ## Definitions in a class -/

namespace ClassBody

/-- A definition in the class of a wrapper. -/
inductive Definition where
  | property (p : PropertyNode)
  | constructor (c : ConstructorNode)
  | method (m : MethodNode)

/-- The name that a definition gives a meaning to. -/
def Definition.name : Definition → String
  | property p => p.name
  | constructor _ => "__init__"
  | method m => m.name

def Definition.lines (fieldName : String) (b : Binding) : Definition → List String
  | property p => p.lines fieldName
  | constructor c => c.lines fieldName
  | method m => m.lines b

/-- The definitions of a class, from its top to its end. -/
def definitions (c : ClassBody) : List Definition :=
  c.properties.map .property ++ .constructor c.constructor :: c.methods.map .method

/-- The lines of a class above its first definition. -/
def heading (c : ClassBody) : List String :=
  ["class " ++ c.name ++ "(" ++ c.base ++ "):",
    "    \"\"\"" ++ c.docstring ++ "\"\"\"",
    "",
    "    " ++ c.fieldName ++ ": " ++ c.fieldType]

/-- Below its heading, the text of a class is that of its definitions in order. -/
theorem lines_eq (b : Binding) (c : ClassBody) :
    c.lines b = c.heading ++ c.definitions.flatMap (Definition.lines c.fieldName b) := by
  have hproperties : (c.properties.map Definition.property).flatMap
      (Definition.lines c.fieldName b) = c.properties.flatMap (PropertyNode.lines c.fieldName) := by
    rw [List.flatMap_map]
    rfl
  have hmethods : (c.methods.map Definition.method).flatMap (Definition.lines c.fieldName b) =
      c.methods.flatMap (MethodNode.lines b) := by
    rw [List.flatMap_map]
    rfl
  unfold lines heading definitions
  rw [List.flatMap_append, List.flatMap_cons, hproperties, hmethods]
  simp only [Definition.lines, List.append_assoc]

/-- What a definition is written for: a collected member, or none in the case of the constructor,
which the wrapper adds. -/
inductive Definition.WrittenFor (aliases : Aliases) : Option Member → Definition → Prop
  | property {m : Member} (hkind : m.kind = .property) :
    WrittenFor aliases (some m) (.property ⟨m.name, m.type⟩)
  | constructor (c : ConstructorNode) : WrittenFor aliases none (.constructor c)
  | method {m : Member} {s : Signature} {e : MethodNode} (hkind : m.kind = .method)
    (hsignature : Signature.ofParameters m.parameters = .ok s)
    (hmade : aliases.override m.name m.type s (Assembler.receiverName m) = .ok e) :
    WrittenFor aliases (some m) (.method e)

end ClassBody

open ClassBody (Definition)

/-- The name that is defined for a member, or by the constructor. -/
def definedName (m? : Option Member) : String := (m?.map Member.name).getD "__init__"

theorem ClassBody.Definition.WrittenFor.name_eq {aliases : Aliases} {m? : Option Member}
    {d : Definition} (h : d.WrittenFor aliases m?) : d.name = definedName m? := by
  cases h with
  | property => rfl
  | constructor => rfl
  | method _ _ hmade =>
    obtain ⟨-, -, -, rfl⟩ := Aliases.override_eq_ok hmade
    rfl

namespace LogicalType

/-- The members of a type in the order in which a wrapper writes them, with the constructor between
the properties and the methods. -/
def writtenMembers (t : LogicalType) : List (Option Member) :=
  (t.forwardedMembers.filter fun m => m.kind = .property).map some ++
    none :: (t.forwardedMembers.filter fun m => m.kind = .method).map some

/-- The member of a name that is collected last. -/
def lastCollected (t : LogicalType) (name : String) : Option Member :=
  t.forwardedMembers.reverse.find? fun m => m.name == name

/-- What the last definition of a name in the class of a wrapper is written for. -/
def lastWrittenFor (t : LogicalType) (body : ClassBody) (name : String) : Option (Option Member) :=
  ((t.writtenMembers.zip body.definitions).reverse.find? fun p => p.2.name == name).map Prod.fst

end LogicalType

/-! ## The last item of a name -/

/-- Where definitions are written for members, their names can be read off the members. -/
theorem find?_reverse_zip {aliases : Aliases} {members : List (Option Member)}
    {definitions : List Definition}
    (h : List.Forall₂ (fun m? d => Definition.WrittenFor aliases m? d) members definitions)
    (name : String) :
    ((members.zip definitions).reverse.find? fun p => p.2.name == name).map Prod.fst =
      members.reverse.find? fun m? => definedName m? == name := by
  induction h with
  | nil => rfl
  | cons hfirst _ ih =>
    rw [List.zip_cons_cons, List.reverse_cons, List.reverse_cons, List.find?_append,
      List.find?_append, Option.map_or, ih]
    simp only [List.find?_singleton, hfirst.name_eq]
    split <;> rfl

theorem find?_map_some (members : List Member) (name : String) :
    (members.map some).find? (fun m? => definedName m? == name) =
      (members.find? fun m => m.name == name).map some := by
  rw [List.find?_map]
  rfl

/-- Among the members of one kind, the first one of a name is the first one of all members if that
one is of this kind. -/
theorem find?_filter_kind {members : List Member} {name : String} {m : Member}
    (h : members.find? (fun m => m.name == name) = some m) :
    (members.filter fun n => n.kind = m.kind).find? (fun n => n.name == name) = some m := by
  obtain ⟨hname, before, after, rfl, hbefore⟩ := List.find?_eq_some_iff_append.mp h
  rw [List.find?_filter, List.find?_eq_some_iff_append]
  refine ⟨by simpa using hname, before, after, rfl, ?_⟩
  intro n hn
  have hother := hbefore n hn
  simp only [Bool.not_eq_true', beq_eq_false_iff_ne, ne_eq] at hother
  simp [hother]

namespace LogicalType

variable {t : LogicalType} {name : String} {m : Member}

/-- The last member to be written under a name: a method if any method has the name, else the
constructor if the name is its own, else the last property. -/
theorem find?_reverse_writtenMembers (t : LogicalType) (name : String) :
    t.writtenMembers.reverse.find? (fun m? => definedName m? == name) =
      ((((t.forwardedMembers.reverse.filter fun m => m.kind = .method).find?
            fun m => m.name == name).map some).or (if "__init__" = name then some none else none)).or
        (((t.forwardedMembers.reverse.filter fun m => m.kind = .property).find?
          fun m => m.name == name).map some) := by
  unfold writtenMembers
  rw [List.reverse_append, List.reverse_cons, ← List.map_reverse, ← List.map_reverse,
    List.filter_reverse, List.filter_reverse, List.find?_append, List.find?_append, find?_map_some,
    find?_map_some, List.find?_singleton]
  simp [definedName]

/-- The member that is collected last under a name is written last as well if it is a method, or if
all members of the name are properties and the constructor has another name. In any other case it is
written above another definition of the name. -/
theorem find?_writtenMembers_iff (h : t.lastCollected name = some m) :
    t.writtenMembers.reverse.find? (fun m? => definedName m? == name) = some (some m) ↔
      m.kind = .method ∨
        name ≠ "__init__" ∧ ∀ n ∈ t.forwardedMembers, n.name = name → n.kind = .property := by
  have hsame := find?_filter_kind h
  rw [find?_reverse_writtenMembers]
  cases hkind : m.kind with
  | method =>
    rw [hkind] at hsame
    rw [hsame]
    simp
  | property =>
    rw [hkind] at hsame
    rw [hsame]
    cases hmethod : (t.forwardedMembers.reverse.filter fun m => m.kind = .method).find?
        fun m => m.name == name with
    | some n =>
      -- a method of the name is written below the property
      have hn := List.mem_of_find?_eq_some hmethod
      have hnamed : n.name = name := by simpa using List.find?_some hmethod
      rw [List.mem_filter, List.mem_reverse, decide_eq_true_eq] at hn
      have hne : n ≠ m := by
        rintro rfl
        rw [hkind] at hn
        cases hn.2
      have hclash : ¬ ∀ n ∈ t.forwardedMembers, n.name = name → n.kind = .property := by
        intro hall
        have hproperty := hall n hn.1 hnamed
        rw [hn.2] at hproperty
        cases hproperty
      simp [hne, hclash]
    | none =>
      have hall : ∀ n ∈ t.forwardedMembers, n.name = name → n.kind = .property := by
        intro n hn hnamed
        have hother := List.find?_eq_none.mp hmethod n
        cases hnkind : n.kind with
        | property => rfl
        | method => simp [hn, hnkind, hnamed] at hother
      by_cases hinit : "__init__" = name
      · simp [hinit]
      · have hne : name ≠ "__init__" := fun heq => hinit heq.symm
        simp only [hinit, if_false, Option.map_none, Option.or_none, Option.none_or, Option.map_some,
          true_iff]
        exact Or.inr ⟨hne, hall⟩

end LogicalType

/-! ## Wrappers -/

namespace Assembler

variable {a : Assembler} {t : LogicalType}

/-- The properties of a wrapper are the collected ones, in order. -/
theorem properties_of_parts {members : CollectedMembers} {node : WrapperNode}
    (h : a.parts t members = .ok node) :
    node.body.properties = members.properties.map fun p => ⟨p.name, p.type⟩ := by
  unfold parts at h
  obtain ⟨methods, -, h⟩ := Traced.except_bind_eq_ok.mp h
  cases h
  rfl

/-- A wrapper has one definition for each collected member and one for its constructor. -/
theorem definitions_of_parts {members : CollectedMembers} {node : WrapperNode}
    (hcollect : t.collect.result = .ok members) (hparts : a.parts t members = .ok node) :
    List.Forall₂ (fun m? d => Definition.WrittenFor
      (a.aliases.avoiding (takenNames members.methods)) m? d)
        t.writtenMembers node.body.definitions := by
  obtain ⟨hmethods, hproperties⟩ := LogicalType.collected_of_collect hcollect
  obtain ⟨-, -, -, hoverrides⟩ := parts_eq_ok hparts
  unfold LogicalType.writtenMembers ClassBody.definitions
  refine List.rel_append ?_ (.cons (.constructor _) ?_)
  · rw [properties_of_parts hparts, hproperties, List.map_map, List.forall₂_map_left_iff,
      List.forall₂_map_right_iff, List.forall₂_same]
    intro m hm
    exact .property (of_decide_eq_true (List.mem_filter.mp hm).2)
  · rw [List.forall₂_map_left_iff, List.forall₂_map_right_iff]
    have hkinds : List.Forall₂ (fun m c => m.kind = .method ∧ IsCollectedAs m c)
        (t.forwardedMembers.filter fun m => m.kind = .method) members.methods :=
      (List.forall₂_and_left _ _).mpr
        ⟨fun m hm => of_decide_eq_true (List.mem_filter.mp hm).2, hmethods⟩
    refine forall₂_comp hkinds hoverrides ?_
    rintro m c e ⟨hkind, rfl, hsignature⟩ hmade
    exact .method hkind (Signature.repeats_iff.mp hsignature) hmade

/-- In the class of an assembled wrapper, each definition is written for one collected member, but
for the constructor. The last definition of a name is the one of the member that is collected last
under it, exactly if that member is a method, or if all members of the name are properties and the
constructor has another name. -/
theorem assemble_last_definition (a : Assembler) (t : LogicalType) (w : WrapperModule)
    (h : (a.assemble (some t)).result = .ok (.eligible, some w)) :
    ∃ members node, t.collect.result = .ok members ∧ a.parts t members = .ok node ∧
      w.text = node.render ∧
      node.body.lines node.binding = node.body.heading ++
        node.body.definitions.flatMap (Definition.lines node.body.fieldName node.binding) ∧
      List.Forall₂ (fun m? d => Definition.WrittenFor
        (a.aliases.avoiding (takenNames members.methods)) m? d)
          t.writtenMembers node.body.definitions ∧
      ∀ name m, t.lastCollected name = some m →
        (t.lastWrittenFor node.body name = some (some m) ↔
          m.kind = .method ∨
            name ≠ "__init__" ∧ ∀ n ∈ t.forwardedMembers, n.name = name → n.kind = .property) := by
  obtain ⟨members, node, hcollect, hparts, rfl⟩ :=
    wrap_result_eq_ok.mp (assemble_result_eq_ok.mp h).2
  have hwritten := definitions_of_parts hcollect hparts
  refine ⟨members, node, hcollect, hparts, rfl, node.body.lines_eq node.binding, hwritten, ?_⟩
  intro name m hlast
  unfold LogicalType.lastWrittenFor
  rw [find?_reverse_zip hwritten]
  exact LogicalType.find?_writtenMembers_iff hlast

/-- A type with members of given kinds and names, one a line. -/
def typeOf (members : List (MemberKind × String)) : LogicalType :=
  let member (p : (MemberKind × String) × Nat) : Member :=
    ⟨p.1.1, p.1.2, none, ⟨true, true, false⟩, ⟨"m.py", p.2 + 3, 5⟩, none, false, false⟩
  ⟨"T", "", "m", ⟨"m.py", 2, 1⟩,
    [⟨"m", "m.py", ⟨"m.py", 2, 1⟩, members.zipIdx.map member, []⟩], true, true⟩

/-- A type in which every repeated name is declared last as a method or only as a property. -/
def repeating : LogicalType :=
  typeOf [(.property, "size"), (.method, "run"), (.method, "size"), (.property, "limit"),
    (.method, "run"), (.property, "limit")]

set_option maxRecDepth 100000 in
/-- In the wrapper of the repeating type, the later declaration wins under each of its names. -/
theorem assemble_last_definition_repeating :
    ∃ w members node,
      (assemble { currentYear := 2024 } (some repeating)).result = .ok (.eligible, some w) ∧
      repeating.collect.result = .ok members ∧ parts { currentYear := 2024 } repeating members =
        .ok node ∧
      ∀ p ∈ [("size", 5), ("run", 7), ("limit", 8)], ∃ m, repeating.lastCollected p.1 = some m ∧
        m.origin.line = p.2 ∧ repeating.lastWrittenFor node.body p.1 = some (some m) := by
  obtain ⟨w, hw⟩ : ∃ w, (assemble { currentYear := 2024 } (some repeating)).result =
      .ok (.eligible, some w) := exists_wrapper_of_any (by decide +kernel)
  obtain ⟨members, node, hcollect, hparts, -, -, -, hlast⟩ :=
    assemble_last_definition { currentYear := 2024 } repeating w hw
  refine ⟨w, members, node, hw, hcollect, hparts, ?_⟩
  intro p hp
  have hcollected : ∀ p ∈ [("size", 5), ("run", 7), ("limit", 8)],
      (repeating.lastCollected p.1).any fun m => m.origin.line = p.2 ∧
        (m.kind = .method ∨ p.1 ≠ "__init__" ∧
          ∀ n ∈ repeating.forwardedMembers, n.name = p.1 → n.kind = .property) := by
    decide +kernel
  obtain ⟨m, hm, hwins⟩ := Option.any_eq_true _ _ |>.mp (hcollected p hp)
  obtain ⟨hline, hwins⟩ := of_decide_eq_true hwins
  exact ⟨m, hm, hline, (hlast p.1 m hm).mpr hwins⟩

/-- A type that declares a property behind a method of its name. -/
def clashing : LogicalType := typeOf [(.method, "size"), (.property, "size")]

set_option maxRecDepth 100000 in
/-- Although the property is declared later, and a warning says that it wins, the last definition of
the name in the class is that of the method. -/
theorem assemble_earlier_wins :
    ∃ w members node,
      (assemble { currentYear := 2024 } (some clashing)).result = .ok (.eligible, some w) ∧
      clashing.collect.result = .ok members ∧
      parts { currentYear := 2024 } clashing members = .ok node ∧ w.text = node.render ∧
      (clashing.collect.log.filter fun r => r.level = .warning).map Record.message =
        ["T declares 'size' at m.py:3:5 and m.py:4:5; the later declaration wins"] ∧
      (clashing.lastCollected "size").map Member.origin = some ⟨"m.py", 4, 5⟩ ∧
      (clashing.lastWrittenFor node.body "size").map (Option.map Member.origin) =
        some (some ⟨"m.py", 3, 5⟩) := by
  obtain ⟨w, hw⟩ : ∃ w, (assemble { currentYear := 2024 } (some clashing)).result =
      .ok (.eligible, some w) := exists_wrapper_of_any (by decide +kernel)
  obtain ⟨members, node, hcollect, hparts, rfl⟩ :=
    wrap_result_eq_ok.mp (assemble_result_eq_ok.mp hw).2
  refine ⟨_, members, node, hw, hcollect, hparts, rfl, by decide +kernel, by decide +kernel, ?_⟩
  unfold LogicalType.lastWrittenFor
  rw [find?_reverse_zip (definitions_of_parts hcollect hparts)]
  decide +kernel

end Assembler

end SpanWeave
