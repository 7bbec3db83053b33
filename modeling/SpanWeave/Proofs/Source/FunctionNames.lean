import SpanWeave.Proofs.Source.ClassHeads

/-!
# The names of functions

The name of a function and the names of its parameters are names of tokens, so they are identifiers.
This holds of all functions that the classes of a module define.
-/

set_option autoImplicit false

namespace SpanWeave

namespace Source

open Grammar (run rule)

/-- The names among the meanings of nodes. -/
def nodeNames (nodes : List ParameterNode) : List String := (meanings nodes).map Prod.fst

/-- The name of a function and the names of its parameters, as far as they have names. -/
def FunctionNode.names (f : FunctionNode) : List String :=
  f.name :: nodeNames (f.parameters.nodes.getD [])

/-- All names are names of symbols that follow a cursor. -/
def StandBehind (c : Cursor) (names : List String) : Prop :=
  ∀ name ∈ names, ∃ symbol ∈ c.rest, symbol.lexeme = .name name

theorem StandBehind.of_reaches {c d : Cursor} {names : List String} (hcd : c.Reaches d)
    (h : StandBehind d names) : StandBehind c names := by
  intro name hname
  obtain ⟨symbol, hsymbol, hlexeme⟩ := h name hname
  exact ⟨symbol, hcd.mem_rest hsymbol, hlexeme⟩

theorem StandBehind.append {c : Cursor} {names more : List String} (h : StandBehind c names)
    (hmore : StandBehind c more) : StandBehind c (names ++ more) := by
  intro name hname
  rcases List.mem_append.mp hname with hname | hname
  · exact h name hname
  · exact hmore name hname

theorem standBehind_label {c : Cursor} {name : String} (h : c.label? = some name) :
    StandBehind c [name] := by
  intro other hother
  rw [List.mem_singleton.mp hother]
  exact Cursor.mem_of_label h

variable {sp : Spelling}

/-! ## Parameters -/

theorem nodeNames_append (nodes more : List ParameterNode) :
    nodeNames (nodes ++ more) = nodeNames nodes ++ nodeNames more := by
  unfold nodeNames meanings
  rw [List.filterMap_append, List.map_append]

theorem nodeNames_joinNodes (c : Cursor) : nodeNames c.joinNodes = [] := by
  unfold Cursor.joinNodes
  split
  · rename_i s _
    induction s.joins with
    | nil => rfl
    | cons join joins ih => exact ih
  · rfl

/-- The name of a parameter stands where the parameter begins. -/
theorem parameterNode_names {c d : Cursor} {node : ParameterNode}
    (h : parameterNode sp c = some (node, d)) : StandBehind c (nodeNames [node]) := by
  rcases (parameterNode_cases h).2 with ⟨defect, hmeaning⟩ | ⟨name, type?, hname, hmeaning⟩
  · have hnone : nodeNames [node] = [] := by simp [nodeNames, meanings, hmeaning, Except.toOption]
    rw [hnone]
    intro name hname
    cases hname
  · have hone : nodeNames [node] = [name] := by
      simp [nodeNames, meanings, hmeaning, Except.toOption]
    rw [hone]
    exact standBehind_label hname

theorem parameterNodes_names {rounds : Nat} {c d : Cursor} {nodes : List ParameterNode}
    (h : parameterNodes sp rounds c = some (nodes, d)) : StandBehind c (nodeNames nodes) := by
  induction rounds generalizing c nodes with
  | zero => cases h
  | succ rounds ih =>
    unfold parameterNodes at h
    split at h
    · cases h
      rw [nodeNames_joinNodes]
      intro name hname
      cases hname
    · obtain ⟨⟨node, e⟩, hnode, h⟩ := Option.bind_eq_some_iff.mp h
      dsimp only at h
      have hreach := parameterNode_reaches hnode
      -- of what is read up to the comma, only the parameter has a name
      have hread : StandBehind c (nodeNames (c.joinNodes ++ node :: e.joinNodes)) := by
        rw [nodeNames_append, nodeNames_joinNodes, List.nil_append, ← List.singleton_append,
          nodeNames_append, nodeNames_joinNodes, List.append_nil]
        exact parameterNode_names hnode
      split at h
      · cases h
        exact hread
      · split at h
        · obtain ⟨⟨more, f⟩, hmore, h⟩ := Option.bind_eq_some_iff.mp h
          cases h
          rw [nodeNames_append]
          exact hread.append ((ih hmore).of_reaches hreach.trans_next)
        · cases h

theorem parametersNode_names {c d : Cursor} {node : ParametersNode}
    (h : parametersNode sp c = some (node, d)) :
    StandBehind c (nodeNames (node.nodes.getD [])) := by
  unfold parametersNode at h
  split at h
  · split at h
    · rename_i nodes e hnodes
      cases h
      exact (parameterNodes_names hnodes).of_reaches (.next c)
    · split at h
      · cases h
        intro name hname
        cases hname
      · cases h
  · cases h

/-! ## Functions -/

/-- The names of a function stand behind the cursor where its head begins. -/
theorem functionHead_names {decorators : List String} {c d : Cursor} {head : FunctionNode}
    (h : functionHead sp decorators c = some (head, d)) : StandBehind c head.names := by
  obtain ⟨-, start, e, f, hstart, hname, htypes, hparameters, -⟩ := functionHead_cases h
  have he : c.Reaches e := hstart.trans_next.trans_next.trans (skipTypeParameters_reaches htypes)
  exact ((standBehind_label hname).of_reaches hstart.trans_next).append
    ((parametersNode_names hparameters).of_reaches he)

/-- The functions among statements, and those in the bodies of the classes among them. -/
def reachedFunctions (statements : List Statement) : List FunctionNode :=
  functionsOf statements ++ (classDefs statements).flatMap fun d => functionsOf d.2

theorem mem_reachedFunctions_append {statements more : List Statement} {f : FunctionNode} :
    f ∈ reachedFunctions (statements ++ more) ↔
      f ∈ reachedFunctions statements ∨ f ∈ reachedFunctions more := by
  unfold reachedFunctions functionsOf classDefs
  rw [List.filterMap_append, List.filterMap_append, List.flatMap_append]
  simp only [List.mem_append, or_or_or_comm]

theorem reachedFunctions_simpleStatement {c d : Cursor} {s : Statement}
    (h : simpleStatement sp c = some (s, d)) : reachedFunctions [s] = [] := by
  rcases simpleStatement_cases h with rfl | ⟨written, rfl⟩ <;> rfl

/-- Statements read between two cursors, whose functions have their names there. -/
structure FunctionsBetween (c : Cursor) (statements : List Statement) (d : Cursor) : Prop where
  reaches : c.Reaches d
  named : ∀ f ∈ reachedFunctions statements, StandBehind c f.names

/-- The functions among statements have their names where the statements are read. -/
theorem functions_invariant (sp : Spelling) : ReadingInvariant sp FunctionsBetween where
  skip h := ⟨h, fun f hf => by cases hf⟩
  later hcd h := ⟨hcd.trans h.reaches, fun f hf => (h.named f hf).of_reaches hcd⟩
  append h hmore := by
    refine ⟨h.reaches.trans hmore.reaches, fun f hf => ?_⟩
    rcases mem_reachedFunctions_append.mp hf with hf | hf
    · exact h.named f hf
    · exact (hmore.named f hf).of_reaches h.reaches
  other h := ⟨h.reaches, fun f hf => by cases hf⟩
  simple h := by
    refine ⟨simpleStatement_reaches h, fun f hf => ?_⟩
    rw [reachedFunctions_simpleStatement h] at hf
    cases hf
  function hhead hbody := by
    refine ⟨(functionHead_reaches hhead).trans hbody.reaches, fun f hf => ?_⟩
    rw [List.mem_singleton.mp hf]
    exact functionHead_names hhead
  classDef {_ c d _ head body} hhead hbody := by
    have hreach : c.Reaches d := (Cursor.Reaches.next c).trans (classHead_standsAt hhead).2
    refine ⟨hreach.trans hbody.reaches, fun f hf => ?_⟩
    -- of a class, only the functions of its body are reached
    have hmem : f ∈ functionsOf body := by
      rw [show reachedFunctions [.classDef head body] = functionsOf body ++ [] from rfl,
        List.append_nil] at hf
      exact hf
    exact (hbody.named f (List.mem_append_left _ hmem)).of_reaches hreach

end Source

/-- The members of a class are read from functions whose names are identifiers. -/
theorem ModuleReading.functions_ofBytes {path : String} {content : List UInt8}
    {declaration : ClassDeclaration} (h : declaration ∈ (ofBytes path content).classes) :
    ∃ functions, declaration.members = membersOf path functions ∧
      ∀ f ∈ functions, ∀ name ∈ f.names, Text.isIdentifier name = true := by
  unfold ofBytes at h
  dsimp only at h
  rw [classes_ofStatements] at h
  obtain ⟨d, hd, rfl⟩ := List.mem_map.mp h
  refine ⟨functionsOf d.2, rfl, fun f hf name hname => ?_⟩
  have hbetween : (Source.readStatements (Source.tokens (Text.glyphs content))).Keeps
      Source.FunctionsBetween ⟨0, (Source.tokens (Text.glyphs content)).map Source.Token.symbol⟩ :=
    (Source.functions_invariant _).readStatements
  have hreached : f ∈ Source.reachedFunctions
      (Source.readStatements (Source.tokens (Text.glyphs content))).statements :=
    List.mem_append_right _ (List.mem_flatMap.mpr ⟨d, hd, hf⟩)
  obtain ⟨symbol, hsymbol, hlexeme⟩ := hbetween.named f hreached name hname
  exact Source.isIdentifier_of_mem_tokens hsymbol hlexeme

end SpanWeave
