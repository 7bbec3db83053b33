import SpanWeave.Reading

/-!
# Where reading gets to

Whatever is read at a cursor, the cursor behind it stands among the same symbols, there or further
on. Every reader of the grammar is shown to lead from one cursor to a later one, so that what
statements say about indices and symbols holds of the whole text.
-/

set_option autoImplicit false

namespace SpanWeave.Source

open Grammar (run runUpTo rule)

/-- Reading leads from the first cursor to the second one. -/
def Cursor.Reaches (c d : Cursor) : Prop :=
  ∃ n, d.index = c.index + n ∧ d.rest = c.rest.drop n

namespace Cursor.Reaches

variable {c d e : Cursor}

theorem refl (c : Cursor) : c.Reaches c := ⟨0, rfl, rfl⟩

theorem trans (hcd : c.Reaches d) (hde : d.Reaches e) : c.Reaches e := by
  obtain ⟨n, hindex, hrest⟩ := hcd
  obtain ⟨m, hindex', hrest'⟩ := hde
  refine ⟨n + m, by omega, ?_⟩
  rw [hrest', hrest, List.drop_drop]

theorem next (c : Cursor) : c.Reaches c.next := ⟨1, rfl, List.drop_one.symm⟩

theorem trans_next (h : c.Reaches d) : c.Reaches d.next := h.trans (next d)

theorem nextLine (c : Cursor) : c.Reaches c.nextLine := by
  apply (next c).trans
  exact ⟨(c.next.rest.takeWhile fun s => s.opens.isNone).length, rfl, rfl⟩

/-- Reading never goes back. -/
theorem index_le (h : c.Reaches d) : c.index ≤ d.index := by
  obtain ⟨n, hindex, -⟩ := h
  omega

/-- What follows a later cursor follows an earlier one. -/
theorem mem_rest (h : c.Reaches d) {s : Symbol} (hs : s ∈ d.rest) : s ∈ c.rest := by
  obtain ⟨n, -, hrest⟩ := h
  rw [hrest] at hs
  exact List.mem_of_mem_drop hs

end Cursor.Reaches

/-- A word stands at a cursor only if something does. -/
theorem Cursor.rest_ne_nil_of_atWord {c : Cursor} {s : String} (h : c.atWord s = true) :
    c.rest ≠ [] := by
  intro hnil
  simp [Cursor.atWord, Cursor.head?, hnil] at h

/-- The name at a cursor is the name of a symbol there. -/
theorem Cursor.mem_of_label {c : Cursor} {s : String} (h : c.label? = some s) :
    ∃ symbol ∈ c.rest, symbol.lexeme = .name s := by
  unfold Cursor.label? Cursor.head? at h
  cases hrest : c.rest with
  | nil => simp [hrest] at h
  | cons symbol rest =>
    refine ⟨symbol, List.mem_cons_self, ?_⟩
    simp only [hrest, List.head?_cons] at h
    split at h
    · rename_i name opens joins heq
      cases heq
      cases h
      rfl
    · cases h

/-! ## The grammar -/

/-- A grammar leads from a cursor to a later one. -/
theorem runUpTo_reaches {fuel : Nat} {g : Grammar} {c d : Cursor} (h : runUpTo fuel g c = some d) :
    c.Reaches d := by
  induction fuel generalizing g c d with
  | zero => simp [runUpTo] at h
  | succ fuel ih =>
    have hstep : ∀ {b : Bool}, (if b = true then some c.next else none) = some d →
        c.Reaches d := by
      intro b hb
      split at hb
      · cases hb
        exact .next c
      · cases hb
    cases g with
    | nothing =>
      cases h
      exact .refl c
    | goesOn =>
      rw [runUpTo] at h
      split at h
      · cases h
      · cases h
        exact .refl c
    | word s => exact hstep h
    | mark s => exact hstep h
    | name => exact hstep h
    | nameBut s => exact hstep h
    | label => exact hstep h
    | number => exact hstep h
    | text => exact hstep h
    | both first second =>
      rw [runUpTo] at h
      obtain ⟨middle, hfirst, hsecond⟩ := Option.bind_eq_some_iff.mp h
      exact (ih hfirst).trans (ih hsecond)
    | either first second =>
      rw [runUpTo] at h
      split at h
      · rename_i found hfirst
        cases h
        exact ih hfirst
      · exact ih h
    | optional g =>
      rw [runUpTo] at h
      split at h
      · cases h
        exact .refl c
      · split at h
        · rename_i found hfirst
          cases h
          exact ih hfirst
        · cases h
          exact .refl c
    | many g =>
      rw [runUpTo] at h
      split at h
      · cases h
        exact .refl c
      · split at h
        · rename_i found hfirst
          split at h
          · cases h
            exact ih hfirst
          · exact (ih hfirst).trans (ih h)
        · cases h
          exact .refl c
    | rule r =>
      rw [runUpTo] at h
      exact ih h

theorem run_reaches {g : Grammar} {c d : Cursor} (h : run g c = some d) : c.Reaches d :=
  runUpTo_reaches h

/-! ## Parameter lists -/

variable {sp : Spelling}

theorem typeAfterColon_reaches {c d : Cursor} {type? : Option String}
    (h : typeAfterColon sp c = some (type?, d)) : c.Reaches d := by
  unfold typeAfterColon at h
  split at h
  · split at h
    · rename_i e hrun
      cases h
      exact (Cursor.Reaches.next c).trans (run_reaches hrun)
    · cases h
  · cases h
    exact .refl c

/-- A parameter has the name that stands at its cursor, or none. -/
theorem parameterNode_cases {c d : Cursor} {node : ParameterNode}
    (h : parameterNode sp c = some (node, d)) :
    c.Reaches d ∧ ((∃ defect, node.meaning = .error defect) ∨
      ∃ name type?, c.label? = some name ∧ node.meaning = .ok (name, type?)) := by
  unfold parameterNode at h
  split at h
  · cases h
    exact ⟨.next c, Or.inl ⟨_, rfl⟩⟩
  split at h
  · cases h
    exact ⟨.next c, Or.inl ⟨_, rfl⟩⟩
  split at h
  · -- a star with a name, perhaps with a type
    obtain ⟨e, hname, h⟩ := Option.bind_eq_some_iff.mp h
    obtain ⟨⟨type?, f⟩, htype, h⟩ := Option.bind_eq_some_iff.mp h
    have hreach : c.Reaches f :=
      ((Cursor.Reaches.next c).trans (run_reaches hname)).trans (typeAfterColon_reaches htype)
    cases type? with
    | some type =>
      cases h
      exact ⟨hreach, Or.inl ⟨_, rfl⟩⟩
    | none =>
      cases h
      exact ⟨hreach, Or.inl ⟨_, rfl⟩⟩
  split at h
  · -- a pattern in parentheses, perhaps with a default value
    obtain ⟨e, hatom, h⟩ := Option.bind_eq_some_iff.mp h
    split at h
    · obtain ⟨f, hvalue, h⟩ := Option.bind_eq_some_iff.mp h
      cases h
      exact ⟨((run_reaches hatom).trans_next).trans (run_reaches hvalue), Or.inl ⟨_, rfl⟩⟩
    · cases h
      exact ⟨run_reaches hatom, Or.inl ⟨_, rfl⟩⟩
  · -- a name, perhaps with a type and a default value
    obtain ⟨name, hname, h⟩ := Option.bind_eq_some_iff.mp h
    obtain ⟨⟨type?, e⟩, htype, h⟩ := Option.bind_eq_some_iff.mp h
    have hreach : c.Reaches e := (Cursor.Reaches.next c).trans (typeAfterColon_reaches htype)
    dsimp only at h
    split at h
    · obtain ⟨f, hvalue, h⟩ := Option.bind_eq_some_iff.mp h
      cases h
      exact ⟨hreach.trans_next.trans (run_reaches hvalue), Or.inr ⟨name, _, hname, rfl⟩⟩
    · cases type? with
      | some type =>
        cases h
        exact ⟨hreach, Or.inr ⟨name, _, hname, rfl⟩⟩
      | none =>
        cases h
        exact ⟨hreach, Or.inr ⟨name, _, hname, rfl⟩⟩

theorem parameterNode_reaches {c d : Cursor} {node : ParameterNode}
    (h : parameterNode sp c = some (node, d)) : c.Reaches d :=
  (parameterNode_cases h).1

theorem parameterNodes_reaches {rounds : Nat} {c d : Cursor} {nodes : List ParameterNode}
    (h : parameterNodes sp rounds c = some (nodes, d)) : c.Reaches d := by
  induction rounds generalizing c nodes with
  | zero => cases h
  | succ rounds ih =>
    unfold parameterNodes at h
    split at h
    · cases h
      exact .refl _
    · obtain ⟨⟨node, e⟩, hnode, h⟩ := Option.bind_eq_some_iff.mp h
      dsimp only at h
      have hreach := parameterNode_reaches hnode
      split at h
      · cases h
        exact hreach
      · split at h
        · obtain ⟨⟨more, f⟩, hmore, h⟩ := Option.bind_eq_some_iff.mp h
          cases h
          exact hreach.trans_next.trans (ih hmore)
        · cases h

theorem closing_reaches {depth index : Nat} {rest : List Symbol} {d : Cursor}
    (h : closing? depth index rest = some d) : Cursor.Reaches ⟨index, rest⟩ d := by
  induction rest generalizing depth index with
  | nil => cases h
  | cons s rest ih =>
    unfold closing? at h
    dsimp only at h
    split at h
    · cases h
      exact .refl _
    · exact (Cursor.Reaches.next ⟨index, s :: rest⟩).trans (ih h)

theorem parametersNode_reaches {c d : Cursor} {node : ParametersNode}
    (h : parametersNode sp c = some (node, d)) : c.Reaches d := by
  unfold parametersNode at h
  split at h
  · split at h
    · rename_i nodes e hnodes
      cases h
      exact ((Cursor.Reaches.next c).trans (parameterNodes_reaches hnodes)).trans_next
    · split at h
      · rename_i e hclosing
        cases h
        exact ((Cursor.Reaches.next c).trans (closing_reaches hclosing)).trans_next
      · cases h
  · cases h

/-! ## Heads and simple statements -/

theorem decoratorNames_reaches {rounds : Nat} {c d : Cursor} {names : List String}
    (h : decoratorNames sp rounds c = some (names, d)) : c.Reaches d := by
  induction rounds generalizing c names with
  | zero => cases h
  | succ rounds ih =>
    unfold decoratorNames at h
    split at h
    · obtain ⟨e, hexpression, h⟩ := Option.bind_eq_some_iff.mp h
      split at h
      · obtain ⟨⟨more, f⟩, hmore, h⟩ := Option.bind_eq_some_iff.mp h
        cases h
        exact ((Cursor.Reaches.next c).trans (run_reaches hexpression)).trans (ih hmore)
      · cases h
    · cases h
      exact .refl _

theorem skipTypeParameters_reaches {c d : Cursor} (h : skipTypeParameters c = some d) :
    c.Reaches d := by
  unfold skipTypeParameters at h
  split at h
  · exact run_reaches h
  · cases h
    exact .refl c

theorem baseNode_reaches {c d : Cursor} {node : BaseNode} (h : baseNode sp c = some (node, d)) :
    c.Reaches d := by
  unfold baseNode at h
  split at h
  · obtain ⟨e, hvalue, h⟩ := Option.bind_eq_some_iff.mp h
    cases h
    exact (Cursor.Reaches.next c).trans_next.trans (run_reaches hvalue)
  · obtain ⟨e, hvalue, h⟩ := Option.bind_eq_some_iff.mp h
    cases h
    exact run_reaches hvalue

theorem baseNodes_reaches {rounds : Nat} {c d : Cursor} {nodes : List BaseNode}
    (h : baseNodes sp rounds c = some (nodes, d)) : c.Reaches d := by
  induction rounds generalizing c nodes with
  | zero => cases h
  | succ rounds ih =>
    unfold baseNodes at h
    split at h
    · cases h
      exact .refl _
    · obtain ⟨⟨node, e⟩, hnode, h⟩ := Option.bind_eq_some_iff.mp h
      dsimp only at h
      have hreach := baseNode_reaches hnode
      split at h
      · cases h
        exact hreach
      · split at h
        · obtain ⟨⟨more, f⟩, hmore, h⟩ := Option.bind_eq_some_iff.mp h
          cases h
          exact hreach.trans_next.trans (ih hmore)
        · cases h

theorem clauseHead_reaches {word : String} {c d : Cursor} (h : clauseHead? word c = some d) :
    c.Reaches d := by
  unfold clauseHead? at h
  obtain ⟨g, -, h⟩ := Option.bind_eq_some_iff.mp h
  obtain ⟨e, hrun, h⟩ := Option.bind_eq_some_iff.mp h
  split at h
  · cases h
    exact ((Cursor.Reaches.next c).trans (run_reaches hrun)).trans_next
  · cases h

/-- A simple statement imports something, or nothing is kept of it. -/
theorem simpleStatement_cases {c d : Cursor} {s : Statement}
    (h : simpleStatement sp c = some (s, d)) : s = .other ∨ ∃ written, s = .importing written := by
  unfold simpleStatement at h
  split at h
  · obtain ⟨e, -, h⟩ := Option.bind_eq_some_iff.mp h
    split at h <;> cases h
    exact Or.inr ⟨_, rfl⟩
  · obtain ⟨form, -, hform⟩ := List.exists_of_findSome?_eq_some h
    split at hform
    · split at hform <;> cases hform
      exact Or.inl rfl
    · cases hform

theorem simpleStatement_reaches {c d : Cursor} {s : Statement}
    (h : simpleStatement sp c = some (s, d)) : c.Reaches d := by
  unfold simpleStatement at h
  split at h
  · obtain ⟨e, hrun, h⟩ := Option.bind_eq_some_iff.mp h
    split at h
    · cases h
      exact run_reaches hrun
    · cases h
  · obtain ⟨form, -, hform⟩ := List.exists_of_findSome?_eq_some h
    split at hform
    · rename_i e hrun
      split at hform
      · cases hform
        exact run_reaches hrun
      · cases hform
    · cases hform

/-- A function starts where its head is read. The head has a name, parameters behind it, and perhaps a
type before its colon. -/
theorem functionHead_cases {decorators : List String} {c d : Cursor} {head : FunctionNode}
    (h : functionHead sp decorators c = some (head, d)) :
    head.start = sp.start c.index ∧
    ∃ start e f, c.Reaches start ∧ start.next.label? = some head.name ∧
      skipTypeParameters start.next.next = some e ∧
        parametersNode sp e = some (head.parameters, f) ∧ f.Reaches d := by
  unfold functionHead at h
  dsimp only at h
  generalize hstart : (if c.atWord "async" = true then c.next else c) = start at h
  have hreach : c.Reaches start := by
    rw [← hstart]
    split
    · exact .next c
    · exact .refl c
  split at h
  · cases h
  · obtain ⟨name, hname, h⟩ := Option.bind_eq_some_iff.mp h
    obtain ⟨e, htypes, h⟩ := Option.bind_eq_some_iff.mp h
    obtain ⟨⟨parameters, f⟩, hparameters, h⟩ := Option.bind_eq_some_iff.mp h
    -- with a type after an arrow, or without one
    dsimp only at h
    split at h
    · obtain ⟨g, htype, h⟩ := Option.bind_eq_some_iff.mp h
      have hg : f.Reaches g := (Cursor.Reaches.next f).trans (run_reaches htype)
      replace h := Option.bind_eq_some_iff.mp h
      obtain ⟨⟨returns, g'⟩, hsame, h⟩ := h
      cases hsame
      split at h
      · cases h
      · cases h
        exact ⟨rfl, start, e, f, hreach, hname, htypes, hparameters, hg.trans_next⟩
    · obtain ⟨⟨returns, g⟩, hsame, h⟩ := Option.bind_eq_some_iff.mp h
      cases hsame
      split at h
      · cases h
      · cases h
        exact ⟨rfl, start, e, f, hreach, hname, htypes, hparameters, .next f⟩

theorem functionHead_reaches {decorators : List String} {c d : Cursor} {head : FunctionNode}
    (h : functionHead sp decorators c = some (head, d)) : c.Reaches d := by
  obtain ⟨-, start, e, f, hstart, -, htypes, hparameters, hbehind⟩ := functionHead_cases h
  have he : c.Reaches e := hstart.trans_next.trans_next.trans (skipTypeParameters_reaches htypes)
  exact (he.trans (parametersNode_reaches hparameters)).trans hbehind

end SpanWeave.Source
