import SpanWeave.Proofs.Source.AlikeCursors

/-!
# Statements read from symbols that look alike

Texts whose symbols are alike have the same statements, one by one, apart from how their parts are
written: classes and functions of the same names, and parameter lists that are alike. The readers of
blocks, statements and clauses call each other, so they are compared together, depth by depth.
-/

set_option autoImplicit false

namespace SpanWeave.Source

open Grammar (run rule)

/-- Function heads that are the same but for how their parts are written and where they stand. -/
structure FunctionNode.Alike (f g : FunctionNode) : Prop where
  name : g.name = f.name
  isAsync : g.isAsync = f.isAsync
  parameters : f.parameters.Alike g.parameters

/-- Statements of the same form, with names and parameter lists that are alike. -/
inductive Statement.Alike : Statement → Statement → Prop
  | importing (written written' : String) : Alike (.importing written) (.importing written')
  | function {f g : FunctionNode} (head : f.Alike g) : Alike (.function f) (.function g)
  | classDef {head head' : ClassNode} {body body' : List Statement}
    (name : head'.name = head.name) (statements : List.Forall₂ Alike body body') :
    Alike (.classDef head body) (.classDef head' body')
  | other : Alike .other .other

/-- Readings with statements alike that stop at cursors that look alike. -/
structure Outcome.Alike (o p : Outcome) : Prop where
  statements : List.Forall₂ Statement.Alike o.statements p.statements
  sound : p.sound = o.sound
  rest : o.rest.Alike p.rest

variable (sp sp' : Spelling) {c d : Cursor}

/-! ## Heads and simple statements -/

theorem decoratorNames_alike (rounds : Nat) (h : c.Alike d) :
    Option.Rel (ReadAlike fun _ _ => True) (decoratorNames sp rounds c)
      (decoratorNames sp' rounds d) := by
  induction rounds generalizing c d with
  | zero => exact .none
  | succ rounds ih =>
    unfold decoratorNames
    rw [h.atMark]
    split
    · refine rel_bind (run_alike (rule .expression) h.next) fun e e' he => ?_
      rw [he.atLineEnd]
      split
      · refine rel_bind (ih he) fun ⟨names, f⟩ ⟨names', f'⟩ hf => ?_
        exact .some ⟨trivial, hf.behind⟩
      · exact .none
    · exact .some ⟨trivial, h⟩

theorem skipTypeParameters_alike (h : c.Alike d) :
    Option.Rel Cursor.Alike (skipTypeParameters c) (skipTypeParameters d) := by
  unfold skipTypeParameters
  rw [h.atMark]
  split
  · exact run_alike _ h
  · exact .some h

theorem functionHead_alike (decorators decorators' : List String) (h : c.Alike d) :
    Option.Rel (ReadAlike FunctionNode.Alike) (functionHead sp decorators c)
      (functionHead sp' decorators' d) := by
  unfold functionHead
  dsimp only
  rw [h.atWord]
  have hstart : Cursor.Alike (if c.atWord "async" = true then c.next else c)
      (if c.atWord "async" = true then d.next else d) := by
    split
    · exact h.next
    · exact h
  generalize (if c.atWord "async" = true then c.next else c) = start at hstart ⊢
  generalize (if c.atWord "async" = true then d.next else d) = start' at hstart ⊢
  rw [hstart.atWord, hstart.next.label?]
  split
  · exact .none
  · cases start.next.label? with
    | none => exact .none
    | some name =>
      refine rel_bind (skipTypeParameters_alike hstart.next.next) fun e e' he => ?_
      refine rel_bind (parametersNode_alike sp sp' he) fun ⟨p, f⟩ ⟨p', f'⟩ hf => ?_
      -- the colon stands behind the type or right behind the parameters
      have hcolon : ∀ {returns returns' : Option String} {g g' : Cursor}, g.Alike g' →
          Option.Rel (ReadAlike FunctionNode.Alike)
            (if (!g.atMark ":") = true then none else some
              (⟨decorators, c.atWord "async", name, p, returns, sp.start c.index⟩, g.next))
            (if (!g'.atMark ":") = true then none else some
              (⟨decorators', c.atWord "async", name, p', returns', sp'.start d.index⟩, g'.next)) := by
        intro returns returns' g g' hg
        rw [hg.atMark]
        split
        · exact .none
        · exact .some ⟨⟨rfl, rfl, hf.read⟩, hg.next⟩
      dsimp only
      rw [hf.behind.atMark]
      split
      · exact rel_bind (run_alike (rule .typeExpr) hf.behind.next) fun g g' hg => hcolon hg
      · exact hcolon hf.behind

theorem baseNode_alike (h : c.Alike d) :
    Option.Rel (ReadAlike fun _ _ => True) (baseNode sp c) (baseNode sp' d) := by
  unfold baseNode
  rw [h.label?, h.next.atMark]
  split
  · refine rel_bind (run_alike (rule .expression) h.next.next) fun e e' he => ?_
    exact .some ⟨trivial, he⟩
  · refine rel_bind (run_alike _ h) fun e e' he => ?_
    exact .some ⟨trivial, he⟩

theorem baseNodes_alike (rounds : Nat) (h : c.Alike d) :
    Option.Rel (ReadAlike fun _ _ => True) (baseNodes sp rounds c) (baseNodes sp' rounds d) := by
  induction rounds generalizing c d with
  | zero => exact .none
  | succ rounds ih =>
    unfold baseNodes
    rw [h.atMark]
    split
    · exact .some ⟨trivial, h⟩
    · refine rel_bind (baseNode_alike sp sp' h) fun ⟨node, e⟩ ⟨node', e'⟩ he => ?_
      dsimp only
      rw [he.behind.atMark, he.behind.atMark]
      split
      · exact .some ⟨trivial, he.behind⟩
      · split
        · refine rel_bind (ih he.behind.next) fun ⟨more, f⟩ ⟨more', f'⟩ hf => ?_
          exact .some ⟨trivial, hf.behind⟩
        · exact .none

theorem classHead_alike (decorators decorators' : List String) (h : c.Alike d) :
    Option.Rel (ReadAlike fun head head' : ClassNode => head'.name = head.name)
      (classHead sp decorators c) (classHead sp' decorators' d) := by
  unfold classHead
  rw [h.atWord, h.next.label?]
  split
  · exact .none
  · cases c.next.label? with
    | none => exact .none
    | some name =>
      refine rel_bind (skipTypeParameters_alike h.next.next) fun e e' he => ?_
      -- the colon stands behind the arguments or right behind the name
      have hcolon : ∀ {bases bases' : List BaseNode} {f f' : Cursor}, f.Alike f' →
          Option.Rel (ReadAlike fun head head' : ClassNode => head'.name = head.name)
            (if (!f.atMark ":") = true then none else some
              (⟨decorators, name, bases, sp.start c.index⟩, f.next))
            (if (!f'.atMark ":") = true then none else some
              (⟨decorators', name, bases', sp'.start d.index⟩, f'.next)) := by
        intro bases bases' f f' hf
        rw [hf.atMark]
        split
        · exact .none
        · exact .some ⟨rfl, hf.next⟩
      dsimp only
      rw [he.atMark, he.length]
      split
      · exact rel_bind (baseNodes_alike sp sp' _ he.next) fun ⟨bases, f⟩ ⟨bases', f'⟩ hf =>
          hcolon hf.behind.next
      · exact hcolon he

theorem simpleStatement_alike (h : c.Alike d) :
    Option.Rel (ReadAlike Statement.Alike) (simpleStatement sp c) (simpleStatement sp' d) := by
  unfold simpleStatement
  rw [h.atWord, h.atWord]
  split
  · refine rel_bind (run_alike _ h) fun e e' he => ?_
    rw [he.atStatementEnd]
    split
    · exact .some ⟨.importing _ _, he⟩
    · exact .none
  · refine rel_findSome? fun form => ?_
    obtain ⟨hc, hd⟩ | ⟨e, e', hc, hd, he⟩ := rel_iff.mp (run_alike form h)
    · rw [hc, hd]
      exact .none
    · rw [hc, hd]
      dsimp only
      rw [he.atStatementEnd]
      split
      · exact .some ⟨.other, he⟩
      · exact .none

theorem clauseHead_alike (word : String) (h : c.Alike d) :
    Option.Rel Cursor.Alike (clauseHead? word c) (clauseHead? word d) := by
  unfold clauseHead?
  cases clauseGrammar? word with
  | none => exact .none
  | some g =>
    refine rel_bind (run_alike g h.next) fun e e' he => ?_
    rw [he.atMark]
    split
    · exact .some he.next
    · exact .none

/-! ## Blocks -/

theorem broken_alike (h : c.Alike d) : (Outcome.broken c).Alike (.broken d) :=
  ⟨.nil, rfl, h.nextLine⟩

/-- Nothing more is read. -/
theorem stop_alike (sound : Bool) (h : c.Alike d) :
    Outcome.Alike ⟨[], sound, c⟩ ⟨[], sound, d⟩ :=
  ⟨.nil, rfl, h⟩

/-- Nothing is kept of a statement. -/
theorem other_alike {sound : Bool} (h : c.Alike d) :
    Outcome.Alike ⟨[.other], sound, c⟩ ⟨[.other], sound, d⟩ :=
  ⟨.cons .other .nil, rfl, h⟩

theorem Outcome.Alike.append {o p o' p' : Outcome} (h : o.Alike p) (h' : o'.Alike p') :
    (o.append o').Alike (p.append p') := by
  refine ⟨List.rel_append h.statements h'.statements, ?_, h'.rest⟩
  unfold Outcome.append
  rw [h.sound, h'.sound]

theorem simpleLine_alike (rounds : Nat) (h : c.Alike d) :
    (simpleLine sp rounds c).Alike (simpleLine sp' rounds d) := by
  induction rounds generalizing c d with
  | zero => exact broken_alike h
  | succ rounds ih =>
    unfold simpleLine
    obtain ⟨hc, hd⟩ | ⟨⟨s, e⟩, ⟨s', e'⟩, hc, hd, he⟩ :=
      rel_iff.mp (simpleStatement_alike sp sp' h)
    · rw [hc, hd]
      exact broken_alike h
    · rw [hc, hd]
      dsimp only
      rw [he.behind.atMark]
      have hbehind : Cursor.Alike (if e.atMark ";" = true then e.next else e)
          (if e.atMark ";" = true then e'.next else e') := by
        split
        · exact he.behind.next
        · exact he.behind
      generalize (if e.atMark ";" = true then e.next else e) = f at hbehind ⊢
      generalize (if e.atMark ";" = true then e'.next else e') = f' at hbehind ⊢
      have hfirst : Outcome.Alike ⟨[s], true, f⟩ ⟨[s'], true, f'⟩ :=
        ⟨.cons he.read .nil, rfl, hbehind⟩
      rw [hbehind.atLineEnd]
      split
      · exact hfirst
      · exact hfirst.append (ih hbehind)

/-- All readers of blocks and statements read alike at a given depth. -/
structure AlikeUpTo (fuel : Nat) : Prop where
  block : ∀ {c d : Cursor} indent, c.Alike d →
    (block sp indent fuel c).Alike (block sp' indent fuel d)
  statement : ∀ {c d : Cursor} indent, c.Alike d →
    (statement sp indent fuel c).Alike (statement sp' indent fuel d)
  definition : ∀ {c d : Cursor} indent decorators decorators', c.Alike d →
    (definition sp indent decorators fuel c).Alike (definition sp' indent decorators' fuel d)
  suite : ∀ {c d : Cursor} indent, c.Alike d →
    (suite sp indent fuel c).Alike (suite sp' indent fuel d)
  clause : ∀ {c d : Cursor} indent, c.Alike d →
    (clause sp indent fuel c).Alike (clause sp' indent fuel d)
  caseBlock : ∀ {c d : Cursor} indent, c.Alike d →
    (caseBlock sp indent fuel c).Alike (caseBlock sp' indent fuel d)

namespace AlikeUpTo

variable {sp sp' : Spelling} {fuel : Nat} (ih : AlikeUpTo sp sp' fuel) (indent : Nat) (h : c.Alike d)

include ih h

theorem block_succ : (Source.block sp indent (fuel + 1) c).Alike
    (Source.block sp' indent (fuel + 1) d) := by
  unfold Source.block
  rw [h.leaves]
  split
  · exact stop_alike true h
  · have hfirst := ih.statement indent h
    exact hfirst.append (ih.block indent hfirst.rest)

theorem statement_succ : (Source.statement sp indent (fuel + 1) c).Alike
    (Source.statement sp' indent (fuel + 1) d) := by
  have hline : (simpleLine sp c.rest.length c).Alike (simpleLine sp' c.rest.length d) :=
    simpleLine_alike sp sp' _ h
  unfold Source.statement
  simp only [h.atMark, h.atWord, h.next.atWord, h.length]
  split
  · obtain ⟨hc, hd⟩ | ⟨⟨names, e⟩, ⟨names', e'⟩, hc, hd, he⟩ :=
      rel_iff.mp (decoratorNames_alike sp sp' c.rest.length h)
    · rw [hc, hd]
      exact broken_alike h
    · rw [hc, hd]
      exact ih.definition indent names names' he.behind
  split
  · exact ih.definition indent [] [] h
  split
  · exact ih.definition indent [] [] h
  split
  · exact ih.clause indent h.next
  split
  · exact ih.clause indent h
  split
  · obtain ⟨hc, hd⟩ | ⟨e, e', hc, hd, he⟩ := rel_iff.mp (clauseHead_alike "match" h)
    · rw [hc, hd]
      exact hline
    · rw [hc, hd]
      dsimp only
      rw [he.atLineEnd]
      split
      · obtain ⟨hc, hd⟩ | ⟨⟨_, opens, _⟩, ⟨_, opens', _⟩, hc, hd, hs⟩ := rel_iff.mp he.head?
        · rw [hc, hd]
          exact other_alike he
        · rw [hc, hd]
          obtain rfl : opens' = opens := hs.opens
          cases opens' with
          | none => exact other_alike he
          | some inner =>
            dsimp only
            split
            · have hcases := ih.caseBlock inner he
              exact ⟨.cons .other .nil, hcases.sound, hcases.rest⟩
            · exact other_alike he
      · exact hline
  · exact hline

theorem definition_succ (decorators decorators' : List String) :
    (Source.definition sp indent decorators (fuel + 1) c).Alike
      (Source.definition sp' indent decorators' (fuel + 1) d) := by
  unfold Source.definition
  obtain ⟨hc, hd⟩ | ⟨⟨head, e⟩, ⟨head', e'⟩, hc, hd, he⟩ :=
    rel_iff.mp (classHead_alike sp sp' decorators decorators' h)
  · rw [hc, hd]
    dsimp only
    obtain ⟨hc, hd⟩ | ⟨⟨f, e⟩, ⟨f', e'⟩, hc, hd, he⟩ :=
      rel_iff.mp (functionHead_alike sp sp' decorators decorators' h)
    · rw [hc, hd]
      exact broken_alike h
    · rw [hc, hd]
      have hbody := ih.suite indent he.behind
      have hnodes : f'.parameters.nodes.isSome = f.parameters.nodes.isSome := by
        obtain ⟨hc, hd⟩ | ⟨_, _, hc, hd, -⟩ := rel_iff.mp he.read.parameters
        · rw [hc, hd]
        · rw [hc, hd, Option.isSome_some, Option.isSome_some]
      refine ⟨.cons (.function he.read) .nil, ?_, hbody.rest⟩
      dsimp only
      rw [hnodes, hbody.sound]
  · rw [hc, hd]
    have hbody := ih.suite indent he.behind
    exact ⟨.cons (.classDef he.read hbody.statements) .nil, hbody.sound, hbody.rest⟩

theorem suite_succ : (Source.suite sp indent (fuel + 1) c).Alike
    (Source.suite sp' indent (fuel + 1) d) := by
  unfold Source.suite
  obtain ⟨hc, hd⟩ | ⟨⟨_, opens, _⟩, ⟨_, opens', _⟩, hc, hd, hs⟩ := rel_iff.mp h.head?
  · rw [hc, hd]
    exact stop_alike true h
  · rw [hc, hd]
    obtain rfl : opens' = opens := hs.opens
    cases opens' with
    | none =>
      dsimp only
      rw [h.length]
      exact simpleLine_alike sp sp' _ h
    | some inner =>
      dsimp only
      split
      · exact ih.block inner h
      · exact stop_alike true h

theorem clause_succ : (Source.clause sp indent (fuel + 1) c).Alike
    (Source.clause sp' indent (fuel + 1) d) := by
  unfold Source.clause
  rw [h.label?]
  cases c.label? with
  | none => exact broken_alike h
  | some word =>
    dsimp only
    obtain ⟨hc, hd⟩ | ⟨e, e', hc, hd, he⟩ := rel_iff.mp (clauseHead_alike word h)
    · rw [hc, hd]
      exact broken_alike h
    · rw [hc, hd]
      have hbody := ih.suite indent he
      have hhere : Outcome.Alike ⟨[.other], (Source.suite sp indent fuel e).sound, _⟩
          ⟨[.other], (Source.suite sp' indent fuel e').sound, _⟩ :=
        ⟨.cons .other .nil, hbody.sound, hbody.rest⟩
      dsimp only
      rw [hbody.rest.leaves, hbody.rest.label?]
      split
      · exact hhere.append (ih.clause indent hbody.rest)
      · exact hhere

theorem caseBlock_succ : (Source.caseBlock sp indent (fuel + 1) c).Alike
    (Source.caseBlock sp' indent (fuel + 1) d) := by
  unfold Source.caseBlock
  rw [h.leaves, h.atWord]
  split
  · exact stop_alike true h
  · have hhead : Option.Rel Cursor.Alike
        (if c.atWord "case" = true then clauseHead? "case" c else none)
        (if c.atWord "case" = true then clauseHead? "case" d else none) := by
      split
      · exact clauseHead_alike "case" h
      · exact .none
    dsimp only
    obtain ⟨hc, hd⟩ | ⟨e, e', hc, hd, he⟩ := rel_iff.mp hhead
    · rw [hc, hd]
      exact (broken_alike h).append (ih.caseBlock indent h.nextLine)
    · rw [hc, hd]
      have hfirst := ih.suite indent he
      exact hfirst.append (ih.caseBlock indent hfirst.rest)

end AlikeUpTo

/-- All readers read alike, by induction on the depth. -/
theorem alikeUpTo (fuel : Nat) : AlikeUpTo sp sp' fuel := by
  induction fuel with
  | zero =>
    exact
      { block := fun _ h => stop_alike false h
        statement := fun _ h => broken_alike h
        definition := fun _ _ _ h => broken_alike h
        suite := fun _ h => stop_alike false h
        clause := fun _ h => broken_alike h
        caseBlock := fun _ h => stop_alike false h }
  | succ fuel ih =>
    exact
      { block := fun indent h => ih.block_succ indent h
        statement := fun indent h => ih.statement_succ indent h
        definition := fun indent decorators decorators' h =>
          ih.definition_succ indent h decorators decorators'
        suite := fun indent h => ih.suite_succ indent h
        clause := fun indent h => ih.clause_succ indent h
        caseBlock := fun indent h => ih.caseBlock_succ indent h }

/-- Tokens with symbols alike have statements alike, and are sound alike. -/
theorem readStatements_alike {ts us : List Token}
    (h : List.Forall₂ Symbol.Alike (ts.map Token.symbol) (us.map Token.symbol)) :
    (readStatements ts).Alike (readStatements us) := by
  have hlength : us.length = ts.length := by simpa using h.length_eq.symm
  unfold readStatements
  rw [hlength]
  exact (alikeUpTo _ _ _).block 0 ⟨rfl, h⟩

end SpanWeave.Source
