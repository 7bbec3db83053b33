import SpanWeave.Proofs.Source.CursorReach

/-!
# Invariants of reading

The readers of blocks, statements and clauses call each other, but there are only a few ways in
which statements come about. A relation between the cursor where reading begins, the statements
read, and the cursor where reading stops holds of every reader if it is kept in these ways. The
induction over the readers is done here once for all such relations.
-/

set_option autoImplicit false

namespace SpanWeave.Source

/-- A relation that is kept in every way in which statements are read. -/
structure ReadingInvariant (sp : Spelling) (R : Cursor → List Statement → Cursor → Prop) :
    Prop where
  /-- Symbols may be passed over. -/
  skip : ∀ {c d : Cursor}, c.Reaches d → R c [] d
  /-- Reading may begin further on. -/
  later : ∀ {c d e : Cursor} {statements : List Statement}, c.Reaches d → R d statements e →
    R c statements e
  append : ∀ {c d e : Cursor} {statements more : List Statement}, R c statements d → R d more e →
    R c (statements ++ more) e
  /-- A statement of which nothing is kept stands for all that was read in it. -/
  other : ∀ {c d : Cursor} {statements : List Statement}, R c statements d → R c [.other] d
  simple : ∀ {c d : Cursor} {s : Statement}, simpleStatement sp c = some (s, d) → R c [s] d
  function : ∀ {decorators : List String} {c d e : Cursor} {head : FunctionNode}
    {body : List Statement}, functionHead sp decorators c = some (head, d) → R d body e →
    R c [.function head] e
  classDef : ∀ {decorators : List String} {c d e : Cursor} {head : ClassNode}
    {body : List Statement}, classHead sp decorators c = some (head, d) → R d body e →
    R c [.classDef head body] e

/-- The relation holds of what is read at a cursor. -/
def Outcome.Keeps (R : Cursor → List Statement → Cursor → Prop) (c : Cursor) (o : Outcome) : Prop :=
  R c o.statements o.rest

/-- All readers of blocks and statements keep a relation, at a given depth. -/
structure KeepsUpTo (sp : Spelling) (R : Cursor → List Statement → Cursor → Prop) (fuel : Nat) :
    Prop where
  block : ∀ indent c, (block sp indent fuel c).Keeps R c
  statement : ∀ indent c, (statement sp indent fuel c).Keeps R c
  definition : ∀ indent decorators c, (definition sp indent decorators fuel c).Keeps R c
  suite : ∀ indent c, (suite sp indent fuel c).Keeps R c
  clause : ∀ indent c, (clause sp indent fuel c).Keeps R c
  caseBlock : ∀ indent c, (caseBlock sp indent fuel c).Keeps R c

namespace ReadingInvariant

variable {sp : Spelling} {R : Cursor → List Statement → Cursor → Prop} (inv : ReadingInvariant sp R)

include inv

theorem broken (c : Cursor) : (Outcome.broken c).Keeps R c := inv.skip (.nextLine c)

theorem simpleLine (rounds : Nat) (c : Cursor) : (simpleLine sp rounds c).Keeps R c := by
  induction rounds generalizing c with
  | zero => exact inv.broken c
  | succ rounds ih =>
    unfold Source.simpleLine
    split
    · exact inv.broken c
    · rename_i s d hsimple
      dsimp only
      generalize hend : (if d.atMark ";" = true then d.next else d) = e
      have hreach : d.Reaches e := by
        rw [← hend]
        split
        · exact .next d
        · exact .refl d
      have hfirst : R c [s] e := inv.append (inv.simple hsimple) (inv.skip hreach)
      split
      · exact hfirst
      · exact inv.append hfirst (ih e)

section Steps

variable {fuel : Nat} (ih : KeepsUpTo sp R fuel)

include ih

theorem block_succ (indent : Nat) (c : Cursor) : (block sp indent (fuel + 1) c).Keeps R c := by
  unfold block
  split
  · exact inv.skip (.refl c)
  · exact inv.append (ih.statement indent c) (ih.block indent _)

theorem statement_succ (indent : Nat) (c : Cursor) :
    (statement sp indent (fuel + 1) c).Keeps R c := by
  have hline : (Source.simpleLine sp c.rest.length c).Keeps R c := inv.simpleLine _ c
  unfold statement
  split
  · split
    · rename_i names d hdecorators
      exact inv.later (decoratorNames_reaches hdecorators) (ih.definition indent names d)
    · exact inv.broken c
  split
  · exact ih.definition indent [] c
  split
  · exact ih.definition indent [] c
  split
  · exact inv.later (.next c) (ih.clause indent c.next)
  split
  · exact ih.clause indent c
  split
  · split
    · rename_i d hhead
      have hd : c.Reaches d := clauseHead_reaches hhead
      have halone : R c [.other] d := inv.other (inv.skip hd)
      split
      · split
        · dsimp only
          split
          · exact inv.other (inv.later hd (ih.caseBlock _ d))
          · exact halone
        · exact halone
      · exact hline
    · exact hline
  · exact hline

theorem definition_succ (indent : Nat) (decorators : List String) (c : Cursor) :
    (definition sp indent decorators (fuel + 1) c).Keeps R c := by
  unfold definition
  split
  · rename_i head d hclass
    exact inv.classDef hclass (ih.suite indent d)
  · split
    · rename_i head d hfunction
      exact inv.function hfunction (ih.suite indent d)
    · exact inv.broken c

theorem suite_succ (indent : Nat) (c : Cursor) : (suite sp indent (fuel + 1) c).Keeps R c := by
  unfold suite
  split
  · exact inv.skip (.refl c)
  · split
    · exact inv.simpleLine _ c
    · rename_i inner hopens
      split
      · exact ih.block inner c
      · exact inv.skip (.refl c)

theorem clause_succ (indent : Nat) (c : Cursor) : (clause sp indent (fuel + 1) c).Keeps R c := by
  unfold clause
  split
  · exact inv.broken c
  · split
    · exact inv.broken c
    · rename_i d hhead
      have hhere : R c [.other] (suite sp indent fuel d).rest :=
        inv.other (inv.later (clauseHead_reaches hhead) (ih.suite indent d))
      dsimp only
      split
      · exact inv.append hhere (ih.clause indent _)
      · exact hhere

theorem caseBlock_succ (indent : Nat) (c : Cursor) :
    (caseBlock sp indent (fuel + 1) c).Keeps R c := by
  unfold caseBlock
  split
  · exact inv.skip (.refl c)
  · refine inv.append ?_ (ih.caseBlock indent _)
    split
    · rename_i d hhead
      have hd : c.Reaches d := by
        split at hhead
        · exact clauseHead_reaches hhead
        · cases hhead
      exact inv.later hd (ih.suite indent d)
    · exact inv.broken c

end Steps

/-- Every reader keeps the relation, by induction on the depth: what a reader does at one depth
follows from all readers at the depth below. -/
theorem keepsUpTo (fuel : Nat) : KeepsUpTo sp R fuel := by
  induction fuel with
  | zero =>
    exact
      { block := fun _ c => inv.skip (.refl c)
        statement := fun _ c => inv.broken c
        definition := fun _ _ c => inv.broken c
        suite := fun _ c => inv.skip (.refl c)
        clause := fun _ c => inv.broken c
        caseBlock := fun _ c => inv.skip (.refl c) }
  | succ fuel ih =>
    exact ⟨inv.block_succ ih, inv.statement_succ ih, inv.definition_succ ih, inv.suite_succ ih,
      inv.clause_succ ih, inv.caseBlock_succ ih⟩

end ReadingInvariant

/-- The relation holds of all statements of a text. -/
theorem ReadingInvariant.readStatements {ts : List Token}
    {R : Cursor → List Statement → Cursor → Prop}
    (inv : ReadingInvariant (.ofTokens ts.toArray) R) :
    (readStatements ts).Keeps R ⟨0, ts.map Token.symbol⟩ :=
  (inv.keepsUpTo _).block 0 _

end SpanWeave.Source
