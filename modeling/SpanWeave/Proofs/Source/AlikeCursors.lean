import SpanWeave.Proofs.Source.RelaidTokens
import SpanWeave.Source.Statement

/-!
# Reading at cursors that look alike

At two cursors that only differ in the line continuations among what follows, every reader goes the
same way: it fails at both, or it stops at cursors that again look alike. What is read is written
differently, but it has the same form; only a parameter list may have further nodes, and these are
line continuations (`NodesAlike`).
-/

set_option autoImplicit false

namespace SpanWeave.Source

open Grammar (run runUpTo rule)

/-- Cursors at the same place among symbols that are alike. -/
structure Cursor.Alike (c d : Cursor) : Prop where
  index : d.index = c.index
  rest : List.Forall₂ Symbol.Alike c.rest d.rest

/-- Things read that are related, with the cursors behind them alike. -/
structure ReadAlike {α β : Type} (R : α → β → Prop) (x : α × Cursor) (y : β × Cursor) : Prop where
  read : R x.1 y.1
  behind : x.2.Alike y.2

section

variable {α β γ δ : Type} {R : α → β → Prop} {S : γ → δ → Prop}

/-- Two readers go the same way: both fail, or what they read is related. -/
theorem rel_iff {x : Option α} {y : Option β} :
    Option.Rel R x y ↔ x = none ∧ y = none ∨ ∃ a b, x = some a ∧ y = some b ∧ R a b := by
  constructor
  · rintro (hab | _)
    · exact Or.inr ⟨_, _, rfl, rfl, hab⟩
    · exact Or.inl ⟨rfl, rfl⟩
  · rintro (⟨rfl, rfl⟩ | ⟨a, b, rfl, rfl, hab⟩)
    · exact .none
    · exact .some hab

/-- Steps of two readers that go the same way. -/
theorem rel_bind {x : Option α} {y : Option β} (h : Option.Rel R x y) {f : α → Option γ}
    {g : β → Option δ} (hfg : ∀ a b, R a b → Option.Rel S (f a) (g b)) :
    Option.Rel S (x >>= f) (y >>= g) := by
  cases h with
  | some hab => exact hfg _ _ hab
  | none => exact .none

theorem rel_findSome? {ι : Type} {f : ι → Option α} {g : ι → Option β} {choices : List ι}
    (h : ∀ i, Option.Rel R (f i) (g i)) :
    Option.Rel R (choices.findSome? f) (choices.findSome? g) := by
  induction choices with
  | nil => exact .none
  | cons i choices ih =>
    rw [List.findSome?_cons, List.findSome?_cons]
    obtain ⟨hf, hg⟩ | ⟨a, b, hf, hg, hab⟩ := rel_iff.mp (h i)
    · rw [hf, hg]
      exact ih
    · rw [hf, hg]
      exact .some hab

end

namespace Cursor.Alike

variable {c d : Cursor} (h : c.Alike d)

include h

theorem head? : Option.Rel Symbol.Alike c.head? d.head? := by
  obtain ⟨i, rest⟩ := c
  obtain ⟨j, rest'⟩ := d
  obtain ⟨-, hrest⟩ := h
  cases hrest with
  | nil => exact .none
  | cons hs _ => exact .some hs

theorem next : c.next.Alike d.next := by
  obtain ⟨i, rest⟩ := c
  obtain ⟨j, rest'⟩ := d
  obtain ⟨hindex, hrest⟩ := h
  refine ⟨congrArg (· + 1) hindex, ?_⟩
  cases hrest with
  | nil => exact .nil
  | cons _ hrest => exact hrest

theorem length : d.rest.length = c.rest.length := h.rest.length_eq.symm

theorem atLineEnd : d.atLineEnd = c.atLineEnd := by
  unfold Cursor.atLineEnd
  obtain ⟨hc, hd⟩ | ⟨s, u, hc, hd, hs⟩ := rel_iff.mp h.head?
  · rw [hc, hd]
  · rw [hc, hd]
    exact congrArg Option.isSome hs.opens

theorem isLexeme (l : Lexeme) :
    (d.head?.any fun s => s.lexeme == l) = c.head?.any fun s => s.lexeme == l := by
  obtain ⟨hc, hd⟩ | ⟨s, u, hc, hd, hs⟩ := rel_iff.mp h.head?
  · rw [hc, hd]
  · rw [hc, hd]
    exact congrArg (· == l) hs.lexeme

theorem atWord (s : String) : d.atWord s = c.atWord s := h.isLexeme (.name s)

theorem atMark (s : String) : d.atMark s = c.atMark s := h.isLexeme (.mark s)

theorem leaves (indent : Nat) : d.leaves indent = c.leaves indent := by
  unfold Cursor.leaves
  obtain ⟨hc, hd⟩ | ⟨s, u, hc, hd, hs⟩ := rel_iff.mp h.head?
  · rw [hc, hd]
  · rw [hc, hd]
    exact congrArg (fun opens => opens.any (· < indent)) hs.opens

theorem label? : d.label? = c.label? := by
  unfold Cursor.label?
  obtain ⟨hc, hd⟩ | ⟨⟨_, _, _⟩, ⟨lexeme, _, _⟩, hc, hd, hs⟩ := rel_iff.mp h.head?
  · rw [hc, hd]
  · rw [hc, hd]
    obtain rfl : lexeme = _ := hs.lexeme
    cases lexeme <;> rfl

theorem atParameterEnd : d.atParameterEnd = c.atParameterEnd := by
  unfold Cursor.atParameterEnd
  rw [h.atMark, h.atMark]

theorem atStatementEnd : d.atStatementEnd = c.atStatementEnd := by
  unfold Cursor.atStatementEnd
  rw [h.atLineEnd, h.atMark]

theorem drop (n : Nat) :
    Cursor.Alike ⟨c.index + n, c.rest.drop n⟩ ⟨d.index + n, d.rest.drop n⟩ :=
  ⟨congrArg (· + n) h.index, List.forall₂_drop n h.rest⟩

theorem nextLine : c.nextLine.Alike d.nextLine := by
  have htaken : (d.next.rest.takeWhile fun s => s.opens.isNone).length =
      (c.next.rest.takeWhile fun s => s.opens.isNone).length := by
    have hrest := h.next.rest
    generalize c.next.rest = symbols, d.next.rest = others at hrest
    induction hrest with
    | nil => rfl
    | cons hs _ ih =>
      rw [List.takeWhile_cons, List.takeWhile_cons, hs.opens]
      split
      · rw [List.length_cons, List.length_cons, ih]
      · rfl
  have hdrop := h.next.drop (c.next.rest.takeWhile fun s => s.opens.isNone).length
  unfold Cursor.nextLine
  dsimp only
  rw [htaken]
  exact hdrop

end Cursor.Alike

/-! ## The grammar -/

variable {c d : Cursor}

/-- A grammar goes the same way from cursors that look alike. -/
theorem runUpTo_alike (fuel : Nat) (g : Grammar) (h : c.Alike d) :
    Option.Rel Cursor.Alike (runUpTo fuel g c) (runUpTo fuel g d) := by
  induction fuel generalizing g c d with
  | zero => exact .none
  | succ fuel ih =>
    have hstep : ∀ {b : Bool}, Option.Rel Cursor.Alike (if b = true then some c.next else none)
        (if b = true then some d.next else none) := by
      intro b
      split
      · exact .some h.next
      · exact .none
    cases g with
    | nothing => exact .some h
    | goesOn =>
      rw [runUpTo, runUpTo, h.atLineEnd]
      split
      · exact .none
      · exact .some h
    | word s =>
      rw [runUpTo, runUpTo, h.atWord]
      exact hstep
    | mark s =>
      rw [runUpTo, runUpTo, h.atMark]
      exact hstep
    | name =>
      rw [runUpTo, runUpTo, h.label?]
      exact hstep
    | nameBut s =>
      rw [runUpTo, runUpTo, h.label?]
      exact hstep
    | label =>
      rw [runUpTo, runUpTo, h.label?]
      exact hstep
    | number =>
      rw [runUpTo, runUpTo, h.isLexeme]
      exact hstep
    | text =>
      rw [runUpTo, runUpTo, h.isLexeme]
      exact hstep
    | both first second =>
      rw [runUpTo, runUpTo]
      exact rel_bind (ih first h) fun _ _ hmiddle => ih second hmiddle
    | either first second =>
      rw [runUpTo, runUpTo]
      obtain ⟨hc, hd⟩ | ⟨_, _, hc, hd, hfound⟩ := rel_iff.mp (ih first h)
      · rw [hc, hd]
        exact ih second h
      · rw [hc, hd]
        exact .some hfound
    | optional g =>
      rw [runUpTo, runUpTo, h.atLineEnd]
      split
      · exact .some h
      · obtain ⟨hc, hd⟩ | ⟨_, _, hc, hd, hfound⟩ := rel_iff.mp (ih g h)
        · rw [hc, hd]
          exact .some h
        · rw [hc, hd]
          exact .some hfound
    | many g =>
      rw [runUpTo, runUpTo, h.atLineEnd]
      split
      · exact .some h
      · obtain ⟨hc, hd⟩ | ⟨_, _, hc, hd, hfound⟩ := rel_iff.mp (ih g h)
        · rw [hc, hd]
          exact .some h
        · rw [hc, hd]
          dsimp only
          rw [hfound.index, h.index]
          split
          · exact .some hfound
          · exact ih (.many g) hfound
    | rule r =>
      rw [runUpTo, runUpTo]
      exact ih (.ofRule r) h

theorem run_alike (g : Grammar) (h : c.Alike d) :
    Option.Rel Cursor.Alike (run g c) (run g d) := by
  unfold run Grammar.depthBound
  rw [h.length]
  exact runUpTo_alike _ g h

/-! ## Parameter lists -/

/-- Parameters of the same form and name; their types and values may be written differently. -/
inductive ParameterNode.Alike : ParameterNode → ParameterNode → Prop
  | plain (name : String) : Alike (.plain name) (.plain name)
  | typed (name? : Option String) (type type' : String) :
    Alike (.typed name? type) (.typed name? type')
  | default (name? type? type?' : Option String) (written written' : String) :
    Alike (.default name? type? written) (.default name? type?' written')
  | variadic : Alike .variadic .variadic
  | keywordMarker : Alike .keywordMarker .keywordMarker
  | positionalMarker : Alike .positionalMarker .positionalMarker
  | other (written written' : String) : Alike (.other written) (.other written')

/-- Nodes that are alike one by one, where the second list may have line continuations in addition.
-/
inductive NodesAlike : List ParameterNode → List ParameterNode → Prop
  | nil : NodesAlike [] []
  | cons {n m : ParameterNode} {ns ms : List ParameterNode} (node : n.Alike m)
    (others : NodesAlike ns ms) : NodesAlike (n :: ns) (m :: ms)
  | join {w : String} {ns ms : List ParameterNode} (written : IsJoin w)
    (others : NodesAlike ns ms) : NodesAlike ns (.other w :: ms)

theorem NodesAlike.append {ns ms ns' ms' : List ParameterNode} (h : NodesAlike ns ms)
    (h' : NodesAlike ns' ms') : NodesAlike (ns ++ ns') (ms ++ ms') := by
  induction h with
  | nil => exact h'
  | cons node _ ih => exact .cons node ih
  | join written _ ih => exact .join written ih

/-- The line continuations before a cursor are all among those before a cursor that looks alike. -/
theorem joinNodes_alike (h : c.Alike d) : NodesAlike c.joinNodes d.joinNodes := by
  have hsublist : ∀ {joins others : List String}, joins.Sublist others →
      (∀ w ∈ others, IsJoin w) → NodesAlike (joins.map .other) (others.map .other) := by
    intro joins others hjoins
    induction hjoins with
    | slnil => exact fun _ => .nil
    | cons w _ ih =>
      intro hall
      exact .join (hall w List.mem_cons_self) (ih fun v hv => hall v (List.mem_cons_of_mem _ hv))
    | cons_cons w _ ih =>
      intro hall
      exact .cons (.other w w) (ih fun v hv => hall v (List.mem_cons_of_mem _ hv))
  unfold Cursor.joinNodes
  obtain ⟨hc, hd⟩ | ⟨s, u, hc, hd, hs⟩ := rel_iff.mp h.head?
  · rw [hc, hd]
    exact .nil
  · rw [hc, hd]
    exact hsublist hs.joins hs.written

variable (sp sp' : Spelling)

/-- Types that both stand there or both do not. -/
def TypesAlike (type? type?' : Option String) : Prop := Option.Rel (fun _ _ => True) type? type?'

theorem typeAfterColon_alike (h : c.Alike d) :
    Option.Rel (ReadAlike TypesAlike) (typeAfterColon sp c) (typeAfterColon sp' d) := by
  unfold typeAfterColon
  rw [h.atMark]
  split
  · obtain ⟨hc, hd⟩ | ⟨e, e', hc, hd, he⟩ := rel_iff.mp (run_alike (rule .typeExpr) h.next)
    · rw [hc, hd]
      exact .none
    · rw [hc, hd]
      exact .some ⟨.some trivial, he⟩
  · exact .some ⟨.none, h⟩

theorem parameterNode_alike (h : c.Alike d) :
    Option.Rel (ReadAlike ParameterNode.Alike) (parameterNode sp c) (parameterNode sp' d) := by
  unfold parameterNode
  simp only [h.atMark, h.next.atParameterEnd]
  split
  · exact .some ⟨.positionalMarker, h.next⟩
  split
  · exact .some ⟨.keywordMarker, h.next⟩
  split
  · -- a star with a name, perhaps with a type
    refine rel_bind (run_alike (rule .primary) h.next) fun e e' he => ?_
    refine rel_bind (typeAfterColon_alike sp sp' he) fun ⟨type?, f⟩ ⟨type?', f'⟩ ⟨htypes, hf⟩ => ?_
    cases htypes with
    | none => exact .some ⟨.variadic, hf⟩
    | some _ => exact .some ⟨.typed none _ _, hf⟩
  split
  · -- a pattern in parentheses, perhaps with a default value
    refine rel_bind (run_alike (rule .atom) h) fun e e' he => ?_
    rw [he.atMark]
    split
    · refine rel_bind (run_alike (rule .expression) he.next) fun f f' hf => ?_
      exact .some ⟨.default none none none _ _, hf⟩
    · exact .some ⟨.other _ _, he⟩
  · -- a name, perhaps with a type and a default value
    rw [h.label?]
    cases c.label? with
    | none => exact .none
    | some name =>
      refine rel_bind (typeAfterColon_alike sp sp' h.next)
        fun ⟨type?, e⟩ ⟨type?', e'⟩ ⟨htypes, he⟩ => ?_
      change e.Alike e' at he
      dsimp only
      rw [he.atMark]
      split
      · refine rel_bind (run_alike (rule .expression) he.next) fun f f' hf => ?_
        exact .some ⟨.default (some name) type? type?' _ _, hf⟩
      · cases htypes with
        | none => exact .some ⟨.plain name, he⟩
        | some _ => exact .some ⟨.typed (some name) _ _, he⟩

theorem parameterNodes_alike (rounds : Nat) (h : c.Alike d) :
    Option.Rel (ReadAlike NodesAlike) (parameterNodes sp rounds c)
      (parameterNodes sp' rounds d) := by
  induction rounds generalizing c d with
  | zero => exact .none
  | succ rounds ih =>
    unfold parameterNodes
    rw [h.atMark]
    split
    · exact .some ⟨joinNodes_alike h, h⟩
    · refine rel_bind (parameterNode_alike sp sp' h) fun ⟨node, e⟩ ⟨node', e'⟩ he => ?_
      have hread : NodesAlike (c.joinNodes ++ node :: e.joinNodes)
          (d.joinNodes ++ node' :: e'.joinNodes) :=
        (joinNodes_alike h).append (.cons he.read (joinNodes_alike he.behind))
      dsimp only
      rw [he.behind.atMark, he.behind.atMark]
      split
      · exact .some ⟨hread, he.behind⟩
      · split
        · refine rel_bind (ih he.behind.next) fun ⟨more, f⟩ ⟨more', f'⟩ hf => ?_
          exact .some ⟨hread.append hf.read, hf.behind⟩
        · exact .none

theorem closing_alike {symbols others : List Symbol}
    (h : List.Forall₂ Symbol.Alike symbols others) (depth index : Nat) :
    Option.Rel Cursor.Alike (closing? depth index symbols) (closing? depth index others) := by
  induction h generalizing depth index with
  | nil => exact .none
  | cons hs hrest ih =>
    unfold closing?
    dsimp only
    rw [hs.lexeme]
    split
    · exact .some ⟨rfl, .cons hs hrest⟩
    · exact ih _ _

/-- Parameter lists that both are allowed by the grammar or both are not. -/
def ParametersNode.Alike (p q : ParametersNode) : Prop := Option.Rel NodesAlike p.nodes q.nodes

theorem parametersNode_alike (h : c.Alike d) :
    Option.Rel (ReadAlike ParametersNode.Alike) (parametersNode sp c) (parametersNode sp' d) := by
  unfold parametersNode
  rw [h.atMark, h.length]
  split
  · obtain ⟨hc, hd⟩ | ⟨⟨nodes, e⟩, ⟨nodes', e'⟩, hc, hd, he⟩ :=
      rel_iff.mp (parameterNodes_alike sp sp' c.rest.length h.next)
    · rw [hc, hd]
      dsimp only
      rw [h.index]
      obtain ⟨hc, hd⟩ | ⟨f, f', hc, hd, hf⟩ :=
        rel_iff.mp (closing_alike h.next.rest 1 (c.index + 1))
      · change closing? 1 (c.index + 1) c.rest.tail = none at hc
        change closing? 1 (c.index + 1) d.rest.tail = none at hd
        rw [hc, hd]
        exact .none
      · change closing? 1 (c.index + 1) c.rest.tail = some f at hc
        change closing? 1 (c.index + 1) d.rest.tail = some f' at hd
        rw [hc, hd]
        exact .some ⟨.none, hf.next⟩
    · rw [hc, hd]
      exact .some ⟨.some he.read, he.behind.next⟩
  · exact .none

end SpanWeave.Source
