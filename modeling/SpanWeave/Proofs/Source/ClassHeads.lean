import SpanWeave.Proofs.Source.ReadingInvariant
import SpanWeave.Proofs.Source.ReadingOrder

/-!
# Where the classes of a module stand

The statements of a block are read one behind the other, so the class heads among them stand at
strictly increasing indices. With tokens that start one strictly after the other, the classes of a
module have different locations. Their names are identifiers, since they are names of tokens.
-/

set_option autoImplicit false

namespace SpanWeave

namespace Source

open Grammar (run rule)

/-- A class head that is read at a cursor. -/
structure ClassNode.StandsAt (sp : Spelling) (c : Cursor) (head : ClassNode) : Prop where
  start : head.start = sp.start c.index
  occupied : c.rest ≠ []
  named : ∃ symbol ∈ c.rest, symbol.lexeme = .name head.name

/-- Class heads that are read between two cursors, one behind the other. -/
inductive ClassesBetween (sp : Spelling) : Cursor → List ClassNode → Cursor → Prop
  | none {c d : Cursor} (reaches : c.Reaches d) : ClassesBetween sp c [] d
  | one {c site behind d : Cursor} {head : ClassNode} {heads : List ClassNode}
    (before : c.Reaches site) (stands : head.StandsAt sp site) (body : site.next.Reaches behind)
    (after : ClassesBetween sp behind heads d) : ClassesBetween sp c (head :: heads) d

/-- The class definitions among statements, as heads and bodies. -/
def classDefs (statements : List Statement) : List (ClassNode × List Statement) :=
  statements.filterMap fun
    | .classDef head body => some (head, body)
    | _ => none

/-- The class heads among statements. -/
def classHeads (statements : List Statement) : List ClassNode :=
  (classDefs statements).map Prod.fst

theorem classHeads_append (statements more : List Statement) :
    classHeads (statements ++ more) = classHeads statements ++ classHeads more := by
  unfold classHeads classDefs
  rw [List.filterMap_append, List.map_append]

namespace ClassesBetween

variable {sp : Spelling} {c d e : Cursor} {heads more : List ClassNode}

/-- The classes may be looked for from an earlier cursor on. -/
theorem of_reaches (hcd : c.Reaches d) (h : ClassesBetween sp d heads e) :
    ClassesBetween sp c heads e := by
  cases h with
  | none hde => exact .none (hcd.trans hde)
  | one before stands body after => exact .one (hcd.trans before) stands body after

/-- The classes of two stretches one behind the other are those of the whole stretch. -/
theorem append (h : ClassesBetween sp c heads d) (hmore : ClassesBetween sp d more e) :
    ClassesBetween sp c (heads ++ more) e := by
  induction h with
  | none hcd => exact hmore.of_reaches hcd
  | one before stands body _ ih => exact .one before stands body (ih hmore)

/-- The first cursor reaches the last one. -/
theorem reaches (h : ClassesBetween sp c heads d) : c.Reaches d := by
  induction h with
  | none hcd => exact hcd
  | one before _ body _ ih =>
    exact ((before.trans (.next _)).trans body).trans ih

/-- The names of the classes stand behind the first cursor. -/
theorem named (h : ClassesBetween sp c heads d) :
    ∀ head ∈ heads, ∃ symbol ∈ c.rest, symbol.lexeme = .name head.name := by
  induction h with
  | none hcd =>
    intro head hhead
    cases hhead
  | one before stands body after ih =>
    intro head hhead
    rcases List.mem_cons.mp hhead with rfl | hhead
    · obtain ⟨symbol, hsymbol, hname⟩ := stands.named
      exact ⟨symbol, before.mem_rest hsymbol, hname⟩
    · obtain ⟨symbol, hsymbol, hname⟩ := ih head hhead
      exact ⟨symbol, ((before.trans (.next _)).trans body).mem_rest hsymbol, hname⟩

/-- The classes begin one behind the other. -/
theorem starts (h : ClassesBetween sp c heads d) :
    StartsBetween sp c (heads.map ClassNode.start) d := by
  induction h with
  | none hcd => exact .none hcd
  | one before stands body _ ih =>
    rw [List.map_cons, stands.start]
    exact .one before stands.occupied body ih

end ClassesBetween

variable {sp : Spelling}

/-! ## Reading statements -/

/-- A class head is read at its cursor, and its body begins further on. -/
theorem classHead_standsAt {decorators : List String} {c d : Cursor} {head : ClassNode}
    (h : classHead sp decorators c = some (head, d)) :
    head.StandsAt sp c ∧ c.next.Reaches d := by
  unfold classHead at h
  split at h
  · cases h
  · rename_i hclass
    have hword : c.atWord "class" = true := by simpa using hclass
    have hoccupied := Cursor.rest_ne_nil_of_atWord hword
    obtain ⟨name, hname, h⟩ := Option.bind_eq_some_iff.mp h
    obtain ⟨e, htypes, h⟩ := Option.bind_eq_some_iff.mp h
    have hreach : c.next.Reaches e :=
      (Cursor.Reaches.next c.next).trans (skipTypeParameters_reaches htypes)
    obtain ⟨symbol, hsymbol, hlexeme⟩ := Cursor.mem_of_label hname
    have hnamed := (Cursor.Reaches.next c).mem_rest hsymbol
    -- with arguments in parentheses, or without any
    dsimp only at h
    split at h
    · obtain ⟨⟨bases, f⟩, hbases, h⟩ := Option.bind_eq_some_iff.mp h
      replace h := Option.bind_eq_some_iff.mp h
      obtain ⟨⟨bases', f'⟩, hsame, h⟩ := h
      cases hsame
      dsimp only at h
      split at h
      · cases h
      · cases h
        have hbehind := (hreach.trans_next.trans (baseNodes_reaches hbases)).trans_next
        exact ⟨⟨rfl, hoccupied, symbol, hnamed, hlexeme⟩, hbehind.trans_next⟩
    · obtain ⟨⟨bases, f⟩, hsame, h⟩ := Option.bind_eq_some_iff.mp h
      cases hsame
      dsimp only at h
      split at h
      · cases h
      · cases h
        exact ⟨⟨rfl, hoccupied, symbol, hnamed, hlexeme⟩, hreach.trans_next⟩

/-- A simple statement declares no class. -/
theorem classHeads_simpleStatement {c d : Cursor} {s : Statement}
    (h : simpleStatement sp c = some (s, d)) : classHeads [s] = [] := by
  rcases simpleStatement_cases h with rfl | ⟨written, rfl⟩ <;> rfl

/-- The class heads among statements stand between the cursors of their reading. -/
theorem classHeads_invariant (sp : Spelling) :
    ReadingInvariant sp fun c statements d => ClassesBetween sp c (classHeads statements) d where
  skip := .none
  later := ClassesBetween.of_reaches
  append h hmore := by
    rw [classHeads_append]
    exact h.append hmore
  other h := .none h.reaches
  simple h := by
    rw [classHeads_simpleStatement h]
    exact .none (simpleStatement_reaches h)
  function hhead hbody := .none ((functionHead_reaches hhead).trans hbody.reaches)
  classDef hhead hbody := by
    obtain ⟨hstands, hreach⟩ := classHead_standsAt hhead
    exact .one (.refl _) hstands (hreach.trans hbody.reaches) (.none (.refl _))

/-- The classes of a text start one strictly after the other, and their names are identifiers. -/
theorem classHeads_tokens (gs : List Text.Glyph) :
    (∀ head ∈ classHeads (readStatements (tokens gs)).statements,
        Text.isIdentifier head.name = true) ∧
      (classHeads (readStatements (tokens gs)).statements).Pairwise
        fun a b => a.start.Before b.start := by
  have hbetween : ClassesBetween (.ofTokens (tokens gs).toArray) ⟨0, (tokens gs).map Token.symbol⟩
      (classHeads (readStatements (tokens gs)).statements) (readStatements (tokens gs)).rest :=
    (classHeads_invariant _).readStatements
  constructor
  · intro head hhead
    obtain ⟨symbol, hsymbol, hname⟩ := hbetween.named head hhead
    exact isIdentifier_of_mem_tokens hsymbol hname
  · exact List.pairwise_map.mp (hbetween.starts.ordered (tokens_ordered gs) (.refl _)).2

end Source

/-- The classes of a module are those that its statements define. -/
theorem ModuleReading.classes_ofStatements (path : String) (statements : List Source.Statement)
    (sound : Bool) :
    (ofStatements path statements sound).classes =
      (Source.classDefs statements).map fun d => ClassDeclaration.ofNode path d.1 d.2 := by
  unfold ofStatements Source.classDefs
  rw [List.map_filterMap]
  apply congrArg (fun f => List.filterMap f statements)
  funext statement
  cases statement <;> rfl

/-- The classes of a module have different locations, and their names are identifiers. -/
theorem ModuleReading.classes_ofBytes (path : String) (content : List UInt8) :
    ((ofBytes path content).classes.map ClassDeclaration.origin).Nodup ∧
      ∀ declaration ∈ (ofBytes path content).classes,
        declaration.origin.path = path ∧ Text.isIdentifier declaration.name = true := by
  obtain ⟨hnames, hordered⟩ := Source.classHeads_tokens (Text.glyphs content)
  unfold Source.classHeads at hnames hordered
  unfold ofBytes
  dsimp only
  rw [classes_ofStatements]
  constructor
  · rw [List.map_map, List.Nodup, List.pairwise_map]
    apply (List.pairwise_map.mp hordered).imp
    intro a b hbefore hsame
    simp only [Function.comp_apply, ClassDeclaration.ofNode, Location.mk.injEq, true_and] at hsame
    apply hbefore.ne
    cases ha : a.1.start
    cases hb : b.1.start
    simp_all
  · intro declaration hmem
    obtain ⟨d, hd, rfl⟩ := List.mem_map.mp hmem
    exact ⟨rfl, hnames d.1 (List.mem_map.mpr ⟨d, hd, rfl⟩)⟩

end SpanWeave
