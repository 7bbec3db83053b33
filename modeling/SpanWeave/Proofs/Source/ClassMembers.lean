import SpanWeave.Proofs.Index.LocationOrder
import SpanWeave.Proofs.Source.ClassHeads
import SpanWeave.Proofs.Source.ReadingOrder
import SpanWeave.Proofs.Text.Parts

/-!
# The functions of a class body and its members

The functions in the body of a class start one strictly after the other, so each is known by its
place. The members of the class stand at the places of the functions that no decorator makes an
accessor by its ending, once each and in the same order. Whose property the decorator names makes no
difference: a function under `hooks.getter` is left out although the class has no property `hooks`.
-/

set_option autoImplicit false

namespace SpanWeave

namespace Source

variable {sp : Spelling}

/-! ## Places of functions -/

/-- The head of a function is at least one symbol. -/
theorem functionHead_site {decorators : List String} {c d : Cursor} {head : FunctionNode}
    (h : functionHead sp decorators c = some (head, d)) : c.rest ≠ [] ∧ c.next.Reaches d := by
  obtain ⟨-, start, e, f, hstart, hname, htypes, hparameters, hbehind⟩ := functionHead_cases h
  have hnext : c.next.Reaches start.next := by
    obtain ⟨n, hindex, hrest⟩ := hstart
    refine ⟨n, by simp [Cursor.next, hindex]; omega, ?_⟩
    simp [Cursor.next, hrest, List.tail_drop]
  constructor
  · obtain ⟨symbol, hsymbol, -⟩ := Cursor.mem_of_label hname
    exact List.ne_nil_of_mem (hstart.trans_next.mem_rest hsymbol)
  · have he : start.next.Reaches e :=
      (Cursor.Reaches.next start.next).trans (skipTypeParameters_reaches htypes)
    exact (hnext.trans he).trans ((parametersNode_reaches hparameters).trans hbehind)

/-- Where functions start. -/
def startsOf (statements : List Statement) : List Position :=
  (functionsOf statements).map FunctionNode.start

theorem startsOf_append (statements more : List Statement) :
    startsOf (statements ++ more) = startsOf statements ++ startsOf more := by
  unfold startsOf functionsOf
  rw [List.filterMap_append, List.map_append]

theorem classDefs_append (statements more : List Statement) :
    classDefs (statements ++ more) = classDefs statements ++ classDefs more :=
  List.filterMap_append

/-- Statements read between two cursors, whose functions are read one behind the other, and so are
those in the bodies of the classes among them. -/
structure FunctionsInOrder (sp : Spelling) (c : Cursor) (statements : List Statement) (d : Cursor) :
    Prop where
  here : StartsBetween sp c (startsOf statements) d
  bodies : ∀ p ∈ classDefs statements,
    ∃ site stop, c.Reaches site ∧ StartsBetween sp site (startsOf p.2) stop

/-- The functions of a block are read one behind the other. -/
theorem functionsInOrder_invariant (sp : Spelling) :
    ReadingInvariant sp (FunctionsInOrder sp) where
  skip h := ⟨.none h, fun p hp => absurd hp List.not_mem_nil⟩
  later hcd h := by
    refine ⟨h.here.of_reaches hcd, fun p hp => ?_⟩
    obtain ⟨site, stop, hsite, hstarts⟩ := h.bodies p hp
    exact ⟨site, stop, hcd.trans hsite, hstarts⟩
  append h hmore := by
    constructor
    · rw [startsOf_append]
      exact h.here.append hmore.here
    · intro p hp
      rw [classDefs_append] at hp
      rcases List.mem_append.mp hp with hp | hp
      · exact h.bodies p hp
      · obtain ⟨site, stop, hsite, hstarts⟩ := hmore.bodies p hp
        exact ⟨site, stop, h.here.reaches.trans hsite, hstarts⟩
  other h := ⟨.none h.here.reaches, fun p hp => absurd hp List.not_mem_nil⟩
  simple h := by
    have hreach := simpleStatement_reaches h
    rcases simpleStatement_cases h with rfl | ⟨written, rfl⟩
    · exact ⟨.none hreach, fun p hp => absurd hp List.not_mem_nil⟩
    · exact ⟨.none hreach, fun p hp => absurd hp List.not_mem_nil⟩
  function {_ c d e head body} hhead hbody := by
    obtain ⟨hoccupied, hreach⟩ := functionHead_site hhead
    refine ⟨?_, fun p hp => absurd hp List.not_mem_nil⟩
    show StartsBetween sp c [head.start] e
    rw [(functionHead_cases hhead).1]
    exact .one (.refl c) hoccupied (hreach.trans hbody.here.reaches) (.none (.refl e))
  classDef {_ c d e head body} hhead hbody := by
    have hreach : c.Reaches d := (Cursor.Reaches.next c).trans (classHead_standsAt hhead).2
    refine ⟨.none (hreach.trans hbody.here.reaches), fun p hp => ?_⟩
    obtain rfl : p = (head, body) := List.mem_singleton.mp hp
    exact ⟨d, e, hreach, hbody.here⟩

/-- The functions in the body of a class start one strictly after the other. -/
theorem startsOf_ordered {gs : List Text.Glyph} {p : ClassNode × List Statement}
    (hp : p ∈ classDefs (readStatements (tokens gs)).statements) :
    (startsOf p.2).Pairwise Position.Before := by
  have hall : (readStatements (tokens gs)).Keeps (FunctionsInOrder (.ofTokens (tokens gs).toArray))
      ⟨0, (tokens gs).map Token.symbol⟩ := (functionsInOrder_invariant _).readStatements
  obtain ⟨site, stop, hsite, hstarts⟩ := hall.bodies p hp
  exact (hstarts.ordered (tokens_ordered gs) hsite).2

/-! ## Accessors -/

namespace FunctionNode

/-- Where a function of a module starts. -/
def place (path : String) (f : FunctionNode) : Location := ⟨path, f.start.line, f.start.column⟩

/-- A decorator that names an accessor of something: `p.setter`, `p.deleter` or `p.getter`. -/
def NamesAccessorOf (f : FunctionNode) (p : String) : Prop :=
  ∃ ending ∈ accessorEndings, p ++ ending ∈ f.decorators

/-- A function that defines a property. -/
def DefinesProperty (f : FunctionNode) (p : String) : Prop :=
  f.name = p ∧ f.hasDecorator propertyDecorators = true

/-- An accessor of a property that one of the functions defines. -/
def IsAccessorAmong (f : FunctionNode) (functions : List FunctionNode) : Prop :=
  ∃ p, f.NamesAccessorOf p ∧ ∃ g ∈ functions, g.DefinesProperty p

/-- The reading of members takes a function for an accessor by the ending of a decorator. -/
theorem accessor?_eq_none_iff {f : FunctionNode} :
    accessor? f = none ↔ ∀ p, ¬ f.NamesAccessorOf p := by
  unfold accessor? NamesAccessorOf
  rw [List.find?_eq_none]
  constructor
  · rintro h p ⟨ending, hending, hmem⟩
    exact h _ hmem (List.any_eq_true.mpr ⟨ending, hending, Text.endsWith_iff.mpr ⟨p, rfl⟩⟩)
  · intro h d hd hany
    obtain ⟨ending, hending, hends⟩ := List.any_eq_true.mp hany
    obtain ⟨p, rfl⟩ := Text.endsWith_iff.mp hends
    exact h p ⟨ending, hending, hd⟩

end FunctionNode

end Source

open Source

/-! ## Members -/

/-- A member that is read from a function: it has the name of the function, stands at its place, and
is a property if a decorator of the function says so. -/
structure Member.IsReadFrom (m : Member) (path : String) (f : FunctionNode) : Prop where
  name : m.name = f.name
  origin : m.origin = f.place path
  kind : m.kind = .property ↔ f.DefinesProperty m.name

theorem Member.isReadFrom_ofFunction (path : String) (setters : List String) (f : FunctionNode) :
    (ofFunction path setters f).IsReadFrom path f := by
  refine ⟨rfl, rfl, ?_⟩
  unfold ofFunction FunctionNode.DefinesProperty
  cases f.hasDecorator propertyDecorators <;> simp

/-- Functions that start one strictly after the other have places in the order of locations. -/
theorem pairwise_place {path : String} {functions : List FunctionNode}
    (h : (functions.map FunctionNode.start).Pairwise Position.Before) :
    functions.Pairwise fun f g =>
      (f.place path).upTo (g.place path) = true ∧ f.place path ≠ g.place path := by
  apply (List.pairwise_map.mp h).imp
  intro f g hbefore
  unfold Position.Before at hbefore
  constructor
  · rw [Location.upTo_iff]
    exact Or.inr ⟨rfl, by simp only [FunctionNode.place]; omega⟩
  · intro hsame
    simp only [FunctionNode.place, Location.mk.injEq, true_and] at hsame
    omega

section

variable {path : String} {functions : List FunctionNode}

/-- Every member of a class is read from a function. -/
theorem exists_function_of_mem_membersOf {m : Member} (hm : m ∈ membersOf path functions) :
    ∃ f ∈ functions, (∀ p, ¬ f.NamesAccessorOf p) ∧ m.IsReadFrom path f := by
  obtain ⟨f, hf, rfl⟩ := List.mem_map.mp hm
  obtain ⟨hmem, hkept⟩ := List.mem_filter.mp hf
  refine ⟨f, hmem, ?_, Member.isReadFrom_ofFunction _ _ _⟩
  exact FunctionNode.accessor?_eq_none_iff.mp (Option.isNone_iff_eq_none.mp hkept)

/-- A function has a member exactly if no decorator names an accessor. -/
theorem exists_member_iff (h : (functions.map (FunctionNode.place path)).Nodup)
    {f : FunctionNode} (hf : f ∈ functions) :
    (∃ m ∈ membersOf path functions, m.IsReadFrom path f) ↔ ∀ p, ¬ f.NamesAccessorOf p := by
  constructor
  · rintro ⟨m, hm, hread⟩
    obtain ⟨g, hg, hkept, hread'⟩ := exists_function_of_mem_membersOf hm
    rwa [List.inj_on_of_nodup_map h hf hg (hread.origin.symm.trans hread'.origin)]
  · intro hkept
    refine ⟨_, List.mem_map_of_mem (List.mem_filter.mpr ⟨hf, ?_⟩),
      Member.isReadFrom_ofFunction _ _ _⟩
    exact Option.isNone_iff_eq_none.mpr (FunctionNode.accessor?_eq_none_iff.mpr hkept)

/-- The members of a class stand in the order of its functions, each at a place of its own. -/
theorem pairwise_membersOf (h : functions.Pairwise fun f g =>
    (f.place path).upTo (g.place path) = true ∧ f.place path ≠ g.place path) :
    (membersOf path functions).Pairwise fun m n =>
      m.origin.upTo n.origin = true ∧ m.origin ≠ n.origin := by
  unfold membersOf
  rw [List.pairwise_map]
  exact h.filter _

end

/-- The members of a class of a module stand in source order, each at a place of its own, and are
read from the functions in the body of the class. A function is left out exactly if a decorator has
the form of an accessor's, so every accessor of a property is; and where each such decorator names a
property of the body, nothing but the accessors of properties is left out. -/
theorem members_read_in_order (path : String) (content : List UInt8)
    (d : ClassNode × List Statement)
    (hd : d ∈ classDefs (readStatements (tokens (Text.glyphs content))).statements) :
    let declaration := ClassDeclaration.ofNode path d.1 d.2
    let functions := functionsOf d.2
    declaration ∈ (ModuleReading.ofBytes path content).classes ∧
    (declaration.members.Pairwise fun m n => m.origin.upTo n.origin = true ∧ m.origin ≠ n.origin) ∧
    (∀ m ∈ declaration.members, ∃ f ∈ functions, m.IsReadFrom path f) ∧
    (∀ f ∈ functions, (∃ m ∈ declaration.members, m.IsReadFrom path f) ↔
      ∀ p, ¬ f.NamesAccessorOf p) ∧
    ((∀ f ∈ functions, ∀ p, f.NamesAccessorOf p → ∃ g ∈ functions, g.DefinesProperty p) →
      ∀ f ∈ functions, (∃ m ∈ declaration.members, m.IsReadFrom path f) ↔
        ¬ f.IsAccessorAmong functions) := by
  intro declaration functions
  have hplaces : functions.Pairwise fun f g =>
      (f.place path).upTo (g.place path) = true ∧ f.place path ≠ g.place path :=
    pairwise_place (startsOf_ordered hd)
  have hdistinct : (functions.map (FunctionNode.place path)).Nodup :=
    List.pairwise_map.mpr (hplaces.imp And.right)
  refine ⟨?_, pairwise_membersOf hplaces, ?_, fun f hf => exists_member_iff hdistinct hf, ?_⟩
  · unfold ModuleReading.ofBytes
    dsimp only
    rw [ModuleReading.classes_ofStatements]
    exact List.mem_map_of_mem hd
  · intro m hm
    obtain ⟨f, hf, -, hread⟩ := exists_function_of_mem_membersOf hm
    exact ⟨f, hf, hread⟩
  · intro hreal f hf
    refine (exists_member_iff hdistinct hf).trans ?_
    constructor
    · rintro hkept ⟨p, hp, -⟩
      exact hkept p hp
    · intro hnone p hp
      exact hnone ⟨p, hp, hreal f hf p hp⟩

/-! ## A setter and a hook -/

/-- The class definitions of a source text, as heads and bodies. -/
def classesOf (source : String) : List (ClassNode × List Statement) :=
  classDefs (readStatements (tokens (Text.glyphs (Text.encode source)))).statements

/-- The functions in the bodies of the classes, by name and decorators. -/
def functionHeadsOf (source : String) : List (List (String × List String)) :=
  (classesOf source).map fun d => (functionsOf d.2).map fun f => (f.name, f.decorators)

/-- A class with a property, its setter and a method. -/
def sizedSource : String :=
  "class A(ABC):\n  @property\n  def size(self): pass\n" ++
    "  @size.setter\n  def size(self, value): pass\n  def grow(self): pass\n"

set_option maxRecDepth 100000 in
/-- Of the functions of the class, the setter alone has no member. -/
theorem members_read_in_order_sized :
    ∃ d f g h, d ∈ classesOf sizedSource ∧ functionsOf d.2 = [f, g, h] ∧
      g.NamesAccessorOf "size" ∧ f.DefinesProperty "size" ∧
      ∀ k ∈ functionsOf d.2,
        (∃ m ∈ (ClassDeclaration.ofNode "m.py" d.1 d.2).members, m.IsReadFrom "m.py" k) ↔
          ¬ k.IsAccessorAmong (functionsOf d.2) := by
  have hheads : functionHeadsOf sizedSource =
      [[("size", ["property"]), ("size", ["size.setter"]), ("grow", [])]] := by
    decide +kernel
  obtain ⟨d, hclasses, hfunctions⟩ := List.map_eq_singleton_iff.mp hheads
  have hd : d ∈ classesOf sizedSource := by simp [hclasses]
  obtain ⟨f, rest, hrest, hf, hfunctions⟩ := List.map_eq_cons_iff.mp hfunctions
  obtain ⟨g, rest, rfl, hg, hfunctions⟩ := List.map_eq_cons_iff.mp hfunctions
  obtain ⟨h, rest, rfl, hh, hfunctions⟩ := List.map_eq_cons_iff.mp hfunctions
  obtain rfl := List.map_eq_nil_iff.mp hfunctions
  simp only [Prod.mk.injEq] at hf hg hh
  have hproperty : f.DefinesProperty "size" :=
    ⟨hf.1, by unfold FunctionNode.hasDecorator; rw [hf.2]; decide⟩
  refine ⟨d, f, g, h, hd, hrest, ⟨".setter", by decide, by rw [hg.2]; decide⟩, hproperty, ?_⟩
  obtain ⟨-, -, -, -, hreal⟩ := members_read_in_order "m.py" (Text.encode sizedSource) d hd
  apply hreal
  -- the only decorator that ends as an accessor's is that of the setter
  have hending : ∀ written ∈ ["property", "size.setter"], ∀ ending ∈ accessorEndings,
      Text.endsWith written ending = true → written = "size" ++ ending := by
    decide
  rw [hrest]
  rintro k hk p ⟨ending, hmem, hdecorator⟩
  have hwritten : p ++ ending ∈ ["property", "size.setter"] := by
    simp only [List.mem_cons, List.not_mem_nil, or_false] at hk
    rcases hk with rfl | rfl | rfl
    · rw [hf.2] at hdecorator
      exact List.mem_append_left ["size.setter"] hdecorator
    · rw [hg.2] at hdecorator
      exact List.mem_cons_of_mem _ hdecorator
    · rw [hh.2] at hdecorator
      cases hdecorator
  have hsame := hending _ hwritten ending hmem (Text.endsWith_iff.mpr ⟨p, rfl⟩)
  rw [String.append_left_inj] at hsame
  exact ⟨f, List.mem_cons_self, hsame ▸ hproperty⟩

/-- A class that has nothing but a method under a decorator of something else. -/
def hookedSource : String := "class A(ABC):\n  @hooks.getter\n  def fire(self): pass\n"

set_option maxRecDepth 100000 in
/-- The method of the class has no member, although the class has no property. -/
theorem members_omit_hooked :
    ∃ d f, classesOf hookedSource = [d] ∧ d.2 = [.function f] ∧ f.name = "fire" ∧
      f.decorators = ["hooks.getter"] ∧ ¬ f.IsAccessorAmong (functionsOf d.2) ∧
        (ClassDeclaration.ofNode "m.py" d.1 d.2).members = [] := by
  have hheads : (classesOf hookedSource).map (fun d =>
      (d.2.length, (functionsOf d.2).map fun f => (f.name, f.decorators))) =
        [(1, [("fire", ["hooks.getter"])])] := by
    decide +kernel
  obtain ⟨d, hclasses, hbody⟩ := List.map_eq_singleton_iff.mp hheads
  obtain ⟨hlength, hfunctions⟩ := Prod.mk.inj hbody
  obtain ⟨f, hf, hhead⟩ := List.map_eq_singleton_iff.mp hfunctions
  obtain ⟨hname, hdecorators⟩ := Prod.mk.inj hhead
  obtain ⟨s, hs⟩ := List.length_eq_one_iff.mp hlength
  have hstatement : d.2 = [.function f] := by
    rw [hs] at hf ⊢
    cases s with
    | function g => rw [List.cons.inj hf |>.1]
    | _ => cases hf
  refine ⟨d, f, hclasses, hstatement, hname, hdecorators, ?_, ?_⟩
  · rintro ⟨p, -, g, hg, -, hproperty⟩
    rw [hf, List.mem_singleton] at hg
    rw [hg, FunctionNode.hasDecorator, hdecorators] at hproperty
    cases hproperty
  · have haccessor : accessor? f = some "hooks.getter" := by
      rw [accessor?, hdecorators]
      rfl
    show membersOf "m.py" (functionsOf d.2) = []
    rw [hf]
    simp [membersOf, haccessor]

end SpanWeave
