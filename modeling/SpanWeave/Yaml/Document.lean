import SpanWeave.Yaml.Alias
import SpanWeave.Yaml.Scalar

/-!
# The value of a document

A document means one value of free data. Collections are made level by level, so of several faults
the shallowest one is reported, and of those the first. A mapping may take entries over from other
mappings; its own entries then count more.
-/

set_option autoImplicit false

namespace SpanWeave.Yaml

/-- A value, or a fault and how deep in the document it is. -/
abbrev Made (α : Type) := Except (Nat × Fault) α

namespace Made

variable {α β γ : Type}

/-- A fault at the level itself. -/
def fault (f : Fault) : Made α := .error (0, f)

/-- A result of the next level. -/
def deeper (m : Made α) : Made α := m.mapError fun p => (p.1 + 1, p.2)

/-- Two results put together; of two faults the shallower counts, and the first of two equally deep.
-/
def both (f : α → β → γ) : Made α → Made β → Made γ
  | .ok a, .ok b => .ok (f a b)
  | .error e, .ok _ => .error e
  | .ok _, .error e => .error e
  | .error e, .error e' => .error (if e'.1 < e.1 then e' else e)

end Made

namespace Node

/-- The kinds of nodes by tag. -/
inductive Kind where
  | scalar (kind : ScalarKind)
  | sequence
  | mapping
  /-- A sequence of single entries, which keep their order. -/
  | entries
  /-- A mapping of which only the keys count. -/
  | keys
  /-- A kind that is not offered. -/
  | foreign
deriving DecidableEq, Repr

/-- The kind that a tag names. -/
def Kind.ofTag (tag : String) : Kind :=
  match ScalarKind.ofTag? tag with
  | some kind => .scalar kind
  | none =>
    if tag = ScalarKind.tagStem ++ "seq" then .sequence
    else if tag = ScalarKind.tagStem ++ "map" then .mapping
    else if tag = ScalarKind.tagStem ++ "omap" || tag = ScalarKind.tagStem ++ "pairs" then .entries
    else if tag = ScalarKind.tagStem ++ "set" then .keys
    else .foreign

/-- The kind of a node: what its tag names, or what its form tells where no tag or a bare mark is.
-/
def kind : Node → Kind
  | .alias _ => .foreign
  | .scalar marks text plain =>
    match marks.tag with
    | none => .scalar (if plain then ScalarKind.ofForm text else .text)
    | some tag => if tag = "!" then .scalar (ScalarKind.ofForm text) else Kind.ofTag tag
  | .sequence marks _ =>
    match marks.tag with
    | none => .sequence
    | some tag => if tag = "!" then .sequence else Kind.ofTag tag
  | .mapping marks _ =>
    match marks.tag with
    | none => .mapping
    | some tag => if tag = "!" then .mapping else Kind.ofTag tag

mutual

/-- The text of a node as a scalar; the value that stands in for a mapping gives the mapping's. -/
def scalarText? : Node → Option String
  | .scalar _ text _ => some text
  | .mapping _ entries => standInText? entries
  | _ => none

/-- The text of the first value that stands in for a mapping of the entries. -/
def standInText? : List (Node × Node) → Option String
  | [] => none
  | (key, value) :: entries =>
    if key.kind == .scalar .standIn then scalarText? value else standInText? entries

end

mutual

/-- The entries of a mapping with those it takes over in front; nothing if something that is no
mapping is to be taken over from. -/
def mergedEntries? : List (Node × Node) → Option (List (Node × Node) × List (Node × Node))
  | [] => some ([], [])
  | (key, value) :: entries =>
    if key.kind == .scalar .merge then do
      let source ← mergeSource? value
      let (taken, own) ← mergedEntries? entries
      return (source ++ taken, own)
    else do
      let (taken, own) ← mergedEntries? entries
      return (taken, (key, value) :: own)

/-- The entries that a mapping, or a sequence of mappings, offers to be taken over. -/
def mergeSource? : Node → Option (List (Node × Node))
  | .mapping _ entries => do
    let (taken, own) ← mergedEntries? entries
    return taken ++ own
  | .sequence _ items => (mergeSources? items).map fun sources => sources.reverse.flatten
  | _ => none

/-- The entries that each of several mappings offers. -/
def mergeSources? : List Node → Option (List (List (Node × Node)))
  | [] => some []
  | .mapping _ entries :: items => do
    let (taken, own) ← mergedEntries? entries
    let sources ← mergeSources? items
    return (taken ++ own) :: sources
  | _ :: _ => none

end

/-- The key as it counts: the key that stands for a mapping's value is a text elsewhere. -/
def asKey (key : Node) : Node :=
  match key with
  | .scalar marks text plain =>
    if key.kind == .scalar .standIn then
      .scalar { marks with tag := some (ScalarKind.tagStem ++ "str") } text plain
    else key
  | _ => key

mutual

/-- How deep nodes nest in a node. -/
def depth : Node → Nat
  | .sequence _ items => itemsDepth items + 1
  | .mapping _ entries => entriesDepth entries + 1
  | _ => 1

/-- How deep nodes nest in the items of a sequence. -/
def itemsDepth : List Node → Nat
  | [] => 0
  | item :: items => max (depth item) (itemsDepth items)

/-- How deep nodes nest in the entries of a mapping. -/
def entriesDepth : List (Node × Node) → Nat
  | [] => 0
  | (key, value) :: entries => max (max (depth key) (depth value)) (entriesDepth entries)

end

/-- One result for each element, put together in order. -/
def makeAll {α β : Type} (f : α → Made β) (xs : List α) : Made (List β) :=
  xs.foldr (fun x rest => Made.both List.cons (f x) rest) (.ok [])

/-- The only entry of a mapping. -/
def singleEntry? : Node → Option (Node × Node)
  | .mapping _ [entry] => some entry
  | _ => none

/-- The items of a sequence; other nodes have none. -/
def itemsOf : Node → Made (List Node)
  | .sequence _ items => .ok items
  | _ => Made.fault .malformed

/-- The entries of a mapping together with those taken over; other nodes have none. -/
def entriesOf : Node → Made (List (Node × Node))
  | .mapping _ entries =>
    match mergedEntries? entries with
    | some (taken, own) => .ok (taken ++ own)
    | none => Made.fault .malformed
  | _ => Made.fault .malformed

/-- Whether the value of a node can be a key: collections cannot. -/
def canBeKey (node : Node) : Bool :=
  match node.kind with
  | .sequence | .mapping | .entries | .keys => false
  | _ => true

/-- The value of a node; `rounds` bounds how deep nodes nest. -/
def make : Nat → Node → Made Datum
  | 0, _ => .ok .null
  | rounds + 1, node =>
    let pair (entry : Node × Node) : Made (Datum × Datum) :=
      Made.both Prod.mk (make rounds entry.1) (make rounds entry.2)
    let entry (entry : Node × Node) : Made (Datum × Datum) :=
      if canBeKey entry.1 then pair (asKey entry.1, entry.2) else Made.fault .malformed
    match node.kind with
    | .scalar kind =>
      match scalarText? node with
      | none => Made.fault .malformed
      | some text => (kind.value text).mapError fun f => (0, f)
    | .sequence => Made.deeper do
      return .list (← makeAll (make rounds) (← itemsOf node))
    | .mapping => Made.deeper do
      return .dict (← makeAll entry (← entriesOf node))
    | .keys => Made.deeper do
      return .set ((← makeAll entry (← entriesOf node)).map Prod.fst)
    | .entries => Made.deeper do
      let single (item : Node) : Made Datum :=
        match singleEntry? item with
        | some e => (pair e).map fun p => .tuple [p.1, p.2]
        | none => Made.fault .malformed
      return .list (← makeAll single (← itemsOf node))
    | .foreign => Made.fault .malformed

end Node

/-- The value of a document; an empty document has none.

Two things are left out. A text behind a bare mark `!` has the kind of its form as it stands, with a
line break at its end; a reader that tells forms by patterns which a last line break may follow
gives `! "true\n"` the kind of `true`, and then has no value for it. And nodes may nest to any depth,
where a reader that recurses gives up at some depth. -/
def valueOf (text : String) : Except Fault Datum := do
  match ← Node.ofTokens? (← tokens text.toList) with
  | none => return .null
  | some root =>
    let node ← root.unfolded
    (node.make (node.depth + 1)).mapError Prod.snd

end SpanWeave.Yaml
