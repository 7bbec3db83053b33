import SpanWeave.Yaml.Node

/-!
# Named nodes

A node may be given a name, once, and stand again wherever the name is referred to later. A node may
also refer to itself from within. It is then unfolded a few times, which is deeper than anything
looks into it, and the innermost reference stands for an empty collection of the same kind.
-/

set_option autoImplicit false

namespace SpanWeave.Yaml

/-- The nodes that names stand for; the latest comes first. -/
abbrev NamedNodes := List (String × Node)

namespace Node

/-- Gives a node its name; no name is given twice. -/
def introduce (marks : Marks) (node : Node) (known : NamedNodes) : Except Fault NamedNodes :=
  match marks.name with
  | none => .ok known
  | some name =>
    if (known.lookup name).isSome then .error .malformed else .ok ((name, node) :: known)

/-- Lets the name of a collection stand for the collection now that it is complete. -/
def complete (marks : Marks) (node : Node) (known : NamedNodes) : NamedNodes :=
  match marks.name with
  | none => known
  | some name => (name, node) :: known

/-- What a collection stands for while it is being read. -/
def meanwhile (outer : NamedNodes) (marks : Marks) (empty : Node) : Node :=
  (marks.name.bind fun name => outer.lookup name).getD empty

mutual

/-- Puts nodes for the references to them. A collection that refers to itself is, from within, what
`outer` has under its name. -/
def substitute (outer : NamedNodes) : Node → NamedNodes → Except Fault (Node × NamedNodes)
  | .alias name, known =>
    match known.lookup name with
    | some node => .ok (node, known)
    | none => .error .malformed
  | .scalar marks text plain, known => do
    let node := .scalar marks text plain
    return (node, ← introduce marks node known)
  | .sequence marks items, known => do
    let known ← introduce marks (meanwhile outer marks (.sequence marks [])) known
    let (items, known) ← substituteItems outer items known
    let node := .sequence marks items
    return (node, complete marks node known)
  | .mapping marks entries, known => do
    let known ← introduce marks (meanwhile outer marks (.mapping marks [])) known
    let (entries, known) ← substituteEntries outer entries known
    let node := .mapping marks entries
    return (node, complete marks node known)

/-- The same for the items of a sequence. -/
def substituteItems (outer : NamedNodes) :
    List Node → NamedNodes → Except Fault (List Node × NamedNodes)
  | [], known => .ok ([], known)
  | item :: items, known => do
    let (item, known) ← substitute outer item known
    let (items, known) ← substituteItems outer items known
    return (item :: items, known)

/-- The same for the entries of a mapping. -/
def substituteEntries (outer : NamedNodes) :
    List (Node × Node) → NamedNodes → Except Fault (List (Node × Node) × NamedNodes)
  | [], known => .ok ([], known)
  | (key, value) :: entries, known => do
    let (key, known) ← substitute outer key known
    let (value, known) ← substitute outer value known
    let (entries, known) ← substituteEntries outer entries known
    return ((key, value) :: entries, known)

end

/-- A node without references; `depth` says how many times a collection within itself is unfolded.
-/
def unfoldedFrom (outer : NamedNodes) : Nat → Node → Except Fault Node
  | 0, node => return (← substitute outer node []).1
  | depth + 1, node => do
    let (_, named) ← substitute outer node []
    unfoldedFrom named depth node

/-- A node without references. -/
def unfolded (node : Node) : Except Fault Node := unfoldedFrom [] 3 node

end Node

end SpanWeave.Yaml
