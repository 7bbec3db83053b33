import SpanWeave.Source.Grammar

/-!
# Parameter lists as written

A parameter list is read into the nodes between its commas. A line continuation that stands between
two nodes is a node of its own; inside a parameter it is layout, as remarks and line ends are
everywhere. A list that the grammar does not allow has no nodes.
-/

set_option autoImplicit false

namespace SpanWeave.Source

/-- How the extents and the tokens of a text are written and where they stand. -/
structure Spelling where
  text : Extent → String
  start : Nat → Position

/-- The spelling of a list of tokens. -/
def Spelling.ofTokens (tokens : Array Token) : Spelling :=
  ⟨Extent.text tokens, fun i => (tokens[i]?.map Token.start).getD ⟨1, 1⟩⟩

/-- One node of a parameter list. -/
inductive ParameterNode where
  /-- A name alone. -/
  | plain (name : String)
  /-- A parameter with a type; without a name it takes any number of arguments. -/
  | typed (name? : Option String) (type : String)
  /-- A parameter with a default value, perhaps with a type; without a name it is a pattern. -/
  | default (name? : Option String) (type? : Option String) (written : String)
  /-- A parameter that takes any number of arguments. -/
  | variadic
  /-- The star after which parameters are given by keyword only. -/
  | keywordMarker
  /-- The slash before which parameters are given by position only. -/
  | positionalMarker
  /-- Anything else: a pattern of several names, or a line continuation. -/
  | other (written : String)
deriving DecidableEq, Repr

/-- A parameter list: its text and, if the grammar allows it, its nodes. -/
structure ParametersNode where
  text : String
  nodes : Option (List ParameterNode)
deriving DecidableEq, Repr

open Grammar (run rule)

/-- The text from one cursor up to another. -/
def Spelling.between (sp : Spelling) (c d : Cursor) : String := sp.text ⟨c.index, d.index⟩

/-- Whether a parameter ends at the cursor. -/
def Cursor.atParameterEnd (c : Cursor) : Bool := c.atMark "," || c.atMark ")"

/-- A type after a colon, if there is a colon. -/
def typeAfterColon (sp : Spelling) (c : Cursor) : Option (Option String × Cursor) :=
  if c.atMark ":" then
    match run (rule .typeExpr) c.next with
    | some d => some (some (sp.between c.next d), d)
    | none => none
  else some (none, c)

/-- The parameter at a cursor and the cursor behind it. -/
def parameterNode (sp : Spelling) (c : Cursor) : Option (ParameterNode × Cursor) :=
  if c.atMark "/" then some (.positionalMarker, c.next)
  else if c.atMark "*" && c.next.atParameterEnd then some (.keywordMarker, c.next)
  else if c.atMark "*" || c.atMark "**" then do
    let d ← run (rule .primary) c.next
    let (type?, e) ← typeAfterColon sp d
    match type? with
    | some type => return (.typed none type, e)
    | none => return (.variadic, e)
  else if c.atMark "(" then do
    let d ← run (rule .atom) c
    if d.atMark "=" then do
      let e ← run (rule .expression) d.next
      return (.default none none (sp.between c e), e)
    else return (.other (sp.between c d), d)
  else do
    let name ← c.label?
    let (type?, d) ← typeAfterColon sp c.next
    if d.atMark "=" then do
      let e ← run (rule .expression) d.next
      return (.default (some name) type? (sp.between c e), e)
    else
      match type? with
      | some type => return (.typed (some name) type, d)
      | none => return (.plain name, d)

/-- The line continuations before a cursor, as nodes. -/
def Cursor.joinNodes (c : Cursor) : List ParameterNode :=
  match c.head? with
  | some s => s.joins.map .other
  | none => []

/-- The nodes up to the closing parenthesis and the cursor there; `rounds` bounds their number. -/
def parameterNodes (sp : Spelling) : Nat → Cursor → Option (List ParameterNode × Cursor)
  | 0, _ => none
  | rounds + 1, c =>
    if c.atMark ")" then some (c.joinNodes, c)
    else do
      let (node, d) ← parameterNode sp c
      let read := c.joinNodes ++ node :: d.joinNodes
      if d.atMark ")" then return (read, d)
      else if d.atMark "," then do
        let (more, e) ← parameterNodes sp rounds d.next
        return (read ++ more, e)
      else none

/-- The cursor at the delimiter that closes `depth` open ones. -/
def closing? : Nat → Nat → List Symbol → Option Cursor
  | _, _, [] => none
  | depth, index, s :: rest =>
    let after := depthAfter depth s.lexeme
    if after = 0 then some ⟨index, s :: rest⟩ else closing? after (index + 1) rest

/-- The parameter list that opens at a cursor, and the cursor behind it. -/
def parametersNode (sp : Spelling) (c : Cursor) : Option (ParametersNode × Cursor) :=
  if c.atMark "(" then
    match parameterNodes sp c.rest.length c.next with
    | some (nodes, d) => some (⟨sp.between c d.next, some nodes⟩, d.next)
    | none =>
      match closing? 1 (c.index + 1) c.rest.tail with
      | some d => some (⟨sp.between c d.next, none⟩, d.next)
      | none => none
  else none

end SpanWeave.Source
