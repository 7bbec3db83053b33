import SpanWeave.Source.Parameter

/-!
# Statements and blocks

A source text is a block of statements. Classes are read with the statements of their bodies,
functions with their heads, imports with their texts; everything else is only recognised. A
statement that the grammar does not allow is left out up to the next line, and the outcome says that
the text was not sound.

A block ends at the first line that is indented less than its own first line. A line that is
indented more than the block goes on with the same block.
-/

set_option autoImplicit false

namespace SpanWeave.Source

open Grammar (run rule sequence choice both optional commaList mark nothing typeParameters importing
  simpleForms oneMark)

/-- The head of a function definition. -/
structure FunctionNode where
  /-- The names of the decorators, in order of writing. -/
  decorators : List String
  isAsync : Bool
  name : String
  parameters : ParametersNode
  /-- The text of the type after the arrow. -/
  returns : Option String
  start : Position
deriving DecidableEq, Repr

/-- One argument in the head of a class definition. -/
inductive BaseNode where
  | positional (written : String)
  | keyword (name : String) (value : String)
deriving DecidableEq, Repr

/-- The head of a class definition. -/
structure ClassNode where
  /-- The names of the decorators, in order of writing. -/
  decorators : List String
  name : String
  bases : List BaseNode
  start : Position
deriving DecidableEq, Repr

/-- A statement, as far as it is read. -/
inductive Statement where
  | importing (written : String)
  | function (head : FunctionNode)
  | classDef (head : ClassNode) (body : List Statement)
  | other
deriving Repr

/-- Statements read, whether all was sound, and where reading stopped. -/
structure Outcome where
  statements : List Statement
  sound : Bool
  rest : Cursor

namespace Cursor

/-- The cursor at the next line, at least one symbol further on. -/
def nextLine (c : Cursor) : Cursor :=
  let skipped := c.next.rest.takeWhile fun s => s.opens.isNone
  ⟨c.index + 1 + skipped.length, c.next.rest.drop skipped.length⟩

/-- Whether the symbol at the cursor is indented less than a block. -/
def leaves (c : Cursor) (indent : Nat) : Bool :=
  match c.head? with
  | some s => s.opens.any (· < indent)
  | none => true

end Cursor

/-- Leaves a broken statement out. -/
def Outcome.broken (c : Cursor) : Outcome := ⟨[], false, c.nextLine⟩

/-- The statement after the ones before it. -/
def Outcome.append (before after : Outcome) : Outcome :=
  ⟨before.statements ++ after.statements, before.sound && after.sound, after.rest⟩

/-- Where the last call of a chain of calls, attributes and subscripts begins, if the chain ends
with one; `call?` is the beginning of the call that was read last. -/
def lastCall? : Nat → Option Cursor → Cursor → Option Cursor × Cursor
  | 0, call?, c => (call?, c)
  | rounds + 1, call?, c =>
    if c.atLineEnd then (call?, c)
    else
      match run (rule .trailer) c with
      | some d => lastCall? rounds (if c.atMark "(" then some c else none) d
      | none => (call?, c)

/-- The name of a decorator whose expression begins at a cursor: the expression's text, without the
arguments if it is a call. -/
def decoratorName (sp : Spelling) (c stop : Cursor) : String :=
  match c.joinNodes with
  | .other join :: _ => Text.strip join
  | _ =>
    match run (rule .atom) c with
    | some d =>
      match lastCall? c.rest.length none d with
      | (some call, e) => Text.strip (sp.between c (if e.index = stop.index then call else stop))
      | (none, _) => Text.strip (sp.between c stop)
    | none => Text.strip (sp.between c stop)

/-- The names of the decorators at a cursor, and the cursor behind them. -/
def decoratorNames (sp : Spelling) : Nat → Cursor → Option (List String × Cursor)
  | 0, _ => none
  | rounds + 1, c =>
    if c.atMark "@" then do
      let d ← run (rule .expression) c.next
      if d.atLineEnd then do
        let (names, e) ← decoratorNames sp rounds d
        return (decoratorName sp c.next d :: names, e)
      else none
    else some ([], c)

/-- The cursor behind the parameters of a generic declaration, if there are any. -/
def skipTypeParameters (c : Cursor) : Option Cursor :=
  if c.atMark "[" then run typeParameters c else some c

/-- The function head at a cursor, and the cursor behind its colon. -/
def functionHead (sp : Spelling) (decorators : List String) (c : Cursor) :
    Option (FunctionNode × Cursor) := do
  let isAsync := c.atWord "async"
  let d := if isAsync then c.next else c
  if !d.atWord "def" then none
  let name ← d.next.label?
  let e ← skipTypeParameters d.next.next
  let (parameters, f) ← parametersNode sp e
  let (returns, g) ←
    if f.atMark "->" then do
      let g ← run (rule .typeExpr) f.next
      pure (some (sp.between f.next g), g)
    else pure (none, f)
  if !g.atMark ":" then none
  return (⟨decorators, isAsync, name, parameters, returns, sp.start c.index⟩, g.next)

/-- One argument of a class head. -/
def baseNode (sp : Spelling) (c : Cursor) : Option (BaseNode × Cursor) :=
  match c.label?, c.next.atMark "=" with
  | some name, true => do
    let d ← run (rule .expression) c.next.next
    return (.keyword name (sp.between c.next.next d), d)
  | _, _ => do
    let d ← run (choice [both (oneMark ["*", "**"]) (rule .expression), rule .expression]) c
    return (.positional (sp.between c d), d)

/-- The arguments of a class head up to the closing parenthesis. -/
def baseNodes (sp : Spelling) : Nat → Cursor → Option (List BaseNode × Cursor)
  | 0, _ => none
  | rounds + 1, c =>
    if c.atMark ")" then some ([], c)
    else do
      let (node, d) ← baseNode sp c
      if d.atMark ")" then return ([node], d)
      else if d.atMark "," then do
        let (more, e) ← baseNodes sp rounds d.next
        return (node :: more, e)
      else none

/-- The class head at a cursor, and the cursor behind its colon. -/
def classHead (sp : Spelling) (decorators : List String) (c : Cursor) :
    Option (ClassNode × Cursor) := do
  if !c.atWord "class" then none
  let name ← c.next.label?
  let d ← skipTypeParameters c.next.next
  let (bases, e) ←
    if d.atMark "(" then do
      let (bases, e) ← baseNodes sp d.rest.length d.next
      pure (bases, e.next)
    else pure ([], d)
  if !e.atMark ":" then none
  return (⟨decorators, name, bases, sp.start c.index⟩, e.next)

/-- Whether a simple statement ends at a cursor. -/
def Cursor.atStatementEnd (c : Cursor) : Bool := c.atLineEnd || c.atMark ";"

/-- The simple statement at a cursor. -/
def simpleStatement (sp : Spelling) (c : Cursor) : Option (Statement × Cursor) :=
  if c.atWord "import" || c.atWord "from" then do
    let d ← run importing c
    if d.atStatementEnd then return (.importing (sp.between c d), d) else none
  else
    simpleForms.findSome? fun form =>
      match run form c with
      | some d => if d.atStatementEnd then some (.other, d) else none
      | none => none

/-- The simple statements on the rest of a line. -/
def simpleLine (sp : Spelling) : Nat → Cursor → Outcome
  | 0, c => .broken c
  | rounds + 1, c =>
    match simpleStatement sp c with
    | none => .broken c
    | some (s, d) =>
      let e := if d.atMark ";" then d.next else d
      if e.atLineEnd then ⟨[s], true, e⟩
      else Outcome.append ⟨[s], true, e⟩ (simpleLine sp rounds e)

/-- The words that open a clause with a block, and what stands between the word and the colon. -/
def clauseGrammar? : String → Option Grammar
  | "if" | "elif" | "while" => some (rule .expression)
  | "else" | "try" | "finally" => some nothing
  | "except" => some (both (optional (mark "*")) (optional (rule .expressions)))
  | "with" => some (rule .expressions)
  | "for" =>
    some
      (sequence
        [commaList (choice [both (mark "*") (rule .primary), rule .primary]), .word "in",
         rule .expressions])
  | "match" => some (rule .expressions)
  | "case" => some (both (rule .expressions) (optional (both (.word "if") (rule .expression))))
  | _ => none

/-- The clauses that may follow a clause. -/
def followers : String → List String
  | "if" | "elif" => ["elif", "else"]
  | "while" | "for" => ["else"]
  | "try" => ["except", "finally"]
  | "except" => ["except", "else", "finally"]
  | "else" => ["finally"]
  | _ => []

/-- The cursor behind the colon of the clause that the word at the cursor opens. -/
def clauseHead? (word : String) (c : Cursor) : Option Cursor := do
  let g ← clauseGrammar? word
  let d ← run g c.next
  if d.atMark ":" then return d.next else none

mutual

/-- The statements of a block with the given indentation. -/
def block (sp : Spelling) (indent : Nat) : Nat → Cursor → Outcome
  | 0, c => ⟨[], false, c⟩
  | fuel + 1, c =>
    if c.leaves indent then ⟨[], true, c⟩
    else
      let first := statement sp indent fuel c
      first.append (block sp indent fuel first.rest)
termination_by structural fuel => fuel

/-- One statement of a block, or a line of simple ones. -/
def statement (sp : Spelling) (indent : Nat) : Nat → Cursor → Outcome
  | 0, c => .broken c
  | fuel + 1, c =>
    if c.atMark "@" then
      match decoratorNames sp c.rest.length c with
      | some (names, d) => definition sp indent names fuel d
      | none => .broken c
    else if c.atWord "def" || c.atWord "class" then definition sp indent [] fuel c
    else if c.atWord "async" && c.next.atWord "def" then definition sp indent [] fuel c
    else if c.atWord "async" && (c.next.atWord "for" || c.next.atWord "with") then
      clause sp indent fuel c.next
    else if c.atWord "if" || c.atWord "while" || c.atWord "for" || c.atWord "try" ||
        c.atWord "with" then
      clause sp indent fuel c
    else if c.atWord "match" then
      match clauseHead? "match" c with
      | some d =>
        if d.atLineEnd then
          match d.head? with
          | some ⟨_, some inner, _⟩ =>
            if inner > indent then
              let cases := caseBlock sp inner fuel d
              ⟨[.other], cases.sound, cases.rest⟩
            else ⟨[.other], true, d⟩
          | _ => ⟨[.other], true, d⟩
        else simpleLine sp c.rest.length c
      | none => simpleLine sp c.rest.length c
    else simpleLine sp c.rest.length c
termination_by structural fuel => fuel

/-- The class or function at a cursor, whose decorators have been read. -/
def definition (sp : Spelling) (indent : Nat) (decorators : List String) :
    Nat → Cursor → Outcome
  | 0, c => .broken c
  | fuel + 1, c =>
    match classHead sp decorators c with
    | some (head, d) =>
      let body := suite sp indent fuel d
      ⟨[.classDef head body.statements], body.sound, body.rest⟩
    | none =>
      match functionHead sp decorators c with
      | some (head, d) =>
        let body := suite sp indent fuel d
        ⟨[.function head], head.parameters.nodes.isSome && body.sound, body.rest⟩
      | none => .broken c
termination_by structural fuel => fuel

/-- The block or the line of simple statements behind a colon. -/
def suite (sp : Spelling) (indent : Nat) : Nat → Cursor → Outcome
  | 0, c => ⟨[], false, c⟩
  | fuel + 1, c =>
    match c.head? with
    | none => ⟨[], true, c⟩
    | some s =>
      match s.opens with
      | none => simpleLine sp c.rest.length c
      | some inner => if inner > indent then block sp inner fuel c else ⟨[], true, c⟩
termination_by structural fuel => fuel

/-- The clause at a cursor, its block and the clauses that follow it. -/
def clause (sp : Spelling) (indent : Nat) : Nat → Cursor → Outcome
  | 0, c => .broken c
  | fuel + 1, c =>
    match c.label? with
    | none => .broken c
    | some word =>
      match clauseHead? word c with
      | none => .broken c
      | some d =>
        let body := suite sp indent fuel d
        let here : Outcome := ⟨[.other], body.sound, body.rest⟩
        let goesOn :=
          !body.rest.leaves indent && (body.rest.label?.any fun w => (followers word).contains w)
        if goesOn then here.append (clause sp indent fuel body.rest) else here
termination_by structural fuel => fuel

/-- The cases of a match, in a block with the given indentation. -/
def caseBlock (sp : Spelling) (indent : Nat) : Nat → Cursor → Outcome
  | 0, c => ⟨[], false, c⟩
  | fuel + 1, c =>
    if c.leaves indent then ⟨[], true, c⟩
    else
      let first :=
        match (if c.atWord "case" then clauseHead? "case" c else none) with
        | some d => suite sp indent fuel d
        | none => .broken c
      first.append (caseBlock sp indent fuel first.rest)
termination_by structural fuel => fuel

end

/-- The statements of a source text, and whether all of it was sound. -/
def readStatements (tokens : List Token) : Outcome :=
  block (Spelling.ofTokens tokens.toArray) 0 (16 * (tokens.length + 8))
    ⟨0, tokens.map Token.symbol⟩

end SpanWeave.Source
