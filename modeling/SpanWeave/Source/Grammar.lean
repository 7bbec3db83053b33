import SpanWeave.Source.Token

/-!
# The grammar of expressions and simple statements

A grammar is a value: an ordered choice of sequences over symbols, with named rules for what nests.
`Grammar.run` recognises the longest run that the first fitting choices allow. A line end outside
all brackets ends every optional and every repeated part, so a statement never goes on past its
line.
-/

set_option autoImplicit false

namespace SpanWeave.Source

/-- The parts of the language that refer to each other. -/
inductive Rule where
  | expression
  | disjunction
  | operand
  | primary
  | atom
  | trailer
  | element
  | argument
  | subscript
  | clauses
  | entry
  | lambdaParameter
  | typeExpr
  | starred
  | expressions
  | yielding
  | right
deriving DecidableEq, Repr

/-- A grammar over symbols. -/
inductive Grammar where
  /-- No symbol at all. -/
  | nothing
  /-- No symbol, where the line goes on. -/
  | goesOn
  /-- The given name. -/
  | word (s : String)
  /-- The given operator or delimiter. -/
  | mark (s : String)
  /-- A name that is not reserved. -/
  | name
  /-- A name that is not reserved and not the given one. -/
  | nameBut (s : String)
  /-- Any name. -/
  | label
  | number
  | text
  | both (first second : Grammar)
  | either (first second : Grammar)
  | optional (g : Grammar)
  | many (g : Grammar)
  | rule (r : Rule)
deriving Repr

/-- A place among the symbols of a text, with the symbols that follow. -/
structure Cursor where
  index : Nat
  rest : List Symbol
deriving Repr

namespace Cursor

/-- The symbol at the cursor. -/
def head? (c : Cursor) : Option Symbol := c.rest.head?

/-- The cursor behind its symbol. -/
def next (c : Cursor) : Cursor := ⟨c.index + 1, c.rest.tail⟩

/-- Whether a statement may end here: at a line end or at the end of the text. -/
def atLineEnd (c : Cursor) : Bool :=
  match c.head? with
  | some s => s.opens.isSome
  | none => true

/-- Whether the given name stands at the cursor. -/
def atWord (c : Cursor) (s : String) : Bool := c.head?.any fun t => t.lexeme == .name s

/-- Whether the given operator or delimiter stands at the cursor. -/
def atMark (c : Cursor) (s : String) : Bool := c.head?.any fun t => t.lexeme == .mark s

/-- The name at the cursor. -/
def label? (c : Cursor) : Option String :=
  match c.head? with
  | some ⟨.name s, _, _⟩ => some s
  | _ => none

end Cursor

/-- The names that are never names of things. -/
def reservedWords : List String :=
  ["and", "as", "assert", "break", "class", "continue", "def", "del", "elif", "else", "except",
    "finally", "for", "from", "global", "if", "import", "in", "is", "lambda", "nonlocal", "not",
    "or", "pass", "raise", "return", "try", "while", "with", "yield"]

namespace Grammar

/-- The grammars one after the other. -/
def sequence : List Grammar → Grammar
  | [] => nothing
  | [g] => g
  | g :: gs => both g (sequence gs)

/-- The first of the grammars that fits. -/
def choice : List Grammar → Grammar
  | [] => nothing
  | [g] => g
  | g :: gs => either g (choice gs)

/-- One of the given operators. -/
def oneMark (ms : List String) : Grammar := choice (ms.map mark)

/-- One or more items between commas, and perhaps a comma after them. -/
def commaList (g : Grammar) : Grammar :=
  sequence [g, many (sequence [mark ",", goesOn, g]), optional (mark ",")]

/-- A grammar between two delimiters. -/
def between (opening : String) (g : Grammar) (closing : String) : Grammar :=
  sequence [mark opening, g, mark closing]

/-- Operators between two operands. -/
def binaryOperator : Grammar :=
  choice
    [oneMark ["+", "-", "*", "/", "//", "%", "@", "**", "<<", ">>", "&", "|", "^", "<", ">", "<=",
      ">=", "==", "!=", "<>"],
     word "and", word "or", word "in", word "is", both (word "not") (word "in")]

/-- The grammar of each rule. -/
def ofRule : Rule → Grammar
  | .expression =>
    choice
      [sequence [name, mark ":=", rule .expression],
       sequence
        [rule .disjunction,
         optional (sequence [word "if", rule .disjunction, word "else", rule .expression]),
         optional (both (word "as") (rule .primary))]]
  | .disjunction => both (rule .operand) (many (both binaryOperator (rule .operand)))
  | .operand =>
    choice
      [both (oneMark ["+", "-", "~"]) (rule .operand),
       both (word "not") (rule .operand),
       sequence
        [word "lambda", optional (commaList (rule .lambdaParameter)), mark ":", rule .expression],
       both (word "await") (rule .primary),
       rule .primary]
  | .primary => both (rule .atom) (many (rule .trailer))
  | .atom =>
    choice
      [name, number, both text (many text), mark "...",
       between "(" (choice [rule .yielding, optional (rule .element)]) ")",
       between "[" (optional (rule .element)) "]",
       between "\x7b" (optional (rule .entry)) "\x7d"]
  | .trailer =>
    choice
      [both (mark ".") label,
       between "(" (optional (commaList (rule .argument))) ")",
       between "[" (commaList (rule .subscript)) "]"]
  | .element =>
    both (rule .starred)
      (choice
        [rule .clauses, sequence [many (both (mark ",") (rule .starred)), optional (mark ",")]])
  | .argument =>
    choice
      [sequence [label, mark "=", rule .expression],
       both (oneMark ["*", "**"]) (rule .expression),
       both (rule .expression) (optional (rule .clauses))]
  | .subscript =>
    let bound := optional (rule .expression)
    let tail := sequence [mark ":", bound, optional (both (mark ":") bound)]
    choice [tail, both (mark "*") (rule .expression), both (rule .expression) (optional tail)]
  | .clauses =>
    let clause :=
      sequence
        [choice [both (word "async") (word "for"), word "for"],
         commaList (choice [both (mark "*") (rule .primary), rule .primary]),
         word "in", rule .disjunction,
         many
          (both (word "if")
            (choice [sequence [name, mark ":=", rule .expression], rule .disjunction]))]
    both clause (many clause)
  | .entry =>
    let item :=
      choice
        [both (oneMark ["*", "**"]) (rule .disjunction),
         both (rule .expression) (optional (both (mark ":") (rule .expression)))]
    both item (choice [rule .clauses, sequence [many (both (mark ",") item), optional (mark ",")]])
  | .lambdaParameter =>
    choice
      [mark "/", both (mark "**") label, both (mark "*") (optional name),
       both (choice [name, between "(" (optional (rule .element)) ")"])
        (optional (both (mark "=") (rule .expression)))]
  | .typeExpr => choice [both (oneMark ["*", "**"]) (rule .expression), rule .expression]
  | .starred =>
    choice [both (mark "*") (rule .disjunction), rule .yielding, rule .expression]
  | .expressions =>
    commaList (choice [both (mark "*") (rule .disjunction), rule .expression])
  | .yielding =>
    both (word "yield")
      (choice [both (word "from") (rule .expression), optional (rule .expressions)])
  | .right => choice [rule .yielding, rule .expressions]

/-- Runs a grammar from a cursor; `fuel` bounds how deep its parts nest. -/
def runUpTo : Nat → Grammar → Cursor → Option Cursor
  | 0, _, _ => none
  | fuel + 1, g, c =>
    match g with
    | nothing => some c
    | goesOn => if c.atLineEnd then none else some c
    | word s => if c.atWord s then some c.next else none
    | mark s => if c.atMark s then some c.next else none
    | name => if c.label?.any fun s => !reservedWords.contains s then some c.next else none
    | nameBut s =>
      if c.label?.any fun t => !reservedWords.contains t && t != s then some c.next else none
    | label => if c.label?.isSome then some c.next else none
    | number => if c.head?.any fun s => s.lexeme == .number then some c.next else none
    | text => if c.head?.any fun s => s.lexeme == .text then some c.next else none
    | both first second => (runUpTo fuel first c).bind (runUpTo fuel second)
    | either first second =>
      match runUpTo fuel first c with
      | some d => some d
      | none => runUpTo fuel second c
    | optional g =>
      if c.atLineEnd then some c
      else
        match runUpTo fuel g c with
        | some d => some d
        | none => some c
    | many g =>
      if c.atLineEnd then some c
      else
        match runUpTo fuel g c with
        | some d => if d.index = c.index then some d else runUpTo fuel (many g) d
        | none => some c
    | rule r => runUpTo fuel (ofRule r) c

/-- A depth that no recognised run exceeds. -/
def depthBound (c : Cursor) : Nat := 256 * (c.rest.length + 4)

/-- Runs a grammar from a cursor. -/
def run (g : Grammar) (c : Cursor) : Option Cursor := runUpTo (depthBound c) g c

/-- The first name, and the names that follow it after a dot each. -/
def dottedFrom (first : Grammar) : Grammar := both first (many (both (mark ".") label))

/-- Names joined by dots. -/
def dottedName : Grammar := dottedFrom name

/-- The things that an import names. -/
def importList : Grammar := commaList (both dottedName (optional (both (word "as") label)))

/-- The things that an import takes from a module. -/
def importedNames : Grammar := choice [between "(" importList ")", importList]

/-- Statements that import something. Directly behind `from`, the name `__future__` begins no name of
a module: features of the language are listed one by one. -/
def importing : Grammar :=
  choice
    [both (word "import") importList,
     sequence [word "from", word "__future__", word "import", importedNames],
     sequence
      [word "from",
       choice
        [sequence [oneMark ["...", "."], many (oneMark ["...", "."]), optional dottedName],
         dottedFrom (nameBut "__future__")],
       word "import",
       choice [mark "*", importedNames]]]

/-- An operator that updates what stands before it. -/
def updateOperator : Grammar :=
  oneMark ["+=", "-=", "*=", "/=", "//=", "%=", "@=", "**=", ">>=", "<<=", "&=", "|=", "^="]

/-- Expressions, assignments and declarations of variables. -/
def assigning : Grammar :=
  both (rule .right)
    (optional
      (choice
        [sequence [mark ":", rule .typeExpr, optional (both (mark "=") (rule .right))],
         both updateOperator (rule .right),
         many (both (mark "=") (rule .right))]))

/-- Names between commas. -/
def nameList : Grammar := sequence [name, many (both (mark ",") name)]

/-- The parameters of a generic declaration. -/
def typeParameters : Grammar :=
  between "["
    (commaList
      (sequence
        [rule .typeExpr, optional (both (mark ":") (rule .typeExpr)),
         optional (both (mark "=") (rule .typeExpr))]))
    "]"

/-- The forms of simple statements, other than importing; the first that reaches the end of the
statement counts. -/
def simpleForms : List Grammar :=
  [word "pass", word "break", word "continue",
   both (word "return") (optional (rule .expressions)),
   sequence
    [word "raise", optional (rule .expressions), optional (both (word "from") (rule .expression))],
   both (word "global") nameList, both (word "nonlocal") nameList,
   both (word "del") (rule .expressions), both (word "assert") (rule .expressions),
   assigning,
   both (word "print") (rule .expressions),
   both (word "exec") (rule .expressions),
   sequence [word "type", name, optional typeParameters, mark "=", rule .typeExpr]]

end Grammar

end SpanWeave.Source
