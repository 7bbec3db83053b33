import SpanWeave.Text.Blank

/-!
# Declarations

What a source tree declares: members with their parameter lists, imports, the fragments that make up
a type, and the type itself. A declaration is known by its location, and locations are ordered by
path, line and column.
-/

set_option autoImplicit false

namespace SpanWeave

/-- Where a declaration stands. -/
structure Location where
  path : String
  line : Nat
  column : Nat
deriving DecidableEq, Repr

/-- A location as it is reported. -/
def Location.text (l : Location) : String :=
  l.path ++ ":" ++ toString l.line ++ ":" ++ toString l.column

/-- Whether one location comes before another one or is the same. -/
def Location.upTo (a b : Location) : Bool :=
  if a.path = b.path then
    if a.line = b.line then a.column ≤ b.column else a.line < b.line
  else decide (a.path < b.path)

/-- A parameter after the receiver. -/
structure Parameter where
  name : String
  type : Option String
  /-- Its place among the parameters, from zero. -/
  position : Nat
deriving DecidableEq, Repr

/-- Why the arguments of a method cannot be handed on one by one. -/
inductive Defect where
  /-- The list is not allowed by the grammar. -/
  | unparseable
  | noReceiver
  | variadic
  | keywordOnly
  /-- A form of parameter that is not one name. -/
  | unsupported (written : String)
  /-- A reason given in words by whoever describes the method. -/
  | described (reason : String)
deriving DecidableEq, Repr

/-- The reason in words. -/
def Defect.reason : Defect → String
  | .unparseable => "unparseable parameter list"
  | .noReceiver => "method declares no receiver parameter"
  | .variadic => "variadic parameters cannot be forwarded positionally"
  | .keywordOnly => "keyword-only parameters cannot be forwarded positionally"
  | .unsupported written => "unsupported parameter form '" ++ written ++ "'"
  | .described reason => reason

/-- The parameter list of a method: its text as written, and what can be handed on. -/
structure ParameterList where
  text : String
  receiver : Option String
  parameters : List Parameter
  defect : Option Defect
deriving DecidableEq, Repr

/-- Whether something stands against handing the parameters on; a reason without words is none. -/
def ParameterList.flaw? (p : ParameterList) : Option Defect :=
  p.defect.filter fun d => d.reason != ""

/-- The two kinds of members. -/
inductive MemberKind where
  | method
  | property
deriving DecidableEq, Repr

/-- What decides whether a member can be overridden. -/
structure Modifiers where
  isPublic : Bool
  overridable : Bool
  static : Bool
deriving DecidableEq, Repr

/-- A method or a property of a class. -/
structure Member where
  kind : MemberKind
  name : String
  /-- The type that it returns, as written. -/
  type : Option String
  modifiers : Modifiers
  origin : Location
  parameters : Option ParameterList
  isAsync : Bool
  hasSetter : Bool
deriving DecidableEq, Repr

/-- An import statement, known by its text. -/
structure ImportDirective where
  text : String
deriving DecidableEq, Repr

namespace ImportDirective

/-- The directive that a text writes, whatever blanks surround it. -/
def ofText (s : String) : ImportDirective := ⟨Text.strip s⟩

/-- Whether the directive asks for a future feature of the language. -/
def isFuture (d : ImportDirective) : Bool := Text.startsWith d.text "from __future__ "

/-- Whether the directive names a module relative to its own. -/
def isRelative (d : ImportDirective) : Bool := Text.startsWith d.text "from ."

end ImportDirective

/-- One declaration of a class, as a part of a type. -/
structure Fragment where
  /-- The dotted name of the module, empty if it has none. -/
  module : String
  path : String
  origin : Location
  members : List Member
  imports : List ImportDirective
deriving DecidableEq, Repr

/-- The name of a type in its namespace. -/
structure TypeIdentity where
  «namespace» : String
  name : String
deriving DecidableEq, Repr

/-- The name of a type with its namespace before it. -/
def TypeIdentity.qualifiedName (i : TypeIdentity) : String :=
  if i.namespace = "" then i.name else i.namespace ++ "." ++ i.name

/-- A type with all the fragments that declare it. -/
structure LogicalType where
  name : String
  «namespace» : String
  module : String
  origin : Location
  fragments : List Fragment
  isAbstract : Bool
  isMarked : Bool
deriving DecidableEq, Repr

/-- The identity of a type. -/
def LogicalType.identity (t : LogicalType) : TypeIdentity := ⟨t.namespace, t.name⟩

/-- A module found in a source tree. -/
structure SourceFile where
  /-- The path from the root of the tree. -/
  path : String
  /-- The dotted name to import it by, if it has one. -/
  module : Option String
  «namespace» : String
  /-- The directory that the dotted name starts from. -/
  importRoot : String
deriving DecidableEq, Repr

/-- The modules of a source tree. -/
structure Manifest where
  root : String
  files : List SourceFile
deriving DecidableEq, Repr

end SpanWeave
