/-!
# The parts of a wrapper

A wrapper before it is written out: header and imports, the names that bind it to its type and to
the tracing runtime, and the class with its properties, its constructor and its methods.
-/

set_option autoImplicit false

namespace SpanWeave

/-- The names that bind a wrapper to the type and to the tracing runtime. -/
structure Binding where
  baseModule : String
  baseName : String
  runtimeModule : String
  /-- The name under which the wrapper holds its source of spans. -/
  spanSource : String
  /-- The name under which the wrapper knows the function that sets tags. -/
  setTag : String
deriving DecidableEq, Repr

/-- A property that reads the held object's property. -/
structure PropertyNode where
  name : String
  type : Option String
deriving DecidableEq, Repr

/-- A text in lines, the first of which sums it up. -/
structure Docstring where
  summary : String
  details : List String
deriving DecidableEq, Repr

/-- The text in the given lines; without a line there is no summary. -/
def Docstring.ofLines? : List String → Option Docstring
  | [] => none
  | summary :: details => some ⟨summary, details⟩

/-- The lines of a text. -/
def Docstring.lines (d : Docstring) : List String := d.summary :: d.details

/-- What is said of a text without a summary. -/
def Docstring.missingSummary : String := "tuple object has no element 0"

/-- The constructor, which keeps the object that calls are handed on to. -/
structure ConstructorNode where
  parameter : String
  type : String
  docstring : Docstring
deriving DecidableEq, Repr

/-- A tag set on a span: the key, and the expression whose value is recorded. -/
structure TagNode where
  key : String
  value : String
deriving DecidableEq, Repr

/-- A method that opens a span, sets tags and hands the call on. -/
structure MethodNode where
  name : String
  signature : String
  returnType : Option String
  spanName : String
  spanVariable : String
  tags : List TagNode
  call : String
  /-- Whether the result of the call is returned. -/
  returns : Bool
deriving DecidableEq, Repr

/-- The class of a wrapper. -/
structure ClassBody where
  name : String
  base : String
  docstring : String
  fieldName : String
  fieldType : String
  properties : List PropertyNode
  constructor : ConstructorNode
  methods : List MethodNode
deriving DecidableEq, Repr

/-- A wrapper. -/
structure WrapperNode where
  header : List String
  imports : List String
  binding : Binding
  body : ClassBody
deriving DecidableEq, Repr

end SpanWeave
