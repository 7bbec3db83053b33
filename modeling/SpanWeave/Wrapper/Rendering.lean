import SpanWeave.Text.Quoted
import SpanWeave.Wrapper.Node

/-!
# Written wrappers

The text of a wrapper. Every part is a list of lines without their ends; parts of a line that come
from settings or sources stand as they are, and names that become values of the written program
stand between quotes.
-/

set_option autoImplicit false

namespace SpanWeave

/-- An arrow and a type, if there is one to write. -/
def arrowText (type : Option String) : String :=
  match type.filter (· != "") with
  | some t => " -> " ++ t
  | none => ""

/-- A line of the header as a remark. -/
def remarkLine (line : String) : String := if line = "" then "#" else "# " ++ line

/-- The imports and the line after them. -/
def importLines (imports : List String) : List String :=
  if imports.isEmpty then [] else imports ++ [""]

/-- The lines that bind the wrapper to its type and to the runtime. -/
def Binding.lines (b : Binding) : List String :=
  ["from " ++ b.baseModule ++ " import " ++ b.baseName,
    "from " ++ b.runtimeModule ++ " import set_tag as " ++ b.setTag,
    "from " ++ b.runtimeModule ++ " import span_source_for as _span_source_for",
    "",
    b.spanSource ++ " = _span_source_for(" ++ b.baseName ++ ")"]

/-- The lines of a property. -/
def PropertyNode.lines (field : String) (p : PropertyNode) : List String :=
  ["",
    "    @property",
    "    def " ++ p.name ++ "(self)" ++ arrowText p.type ++ ":",
    "        return self." ++ field ++ "." ++ p.name]

/-- The lines of the constructor. -/
def ConstructorNode.lines (field : String) (c : ConstructorNode) : List String :=
  ["", "    def __init__(self, " ++ c.parameter ++ ": " ++ c.type ++ ") -> None:",
    "        \"\"\"" ++ c.docstring.summary] ++
  (c.docstring.details.map fun line => if line = "" then "" else "        " ++ line) ++
  ["        \"\"\"", "        self." ++ field ++ " = " ++ c.parameter]

/-- The line that sets a tag. -/
def TagNode.line (setTag spanVariable : String) (t : TagNode) : String :=
  "            " ++ setTag ++ "(" ++ spanVariable ++ ", " ++ Text.escaped t.key ++ ", " ++ t.value
    ++ ")"

/-- The lines of a method. -/
def MethodNode.lines (b : Binding) (m : MethodNode) : List String :=
  ["", "    def " ++ m.name ++ m.signature ++ arrowText m.returnType ++ ":",
    "        with " ++ b.spanSource ++ ".start_span(" ++ Text.escaped m.spanName ++ ") as "
      ++ m.spanVariable ++ ":"] ++
  m.tags.map (TagNode.line b.setTag m.spanVariable) ++
  ["            " ++ (if m.returns then "return " else "") ++ m.call]

/-- The lines of the class. -/
def ClassBody.lines (b : Binding) (c : ClassBody) : List String :=
  ["class " ++ c.name ++ "(" ++ c.base ++ "):",
    "    \"\"\"" ++ c.docstring ++ "\"\"\"",
    "",
    "    " ++ c.fieldName ++ ": " ++ c.fieldType] ++
  c.properties.flatMap (PropertyNode.lines c.fieldName) ++
  c.constructor.lines c.fieldName ++
  c.methods.flatMap (MethodNode.lines b)

/-- The lines of a wrapper. -/
def WrapperNode.lines (w : WrapperNode) : List String :=
  w.header.map remarkLine ++ [""] ++ importLines w.imports ++ w.binding.lines ++ ["", ""] ++
    w.body.lines w.binding ++ ["", "", "__all__ = [" ++ Text.escaped w.body.name ++ "]"]

/-- Lines with their ends. -/
def joinLines (lines : List String) : String :=
  String.join (lines.map fun line => line ++ "\n")

/-- The text of a wrapper. -/
def WrapperNode.render (w : WrapperNode) : String := joinLines w.lines

end SpanWeave
