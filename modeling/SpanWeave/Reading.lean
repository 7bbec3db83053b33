import SpanWeave.Declaration
import SpanWeave.Source.Statement

/-!
# Reading a module

The declarations of one module: its imports and its classes at top level, each class with the
members that its body defines directly. A class is abstract if its head says so, a member's kind and
modifiers follow from its decorators, and the accessors of a property belong to the property.
-/

set_option autoImplicit false

namespace SpanWeave

open Source

/-- A class at the top level of a module. -/
structure ClassDeclaration where
  name : String
  decorators : List String
  isAbstract : Bool
  origin : Location
  members : List Member
deriving DecidableEq, Repr

/-- Whether a class carries a marker. -/
def ClassDeclaration.carries (d : ClassDeclaration) (marker : String) : Bool :=
  d.decorators.contains marker

/-- What a module declares. -/
structure ModuleReading where
  path : String
  imports : List ImportDirective
  classes : List ClassDeclaration
  /-- Whether the grammar allows all of the module. -/
  sound : Bool
deriving DecidableEq, Repr

/-- The bases that make a class abstract. -/
def abstractBases : List String := ["ABC", "abc.ABC"]

/-- The metaclasses that make a class abstract. -/
def abstractMetaclasses : List String := ["ABCMeta", "abc.ABCMeta"]

/-- The decorators that take a function off its instances. -/
def staticDecorators : List String :=
  ["staticmethod", "classmethod", "builtins.staticmethod", "builtins.classmethod"]

/-- The decorators that forbid overriding. -/
def finalDecorators : List String := ["final", "typing.final", "typing_extensions.final"]

/-- The decorators that make a function a property. -/
def propertyDecorators : List String :=
  ["property", "builtins.property", "abstractproperty", "abc.abstractproperty", "cached_property",
    "functools.cached_property"]

/-- The endings of the decorators of accessors. -/
def accessorEndings : List String := [".setter", ".deleter", ".getter"]

/-- Whether an argument of a class head makes the class abstract. -/
def Source.BaseNode.makesAbstract : BaseNode → Bool
  | .positional written => abstractBases.contains (Text.strip written)
  | .keyword name value => name == "metaclass" && abstractMetaclasses.contains (Text.strip value)

/-- The name and the type of a parameter, or what stands against it. -/
def Source.ParameterNode.meaning : ParameterNode → Except Defect (String × Option String)
  | .plain name => .ok (name, none)
  | .typed (some name) type => .ok (name, some (Text.strip type))
  | .typed none _ => .error .variadic
  | .default (some name) type? _ => .ok (name, type?.map Text.strip)
  | .default none _ written => .error (.unsupported written)
  | .variadic => .error .variadic
  | .keywordMarker => .error .keywordOnly
  | .positionalMarker => .error (.unsupported "/")
  | .other written => .error (.unsupported written)

/-- A type that is written as blanks only is no type. -/
def nonBlank (s : Option String) : Option String := s.filter (· != "")

/-- The parameters of the given names and types, numbered in order. -/
def numbered (start : Nat) : List (String × Option String) → List Parameter
  | [] => []
  | (name, type) :: rest => ⟨name, nonBlank type, start⟩ :: numbered (start + 1) rest

/-- The first defect among the meanings of nodes. -/
def firstDefect? : List ParameterNode → Option Defect
  | [] => none
  | node :: rest =>
    match node.meaning with
    | .error d => some d
    | .ok _ => firstDefect? rest

/-- The names and types among the meanings of nodes. -/
def meanings (nodes : List ParameterNode) : List (String × Option String) :=
  nodes.filterMap fun node => node.meaning.toOption

/-- What a parameter list says: the receiver comes first, and the others are numbered from zero. -/
def ParameterList.ofNode (p : ParametersNode) : ParameterList :=
  match p.nodes with
  | none => ⟨p.text, none, [], some .unparseable⟩
  | some nodes =>
    let nodes := nodes.filter (· != .positionalMarker)
    let defect? := firstDefect? nodes
    match meanings nodes with
    | [] => ⟨p.text, none, [], some (defect?.getD .noReceiver)⟩
    | (receiver, _) :: rest => ⟨p.text, some receiver, numbered 0 rest, defect?⟩

/-- The first decorator of a function that makes it an accessor. -/
def accessor? (f : FunctionNode) : Option String :=
  f.decorators.find? fun d => accessorEndings.any (Text.endsWith d)

/-- The property whose setter a function is. -/
def setterOf? (f : FunctionNode) : Option String :=
  match accessor? f with
  | some d =>
    if Text.endsWith d ".setter" then some (String.ofList (d.toList.take (d.length - 7))) else none
  | none => none

/-- Whether one of the decorators is in a list. -/
def Source.FunctionNode.hasDecorator (f : FunctionNode) (names : List String) : Bool :=
  f.decorators.any names.contains

/-- The member that a function defines, given the properties that have setters. -/
def Member.ofFunction (path : String) (setters : List String) (f : FunctionNode) : Member :=
  let isProperty := f.hasDecorator propertyDecorators
  { kind := if isProperty then .property else .method
    name := f.name
    type := nonBlank (f.returns.map Text.strip)
    modifiers :=
      { isPublic := !Text.startsWith f.name "_"
        overridable := !f.hasDecorator finalDecorators
        static := f.hasDecorator staticDecorators }
    origin := ⟨path, f.start.line, f.start.column⟩
    parameters := if isProperty then none else some (.ofNode f.parameters)
    isAsync := f.isAsync
    hasSetter := isProperty && setters.contains f.name }

/-- The functions that statements define. -/
def functionsOf (statements : List Statement) : List FunctionNode :=
  statements.filterMap fun
    | .function f => some f
    | _ => none

/-- The members of a class with the given functions in its body. -/
def membersOf (path : String) (functions : List FunctionNode) : List Member :=
  let setters := functions.filterMap setterOf?
  (functions.filter fun f => (accessor? f).isNone).map (Member.ofFunction path setters)

/-- The class that a definition declares. -/
def ClassDeclaration.ofNode (path : String) (head : ClassNode) (body : List Statement) :
    ClassDeclaration :=
  { name := head.name
    decorators := head.decorators
    isAbstract := head.bases.any BaseNode.makesAbstract
    origin := ⟨path, head.start.line, head.start.column⟩
    members := membersOf path (functionsOf body) }

/-- The declarations among the statements of a module. -/
def ModuleReading.ofStatements (path : String) (statements : List Statement) (sound : Bool) :
    ModuleReading :=
  { path
    imports := statements.filterMap fun
      | .importing written => some (.ofText written)
      | _ => none
    classes := statements.filterMap fun
      | .classDef head body => some (.ofNode path head body)
      | _ => none
    sound }

/-- Reads a module from its bytes. -/
def ModuleReading.ofBytes (path : String) (content : List UInt8) : ModuleReading :=
  let outcome := readStatements (tokens (Text.glyphs content))
  .ofStatements path outcome.statements outcome.sound

end SpanWeave
