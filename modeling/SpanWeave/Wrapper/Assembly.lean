import SpanWeave.Files.Path
import SpanWeave.Wrapper.Eligibility
import SpanWeave.Wrapper.Forwarding
import SpanWeave.Wrapper.Header
import SpanWeave.Wrapper.Members
import SpanWeave.Wrapper.Rendering

/-!
# Assembled wrappers

From a type to its wrapper module: the verdict first, then the members, the parts and the text. The
year of the header is settled once for all wrappers of an assembler.
-/

set_option autoImplicit false

namespace SpanWeave

/-- A wrapper module ready to be written. -/
structure WrapperModule where
  typeName : String
  fileName : String
  text : String
  source : TypeIdentity
  /-- The directory of the declaration that asked for the wrapper. -/
  directory : String
  origin : Location
  /-- Whether one of the imports is relative. -/
  relativeImports : Bool
deriving DecidableEq, Repr

/-- What all wrappers of a pass have in common. -/
structure Assembler where
  header : HeaderSettings := {}
  runtimeModule : String := "instrumentgen.runtime"
  /-- What the names of wrapper files end with. -/
  suffix : String := "_g.py"
  aliases : Aliases := {}
  /-- The year that was asked for, if any. -/
  askedYear : Option Int := none
  currentYear : Int
deriving DecidableEq, Repr

namespace Assembler

/-- The year that all headers of the assembler share. -/
def year (a : Assembler) : Int := firstYear [a.askedYear, a.header.year] a.currentYear

/-- The name of the wrapper of a type. -/
def companionName (typeName : String) : String := "Instrumented" ++ typeName ++ "Impl"

/-- All names that methods hand on. -/
def takenNames (methods : List CollectedMethod) : List String :=
  methods.flatMap fun m => splitForwarding m.signature.forwarding

/-- What a method calls the object it is called on. -/
def receiverName (m : Member) : String :=
  match m.parameters with
  | some p => (p.receiver.filter (· != "")).getD "self"
  | none => "self"

/-- The parts of the wrapper of a type with the given members. -/
def parts (a : Assembler) (t : LogicalType) (members : CollectedMembers) :
    Except GenerationError WrapperNode := do
  let wrapper := companionName t.name
  let aliases := a.aliases.avoiding (takenNames members.methods)
  let methods ← members.methods.mapM fun m =>
    aliases.override m.member.name m.member.type m.signature (receiverName m.member)
  return {
    header := headerLines a.header t.identity (some a.year) a.currentYear
    imports := (importBlock members.imports).map ImportDirective.text
    binding :=
      { baseModule := t.module
        baseName := t.name
        runtimeModule := a.runtimeModule
        spanSource := aliases.spanSource
        setTag := aliases.setTag }
    body :=
      { name := wrapper
        base := t.name
        docstring := "The instrumented decorated class for " ++ t.name ++ "."
        fieldName := aliases.field
        fieldType := t.name
        properties := members.properties.map fun p => ⟨p.name, p.type⟩
        constructor :=
          { parameter := "impl"
            type := t.name
            docstring :=
              { summary := "Initialize a new instance of " ++ wrapper ++ "."
                details :=
                  ["",
                    ":param impl: The " ++ t.name ++ " implementation calls are forwarded to."] } }
        methods } }

/-- The module that holds a wrapper. -/
def moduleOf (a : Assembler) (t : LogicalType) (members : CollectedMembers) (w : WrapperNode) :
    WrapperModule :=
  { typeName := w.body.name
    fileName := w.body.name ++ a.suffix
    text := w.render
    source := t.identity
    directory := (Path.ofText t.origin.path).parent.text
    origin := t.origin
    relativeImports := members.imports.any ImportDirective.isRelative }

/-- The wrapper module of an eligible type. -/
def wrap (a : Assembler) (t : LogicalType) : Traced GenerationError WrapperModule := do
  let members ← t.collect
  let node ← .ofExcept (a.parts t members)
  let module := a.moduleOf t members node
  Traced.note .debug "synthesis.assembler"
    ("Assembled " ++ module.fileName ++ " (" ++ toString members.methods.length ++ " methods, "
      ++ toString members.properties.length ++ " properties)")
  return module

/-- The verdict on what a declaration resolves to and, if it is eligible, its wrapper module. -/
def assemble (a : Assembler) (t? : Option LogicalType) :
    Traced GenerationError (Verdict × Option WrapperModule) :=
  match Verdict.ofType? t?, t? with
  | .eligible, some t => do
    let module ← a.wrap t
    return (.eligible, some module)
  | verdict, _ => .done (verdict, none)

end Assembler

end SpanWeave
