import SpanWeave.Log
import SpanWeave.Reading

/-!
# The index of declared classes

An index holds the classes of all modules that were added, in the order of adding. It answers which
declarations carry the marker, which declarations make up a type, and what type a marked declaration
resolves to. Answers are ordered by location, and types under different import roots are different
types.
-/

set_option autoImplicit false

namespace SpanWeave

/-- A marked declaration. -/
structure Candidate where
  name : String
  file : SourceFile
  origin : Location
deriving DecidableEq, Repr

/-- The identity of the type that a candidate declares. -/
def Candidate.identity (c : Candidate) : TypeIdentity := ⟨c.file.namespace, c.name⟩

/-- What tells types apart: the import root and the identity. -/
structure TypeKey where
  importRoot : String
  identity : TypeIdentity
deriving DecidableEq, Repr

/-- The key of the type that a candidate declares. -/
def Candidate.key (c : Candidate) : TypeKey := ⟨c.file.importRoot, c.identity⟩

/-- A class with the module that declares it. -/
structure IndexedClass where
  file : SourceFile
  imports : List ImportDirective
  declaration : ClassDeclaration
deriving DecidableEq, Repr

namespace IndexedClass

/-- The key of the type that the class belongs to. -/
def key (c : IndexedClass) : TypeKey := ⟨c.file.importRoot, ⟨c.file.namespace, c.declaration.name⟩⟩

/-- The class as a marked declaration. -/
def candidate (c : IndexedClass) : Candidate := ⟨c.declaration.name, c.file, c.declaration.origin⟩

/-- The class as a part of its type. -/
def fragment (c : IndexedClass) : Fragment :=
  { module := c.file.module.getD ""
    path := c.file.path
    origin := c.declaration.origin
    members := c.declaration.members
    imports := c.imports }

end IndexedClass

/-- The classes of the modules added so far, in order. -/
structure SourceIndex where
  marker : String
  classes : List IndexedClass := []
deriving Repr

namespace SourceIndex

/-- The classes of a module. -/
def classesOf (file : SourceFile) (module : ModuleReading) : List IndexedClass :=
  module.classes.map fun declaration => ⟨file, module.imports, declaration⟩

/-- The index with the classes of one more module. -/
def add (index : SourceIndex) (file : SourceFile) (module : ModuleReading) : SourceIndex :=
  { index with classes := index.classes ++ classesOf file module }

/-- The marked declarations, by location. -/
def candidates (index : SourceIndex) : List Candidate :=
  ((index.classes.filter fun c => c.declaration.carries index.marker).map
    IndexedClass.candidate).mergeSort fun a b => a.origin.upTo b.origin

/-- The declarations that make up a type, by location. -/
def fragments (index : SourceIndex) (key : TypeKey) : List Fragment :=
  ((index.classes.filter fun c => c.key == key).map
    IndexedClass.fragment).mergeSort fun a b => a.origin.upTo b.origin

/-- The class at a location; of several the one added last. -/
def classAt? (index : SourceIndex) (origin : Location) : Option IndexedClass :=
  index.classes.reverse.find? fun c => c.declaration.origin == origin

/-- The type that a candidate resolves to. Nothing if its module cannot be imported by a dotted name
or if nothing is declared at its location. -/
def resolve (index : SourceIndex) (c : Candidate) : Option LogicalType := do
  let entry ← index.classAt? c.origin
  let module ← c.file.module.filter (· != "")
  let fragments := index.fragments c.key
  if fragments.isEmpty then none
  return {
    name := c.name
    «namespace» := c.file.namespace
    module
    origin := c.origin
    fragments
    isAbstract := entry.declaration.isAbstract
    isMarked := entry.declaration.carries index.marker }

/-- The speaker of the records about reading modules. -/
def speaker : String := "discovery.index"

/-- Reads a module and adds its classes. -/
def addSource {ε : Type} (index : SourceIndex) (file : SourceFile) (content : List UInt8) :
    Traced ε (SourceIndex × ModuleReading) := do
  let module := ModuleReading.ofBytes file.path content
  if !module.sound then
    Traced.note .debug speaker (file.path ++ " contains syntax errors; parsing recovered")
  return (index.add file module, module)

end SourceIndex

end SpanWeave
