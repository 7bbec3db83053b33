import SpanWeave.Log
import SpanWeave.Wrapper.Imports
import SpanWeave.Wrapper.Signature

/-!
# Collected members

What a wrapper overrides: the methods and properties of all fragments of a type, in order, each
origin once. The first method that cannot be handed on ends the collection. A name that is declared
again is reported, and both declarations stay.
-/

set_option autoImplicit false

namespace SpanWeave

/-- Public methods that instances have and that may be overridden are forwarded. -/
def Member.isForwardedMethod (m : Member) : Bool :=
  m.kind == .method && m.modifiers.isPublic && m.modifiers.overridable && !m.modifiers.static

/-- Properties that may be overridden are forwarded. -/
def Member.isForwardedProperty (m : Member) : Bool :=
  m.kind == .property && m.modifiers.overridable

/-- Whether a member has a place in the wrapper. -/
def Member.isForwarded (m : Member) : Bool := m.isForwardedMethod || m.isForwardedProperty

/-- A method with the signature of its override. -/
structure CollectedMethod where
  member : Member
  signature : Signature
deriving DecidableEq, Repr

/-- What a wrapper overrides and imports. -/
structure CollectedMembers where
  methods : List CollectedMethod
  properties : List Member
  imports : List ImportDirective
deriving DecidableEq, Repr

/-- The members whose origin has not been seen, each origin once. -/
def firstByOrigin (seen : List Location) : List Member → List Member
  | [] => []
  | m :: ms =>
    if seen.contains m.origin then firstByOrigin seen ms
    else m :: firstByOrigin (m.origin :: seen) ms

/-- The members that a wrapper is about: the forwarded ones of all fragments, each origin once. -/
def LogicalType.forwardedMembers (t : LogicalType) : List Member :=
  firstByOrigin [] ((t.fragments.flatMap Fragment.members).filter Member.isForwarded)

/-- The method with its signature, or why it cannot be handed on. -/
def CollectedMethod.ofMember (typeName : String) (m : Member) :
    Except GenerationError CollectedMethod :=
  if m.isAsync then .error (.asyncMethod m.name typeName m.origin)
  else
    match Signature.ofParameters m.parameters with
    | .ok s => .ok ⟨m, s⟩
    | .error (.unforwardable text defect) =>
      .error (.unforwardableMethod m.name typeName text defect m.origin)
    | .error e => .error e

/-- The speaker of the records about members. -/
def memberSpeaker : String := "synthesis.members"

/-- The location of the latest earlier declaration of a name. -/
def previousOf (name : String) (earlier : List Member) : Option Location :=
  (earlier.find? fun m => m.name == name).map Member.origin

/-- Reports a name that has been declared before. -/
def noteRepeated (typeName : String) (m : Member) (earlier : List Member) :
    Traced GenerationError Unit :=
  match previousOf m.name earlier with
  | some previous =>
    .note .warning memberSpeaker
      (typeName ++ " declares '" ++ m.name ++ "' at " ++ previous.text ++ " and " ++ m.origin.text
        ++ "; the later declaration wins")
  | none => .done ()

/-- Collects members in order; `earlier` holds the ones already taken, latest first. -/
def collectFrom (typeName : String) (earlier : List Member) :
    List Member → Traced GenerationError (List CollectedMethod × List Member)
  | [] => .done ([], [])
  | m :: ms =>
    if m.isForwardedMethod then do
      let method ← .ofExcept (CollectedMethod.ofMember typeName m)
      noteRepeated typeName m earlier
      let (methods, properties) ← collectFrom typeName (m :: earlier) ms
      return (method :: methods, properties)
    else do
      noteRepeated typeName m earlier
      let (methods, properties) ← collectFrom typeName (m :: earlier) ms
      return (methods, m :: properties)

/-- Collects what the wrapper of a type overrides. -/
def LogicalType.collect (t : LogicalType) : Traced GenerationError CollectedMembers := do
  let (methods, properties) ← collectFrom t.name [] t.forwardedMembers
  let imports := mergeImports t.fragments
  Traced.note .debug memberSpeaker
    ("Collected " ++ toString methods.length ++ " methods, " ++ toString properties.length
      ++ " properties and " ++ toString imports.length ++ " imports for " ++ t.name ++ " across "
      ++ toString t.fragments.length ++ " fragments")
  return ⟨methods, properties, imports⟩

end SpanWeave
