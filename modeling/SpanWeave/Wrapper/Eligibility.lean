import SpanWeave.Declaration

/-!
# Eligibility

A marked declaration gets a wrapper if it resolves to a type, the type carries the marker, and the
type is abstract. The first condition that fails is the reason given.
-/

set_option autoImplicit false

namespace SpanWeave

/-- The verdict on a declaration. -/
inductive Verdict where
  | eligible
  | unresolved
  | missingMarker
  | notAbstract
deriving DecidableEq, Repr

namespace Verdict

/-- The code of a verdict. -/
def code : Verdict → String
  | eligible => "eligible"
  | unresolved => "unresolved"
  | missingMarker => "missing-marker"
  | notAbstract => "not-abstract"

/-- What is said of a type that is passed over. -/
def skipMessage (name : String) : Verdict → String
  | eligible => name
  | unresolved => name ++ " is not importable under a dotted module name; no wrapper generated"
  | missingMarker => name ++ " does not carry the instrumentation marker; no wrapper generated"
  | notAbstract => name ++ " is not abstract (derive from ABC); no wrapper generated"

/-- The verdict on what a declaration resolves to. -/
def ofType? : Option LogicalType → Verdict
  | none => unresolved
  | some t =>
    if !t.isMarked then missingMarker
    else if !t.isAbstract then notAbstract
    else eligible

end Verdict

end SpanWeave
