import SpanWeave.Declaration

/-!
# Why no wrapper can be made

The reasons for which a type cannot be wrapped although it asks for it, with the code, the message
and the location by which each is reported.
-/

set_option autoImplicit false

namespace SpanWeave

/-- A reason why a wrapper, or a whole pass, came to nothing. -/
inductive GenerationError where
  /-- The parameters of a method cannot be handed on. -/
  | unforwardable (text : String) (defect : Defect)
  /-- The same, of a method of a type. -/
  | unforwardableMethod (method type : String) (text : String) (defect : Defect) (origin : Location)
  | asyncMethod (method type : String) (origin : Location)
  | repeatedParameters (method : String) (names : List String)
  | shadowedNames (method : String) (names : List String)
  | cancelled
deriving DecidableEq, Repr

namespace GenerationError

/-- The code of a failure. -/
def code : GenerationError → String
  | unforwardable .. | unforwardableMethod .. | repeatedParameters .. | shadowedNames .. =>
    "malformed-signature"
  | asyncMethod .. => "unsupported-member"
  | cancelled => "cancelled"

/-- What is said of a parameter list that cannot be handed on. -/
def unforwardableText (text : String) (defect : Defect) : String :=
  "Cannot forward parameter list " ++ text ++ ": " ++ defect.reason

/-- The failure in words. -/
def message : GenerationError → String
  | unforwardable text defect => unforwardableText text defect
  | unforwardableMethod method type text defect _ =>
    "method '" ++ method ++ "' of " ++ type ++ ": " ++ unforwardableText text defect
  | asyncMethod method type _ =>
    "async method '" ++ method ++ "' of " ++ type ++ " cannot be forwarded"
  | repeatedParameters method names =>
    "Method '" ++ method ++ "' repeats parameter names: " ++ String.intercalate ", " names
  | shadowedNames method names =>
    "Method '" ++ method ++ "' parameters shadow generated names: " ++ String.intercalate ", " names
  | cancelled => "Generation pass cancelled"

/-- The declaration at fault, if the failure knows it. -/
def origin? : GenerationError → Option Location
  | unforwardableMethod _ _ _ _ origin => some origin
  | asyncMethod _ _ origin => some origin
  | _ => none

end GenerationError

end SpanWeave
