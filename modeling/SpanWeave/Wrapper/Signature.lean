import SpanWeave.Wrapper.Failure

/-!
# Signatures and forwarding lists

An override repeats the parameter list of a method word for word and hands the parameters on by
name. The names travel as one text, joined by commas; splitting that text gives the names back.
-/

set_option autoImplicit false

namespace SpanWeave

/-- The signature of an override and the list of names that it hands on. -/
structure Signature where
  text : String
  forwarding : String
deriving DecidableEq, Repr

/-- The trimmed names that are not blank, in order. -/
def trimmedNames (names : List String) : List String :=
  (names.map Text.strip).filter (· != "")

/-- Names as one forwarding list. -/
def joinForwarding (names : List String) : String := String.intercalate ", " names

/-- The names in a forwarding list; blanks between commas are no names. -/
def splitForwarding (forwarding : String) : List String :=
  trimmedNames (Text.parts ',' forwarding)

/-- The signature that a parameter list gives; a method without a list takes no arguments. -/
def Signature.ofParameters : Option ParameterList → Except GenerationError Signature
  | none => .ok ⟨"()", ""⟩
  | some p =>
    match p.flaw? with
    | some defect => .error (.unforwardable p.text defect)
    | none => .ok ⟨p.text, joinForwarding (trimmedNames (p.parameters.map Parameter.name))⟩

end SpanWeave
