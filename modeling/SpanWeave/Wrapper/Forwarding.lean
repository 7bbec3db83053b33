import SpanWeave.Wrapper.Node
import SpanWeave.Wrapper.Signature

/-!
# Forwarding bodies

Every override opens a span named after its method, tags each argument under its own name and hands
the call on to the held object. The names that the wrapper adds are chosen so that no argument hides
them: the name of the span for each method, the other ones for the whole wrapper.
-/

set_option autoImplicit false

namespace SpanWeave

/-- A base name with underscores after it. -/
def underscored (base : String) (count : Nat) : String :=
  base ++ String.ofList (List.replicate count '_')

/-- A base name with the fewest underscores after it that make it differ from all taken names. Among
as many candidates as there are taken names and one more, one is free. -/
def uniqueName (base : String) (taken : List String) : String :=
  let free? := (List.range (taken.length + 1)).find? fun k => !taken.contains (underscored base k)
  underscored base (free?.getD taken.length)

/-- The names that a wrapper adds around the arguments of its methods. -/
structure Aliases where
  spanSource : String := "_span_source"
  setTag : String := "_set_tag"
  /-- The field that holds the object calls are handed on to. -/
  field : String := "_impl"
deriving DecidableEq, Repr

/-- The aliases changed so that none of the taken names hides them. -/
def Aliases.avoiding (a : Aliases) (taken : List String) : Aliases :=
  { a with spanSource := uniqueName a.spanSource taken, setTag := uniqueName a.setTag taken }

/-- Only `None` says that a method returns nothing. -/
def isVoid (type : Option String) : Bool := type.any fun t => Text.strip t == "None"

/-- Texts in ascending order, each once. -/
def sortedDistinct (names : List String) : List String :=
  names.eraseDups.mergeSort fun a b => decide (a ≤ b)

/-- The names that occur more than once. -/
def repeatedNames (names : List String) : List String :=
  sortedDistinct (names.filter fun n => names.count n > 1)

/-- The name that a span has inside a method. -/
def spanVariable : String := "span"

/-- The override of a method. -/
def Aliases.override (a : Aliases) (name : String) (type : Option String) (signature : Signature)
    (receiver : String) : Except GenerationError MethodNode :=
  let arguments := splitForwarding signature.forwarding
  let duplicates := repeatedNames arguments
  let shadowed := sortedDistinct ([a.spanSource, a.setTag].filter arguments.contains)
  if !duplicates.isEmpty then .error (.repeatedParameters name duplicates)
  else if !shadowed.isEmpty then .error (.shadowedNames name shadowed)
  else
    .ok
      { name
        signature := signature.text
        returnType := type
        spanName := name
        spanVariable := uniqueName spanVariable (arguments ++ [receiver])
        tags := arguments.map fun argument => ⟨argument, argument⟩
        call := receiver ++ "." ++ a.field ++ "." ++ name ++ "(" ++ signature.forwarding ++ ")"
        returns := !isVoid type }

end SpanWeave
