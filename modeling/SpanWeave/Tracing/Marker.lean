/-!
# Marked classes

The marker is a property of the class that it is put on, whether it is written bare or called. It
does not pass on to derived classes. Defining a name again replaces the class in its place.
-/

set_option autoImplicit false

namespace SpanWeave

/-- How the marker is put on a class. -/
inductive MarkerStyle where
  | none
  | bare
  | called
deriving DecidableEq, Repr

/-- The classes defined so far, by name, and how each is marked. -/
structure ClassRoster where
  classes : List (String × MarkerStyle) := []
deriving DecidableEq, Repr

namespace ClassRoster

/-- Puts a class in the place of the one of the same name, or at the end. -/
def place (name : String) (style : MarkerStyle) :
    List (String × MarkerStyle) → List (String × MarkerStyle)
  | [] => [(name, style)]
  | (other, s) :: rest =>
    if other = name then (name, style) :: rest else (other, s) :: place name style rest

/-- Defines a class. -/
def define (r : ClassRoster) (name : String) (style : MarkerStyle) : ClassRoster :=
  ⟨place name style r.classes⟩

/-- Which of the classes are marked. -/
def marked (r : ClassRoster) : List Bool := r.classes.map fun c => c.2 != .none

end ClassRoster

end SpanWeave
