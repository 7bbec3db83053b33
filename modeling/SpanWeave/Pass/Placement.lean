import SpanWeave.Pass.Finding
import SpanWeave.Wrapper.Assembly

/-!
# Where wrappers go

A wrapper goes into the output directory, or next to its source if there is none. In an output
directory relative imports lead nowhere, so wrappers with such imports are refused; and of several
wrappers for one file only the first is placed.
-/

set_option autoImplicit false

namespace SpanWeave

/-- Where the wrappers of a pass go. -/
structure Destination where
  root : Path
  /-- The output directory, if there is one. -/
  output : Option Path
deriving DecidableEq, Repr

/-- The file that a wrapper goes to. -/
def Destination.target (d : Destination) (w : WrapperModule) : Path :=
  (d.output.getD (d.root.below w.directory)).below w.fileName

/-- A wrapper and the file it goes to. -/
structure PlacedWrapper where
  target : Path
  wrapper : WrapperModule
deriving DecidableEq, Repr

/-- The wrappers that can be written, and a finding for each other one. -/
structure Placement where
  placed : List PlacedWrapper := []
  findings : List Finding := []
deriving DecidableEq, Repr

namespace Placement

/-- Why a wrapper cannot be placed after those that are. -/
def obstacle? (d : Destination) (placed : List PlacedWrapper) (w : WrapperModule) : Option Cause :=
  match d.output.filter fun _ => w.relativeImports with
  | some directory => some (.relativeImport w.source directory)
  | none =>
    (placed.find? fun p => p.target == d.target w).map fun p =>
      .occupied w.source (d.target w) p.wrapper.source

/-- Places one more wrapper, or finds why not. -/
def add (d : Destination) (p : Placement) (w : WrapperModule) : Placement :=
  match obstacle? d p.placed w with
  | some cause => { p with findings := p.findings ++ [⟨cause, w.origin⟩] }
  | none => { p with placed := p.placed ++ [⟨d.target w, w⟩] }

/-- Places wrappers in order. -/
def ofWrappers (d : Destination) (wrappers : List WrapperModule) : Placement :=
  wrappers.foldl (add d) {}

end Placement

end SpanWeave
