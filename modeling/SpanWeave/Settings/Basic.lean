import SpanWeave.Files.Path
import SpanWeave.Wrapper.Header

/-!
# Settings

What a project can settle about its wrappers, with the values that hold where nothing is settled.
-/

set_option autoImplicit false

namespace SpanWeave

/-- Where wrappers go. -/
structure OutputSettings where
  /-- The directory for all wrappers, an absolute path; without one, each goes next to its source. -/
  directory : Option Path := none
  /-- What the names of wrapper files end with. -/
  suffix : String := "_g.py"
deriving DecidableEq, Repr

/-- The settings of a project. -/
structure Settings where
  root : Path
  /-- The name of the decorator that asks for a wrapper. -/
  marker : String := "Instrumentation"
  workers : Int := 1
  /-- Patterns of paths that are not scanned. -/
  excludePaths : List String := []
  output : OutputSettings := {}
  header : HeaderSettings := {}
  /-- The module that wrappers import their source of spans from. -/
  runtimeModule : String := "instrumentgen.runtime"
deriving DecidableEq, Repr

/-- The name of the file that holds the settings of a project. -/
def settingsFileName : String := ".instrumentgen.yml"

end SpanWeave
