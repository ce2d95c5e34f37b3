import PrimitiveSearch.Path

/-!
# Where the engine's files are
-/

set_option autoImplicit false

namespace PrimitiveSearch.EngineModule

/-- The files of the engine's source tree that matter here. -/
structure Layout where
  /-- The generated header. -/
  header : Path
  /-- The engine source up to the registrations. -/
  prologue : Path
  /-- The engine source after the registrations. -/
  epilogue : Path
  /-- The generated engine source. -/
  engineSource : Path
  /-- The annotated header that offers the primitives. -/
  primitives : Path
  deriving DecidableEq, Repr

/-- The usual places below the root of a source tree. -/
def Layout.rooted (root : Path) : Layout where
  header := Path.join root "include/aicpp/partials.h"
  prologue := Path.join root "src/engine.cpp.in1"
  epilogue := Path.join root "src/engine.cpp.in2"
  engineSource := Path.join root "src/engine.cpp"
  primitives := Path.join root "include/aicpp/primitives.h"

/-- The root of the source tree when none is given. -/
def defaultRoot : Path := ".."

/-- The usual places below the parent directory. -/
def Layout.default : Layout := Layout.rooted defaultRoot

end PrimitiveSearch.EngineModule
