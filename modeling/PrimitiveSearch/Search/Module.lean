import PrimitiveSearch.Host.Unreadable
import PrimitiveSearch.Search.Plan

/-!
# Files of the engine module

* `Search.loadTemplate` — the engine source around the registrations.
* `Search.writeModule` — the header, and then the engine source.
-/

set_option autoImplicit false

namespace PrimitiveSearch.Search

open EngineModule

variable {σ : Type}

/-- The text of a file. -/
def loadFile (w : World σ) (file : Path) (m : Machine σ) :
    Except Unreadable Text × Machine σ :=
  let (result, m) := m.observe (w.load file)
  (result.mapError fun reason => ⟨file, reason⟩, m)

/-- The engine source around the registrations. -/
def loadTemplate (w : World σ) (l : Layout) (m : Machine σ) :
    Except Unreadable Template × Machine σ :=
  match loadFile w l.prologue m with
  | (.error fault, m) => (.error fault, m)
  | (.ok prologue, m) =>
    match loadFile w l.epilogue m with
    | (.error fault, m) => (.error fault, m)
    | (.ok epilogue, m) => (.ok ⟨prologue, epilogue⟩, m)

/-- Writes a file into a directory that is made if it is missing. -/
def writeFile (w : World σ) (file : Path) (text : Text) (m : Machine σ) :
    Except Text Unit × Machine σ :=
  w.write ((Path.parent? file).getD []) file text m

/-- Writes the header and then the engine source; the first failure ends it. -/
def writeModule (w : World σ) (l : Layout) (e : EngineModule) (m : Machine σ) :
    Except Text Unit × Machine σ :=
  match writeFile w l.header e.header m with
  | (.error reason, m) => (.error reason, m)
  | (.ok (), m) => writeFile w l.engineSource e.engineSource m

end PrimitiveSearch.Search
