import PrimitiveSearch.Catalogue
import PrimitiveSearch.Host.Unreadable

/-!
# Where the catalogue comes from

* `Catalogue.ofFile` — the catalogue of a source that is kept in a file.
-/

set_option autoImplicit false

namespace PrimitiveSearch.Catalogue

/-- Why there is no catalogue. -/
structure Fault where
  source : Unreadable
  deriving DecidableEq, Repr

/-- The words for a fault. -/
def Fault.message (f : Fault) : Text := "Failed to read annotated source " ++ f.source.text

/-- The catalogue of a source in a file. -/
def ofFile (file : Path) : Except Text Text → Except Fault Catalogue
  | .ok source => .ok (parse source)
  | .error reason => .error ⟨⟨file, reason⟩⟩

end PrimitiveSearch.Catalogue
