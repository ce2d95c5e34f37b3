import PrimitiveSearch.Host.Unreadable
import PrimitiveSearch.Settings.Document

/-!
# Where the settings come from

* `Settings.ofFile` — the settings in a document that is kept in a file.
-/

set_option autoImplicit false

namespace PrimitiveSearch.Settings

/-- Why there are no settings. -/
inductive Fault where
  /-- The file cannot be read. -/
  | unreadable (document : Unreadable)
  /-- The file holds no document of settings. -/
  | invalid (file : Path) (fault : Json.Located)
  deriving DecidableEq, Repr

/-- The words for a fault. -/
def Fault.message : Fault → Text
  | .unreadable document => "Failed to read config " ++ document.text
  | .invalid file fault => "Invalid config " ++ file ++ ": " ++ fault.message

/-- The settings in a file. -/
def ofFile (file : Path) : Except Text Text → Except Fault Settings
  | .ok text => (read text).mapError (.invalid file)
  | .error reason => .error (.unreadable ⟨file, reason⟩)

end PrimitiveSearch.Settings
