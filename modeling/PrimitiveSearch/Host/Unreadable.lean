import PrimitiveSearch.Path

/-!
# Files that cannot be read
-/

set_option autoImplicit false

namespace PrimitiveSearch

/-- A file that cannot be read, and why. -/
structure Unreadable where
  file : Path
  reason : Text
  deriving DecidableEq, Repr

/-- The words for a file that cannot be read. -/
def Unreadable.text (u : Unreadable) : Text := u.file ++ ": " ++ u.reason

end PrimitiveSearch
