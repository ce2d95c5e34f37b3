import PrimitiveSearch.Text.Utf8

/-!
# Runs of programs

What is known of another program once it is over.
-/

set_option autoImplicit false

namespace PrimitiveSearch

/-- What became of a program. -/
inductive ProgramRun where
  /-- It could not be started. -/
  | unstarted (reason : Text)
  /-- It ran.  The exit code is missing when a signal ended it. -/
  | ended (code : Option Int) (stdout stderr : List UInt8)
  deriving DecidableEq, Repr

namespace ProgramRun

/-- Both outputs as text, with a line feed between them. -/
def combined (stdout stderr : Text) : Text := stdout ++ '\n' :: stderr

end ProgramRun

end PrimitiveSearch
