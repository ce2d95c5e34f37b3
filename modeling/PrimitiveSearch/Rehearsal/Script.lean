/-!
# Scripts

A script says what happens on each of a row of calls; what it says last goes for all further ones.
-/

set_option autoImplicit false

namespace PrimitiveSearch

/-- What happens on each of a row of calls. -/
structure Script (α : Type) where
  steps : List α
  deriving Repr

/-- What happens on the next call, and the script from then on; an empty script does as told. -/
def Script.next {α : Type} (otherwise : α) (s : Script α) : α × Script α :=
  match s.steps with
  | [] => (otherwise, s)
  | [a] => (a, s)
  | a :: rest => (a, ⟨rest⟩)

end PrimitiveSearch
