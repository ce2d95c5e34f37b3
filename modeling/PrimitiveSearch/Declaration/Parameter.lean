import PrimitiveSearch.Text.Letter
import PrimitiveSearch.Text.Numeral

/-!
# Parameters of a declaration

The text between the parentheses of a declaration is cut at its top-level commas; each piece is a
type, with a name after its last space when one is given.

* `pieces` — the cut at the commas that stand at bracket depth zero, nothing removed.
* `segments` — the pieces trimmed, without an empty last piece.
* `Parameter.ofSegment` — type and name of one segment.
-/

set_option autoImplicit false

namespace PrimitiveSearch

namespace Declaration

/-- How a character changes the depth of angle brackets.  The depth may become negative. -/
def depthChange (c : Char) : Int :=
  if c = '<' then 1 else if c = '>' then -1 else 0

/-- A text cut at the commas that stand at depth zero, from a given depth on. -/
def pieces (depth : Int) : Text → List Text
  | [] => [[]]
  | c :: rest =>
    if c = ',' ∧ depth = 0 then [] :: pieces depth rest
    else match pieces (depth + depthChange c) rest with
      | [] => [[c]]
      | p :: ps => (c :: p) :: ps

/-- The arguments in a text: its pieces, trimmed; a last piece that is empty before trimming
does not count. -/
def segments (t : Text) : List Text :=
  let ps := pieces 0 t
  (if ps.getLast? = some [] then ps.dropLast else ps).map Text.trim

end Declaration

/-- One parameter: a type as written, and a name if one was given. -/
structure Parameter where
  typeText : Text
  name : Option Text
  deriving DecidableEq, Repr

namespace Parameter

/-- Type and name of an argument: what follows the last space is the name if it is an
identifier; otherwise the whole segment is the type. -/
def ofSegment (segment : Text) : Parameter :=
  match Text.cutAtLast [' '] segment with
  | some (typeText, name) =>
    if Text.isIdentifier name then ⟨typeText, some name⟩ else ⟨segment, none⟩
  | none => ⟨segment, none⟩

/-- A parameter as it stands in an argument list. -/
def text (p : Parameter) : Text :=
  match p.name with
  | some name => p.typeText ++ ' ' :: name
  | none => p.typeText

/-- The name of the parameter in slot `i`; a nameless one is called after its slot. -/
def slotName (p : Parameter) (i : Nat) : Text :=
  p.name.getD ("arg" ++ Numeral.ofNat i)

end Parameter

end PrimitiveSearch
