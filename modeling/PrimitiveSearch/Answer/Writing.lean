import PrimitiveSearch.Answer.Basic

/-!
# The layout of an answer

An answer as the prompt asks for it: the selected declarations, one a line; the wrappers, each a
head followed by its body in braces; and the depth.
-/

set_option autoImplicit false

namespace PrimitiveSearch.Answer

/-- A wrapper with its body in braces. -/
def proposalText (p : Proposal) : Text :=
  p.signature.key.dropLast ++ " \x7b " ++ p.body ++ " \x7d"

/-- The parts of an answer in order, each ending its line. -/
def layout (a : Answer) : List Text :=
  Part.selection.marker :: a.selected.map Signature.key ++
    Part.proposals.marker :: a.proposals.map proposalText ++
    [depthMarker, Numeral.ofNat a.depth]

/-- An answer in the layout that is asked for. -/
def text (a : Answer) : Text := Text.unlines (layout a)

end PrimitiveSearch.Answer
