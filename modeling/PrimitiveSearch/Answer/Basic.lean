import PrimitiveSearch.Catalogue
import PrimitiveSearch.Proposal.Basic

/-!
# Answers of the model

The model is asked for three sections: the primitives it selects, wrappers it proposes, and the
depth of the search.

* `Answer` — what an answer says.
* `Answer.Part` — the two sections that a line of its own opens.
* `Answer.Fault` — why a text is no answer.
-/

set_option autoImplicit false

namespace PrimitiveSearch

/-- What the model answered. -/
structure Answer where
  selected : List Signature
  proposals : List Proposal
  depth : Nat
  deriving DecidableEq, Repr

namespace Answer

/-- A section that a line of its own opens. -/
inductive Part where
  /-- The selected primitives. -/
  | selection
  /-- The proposed wrappers. -/
  | proposals
  deriving DecidableEq, Repr

/-- The line that opens a section. -/
def Part.marker : Part → Text
  | .selection => "SELECTED_PRIMITIVES:"
  | .proposals => "PARTIAL_PARAMETERIZATIONS:"

/-- The mark of the line that states the depth. -/
def depthMarker : Text := "DEPTH_LEVEL:"

/-- The depth of a search stays below this bound. -/
def depthBound : Nat := 2 ^ 32

/-- Why a text is no answer. -/
inductive Fault where
  /-- A section is never opened. -/
  | missingMarker (part : Part)
  /-- No line after the last opening of the proposals states the depth. -/
  | missingDepth
  /-- Nothing follows the mark of the depth. -/
  | missingDepthValue
  /-- What follows the mark of the depth is no depth. -/
  | invalidDepth (value : Text)
  deriving DecidableEq, Repr

/-- The words for a fault. -/
def Fault.message : Fault → Text
  | .missingMarker part => "Missing section marker " ++ part.marker
  | .missingDepth => "Missing " ++ depthMarker ++ " line after " ++ Part.proposals.marker
  | .missingDepthValue => depthMarker ++ " has no value"
  | .invalidDepth value => "Depth is not a non-negative integer: " ++ value

end Answer

end PrimitiveSearch
