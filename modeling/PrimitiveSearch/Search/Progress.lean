import PrimitiveSearch.Report

/-!
# The state of a search between rounds
-/

set_option autoImplicit false

namespace PrimitiveSearch.Search

/-- What a search carries from round to round. -/
structure Progress where
  /-- The last result of the engine. -/
  best : Option Report
  /-- The number of rounds that were begun. -/
  iteration : Nat
  /-- How often the model was asked. -/
  modelCalls : Nat
  deriving DecidableEq, Repr

namespace Progress

/-- The state before the first round. -/
def start : Progress := ⟨none, 0, 0⟩

/-- What the next prompt tells: the last result, unless it was exact. -/
def feedback (p : Progress) : Option Report := p.best.filter fun r => !r.isExact

/-- The state after the engine came to a result. -/
def record (p : Progress) (r : Report) : Progress := { p with best := some r }

end Progress

end PrimitiveSearch.Search
