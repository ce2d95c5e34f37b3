import PrimitiveSearch.Binary64.Notation
import PrimitiveSearch.Binary64.Reading

/-!
# Reports of the engine

The engine writes the cost of its best chain of calls on the first line and the chain itself on
the second.  A cost of zero means that every demonstration is reproduced.

* `Report` — a cost and an expression.
* `Report.parse` — the report in the output of the engine.
-/

set_option autoImplicit false

namespace PrimitiveSearch

/-- The best result of one run of the engine. -/
structure Report where
  /-- The lower the better. -/
  cost : Binary64
  /-- The chain of calls that has this cost. -/
  expression : Text
  deriving DecidableEq, Repr

namespace Report

/-- Whether every demonstration is reproduced. -/
def isExact (r : Report) : Bool := r.cost.isZero

/-- The expression of a report that may be missing; empty if it is. -/
def expressionOf (r : Option Report) : Text := (r.map expression).getD []

/-- Why an output holds no report. -/
inductive Fault where
  /-- The first line is empty or missing. -/
  | missingCost
  /-- The first line is no number. -/
  | invalidCost (line : Text)
  deriving DecidableEq, Repr

/-- The words for a fault. -/
def Fault.message : Fault → Text
  | .missingCost => "Engine produced no cost line"
  | .invalidCost line => "Engine cost is not a number: " ++ line

/-- A line without the white space around it; a missing line is empty. -/
def trimmedLine (lines : List Text) (index : Nat) : Text := Text.trim (lines[index]?.getD [])

/-- The report in an output. -/
def parse (output : Text) : Except Fault Report :=
  let lines := Text.lines output
  let costLine := trimmedLine lines 0
  if costLine.isEmpty then .error .missingCost
  else match Binary64.read? costLine with
    | none => .error (.invalidCost costLine)
    | some cost => .ok ⟨cost, trimmedLine lines 1⟩

end Report

end PrimitiveSearch
