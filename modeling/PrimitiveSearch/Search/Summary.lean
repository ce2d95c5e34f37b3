import PrimitiveSearch.Search.Outcome
import PrimitiveSearch.Task.Basic

/-!
# The result of a search

* `Search.Status` — why a search is over.
* `Search.Result` — everything that is known when it is over.
* `Search.Result.summary` — the result as it is printed.
-/

set_option autoImplicit false

namespace PrimitiveSearch.Search

/-- Why a search is over. -/
inductive Status where
  /-- The engine reproduced every demonstration. -/
  | solved
  /-- The rounds or the time are used up. -/
  | exhausted
  /-- A stop was requested. -/
  | cancelled
  deriving DecidableEq, Repr

/-- A status as it is printed. -/
def Status.text : Status → Text
  | .solved => "SOLVED"
  | .exhausted => "EXHAUSTED"
  | .cancelled => "CANCELLED"

/-- What is known when a search is over. -/
structure Result where
  task : TaskName
  status : Status
  /-- The number of rounds. -/
  iterations : Nat
  /-- How often the model was asked. -/
  modelCalls : Nat
  /-- The last result of the engine. -/
  best : Option Report
  /-- The last rounds, as many as were to be kept. -/
  history : List Record
  duration : Duration
  deriving DecidableEq, Repr

namespace Result

/-- Whether the task was solved. -/
def isSolved (r : Result) : Bool := r.status == .solved

/-- The lines on the last result of the engine. -/
def bestLines : Option Report → List Text
  | none => ["  No engine result"]
  | some r => ["  Best cost: " ++ r.cost.exactText, "  Expression: " ++ r.expression]

/-- The line on a round. -/
def recordLine (r : Record) : Text :=
  "  #" ++ Numeral.ofNat r.iteration ++ " (" ++ r.duration.seconds ++ "s): " ++ r.outcome.text

/-- A result line by line.  The rounds are shown unless the task was solved. -/
def lines (r : Result) : List Text :=
  ['[' :: r.status.text ++ "] " ++ r.task.text ++ " in " ++ r.duration.seconds ++ ['s'],
   "  Iterations: " ++ Numeral.ofNat r.iterations,
   "  Model calls: " ++ Numeral.ofNat r.modelCalls] ++
  bestLines r.best ++ (if r.isSolved then [] else r.history.map recordLine)

/-- A result as it is printed; every line ends in a line feed. -/
def summary (r : Result) : Text := Text.ofLines r.lines

end Result

end PrimitiveSearch.Search
