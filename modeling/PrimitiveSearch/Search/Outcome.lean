import PrimitiveSearch.Duration
import PrimitiveSearch.Report

/-!
# How a round ends

The search goes in rounds: a prompt, an answer, a module, a build, a run of the engine.  Any of
these can fail, and then the round is over.

* `Search.Step` — the steps that can fail.
* `Search.Outcome` — how a round ended, with its phase and its words.
* `Search.Record` — a round that is over.
-/

set_option autoImplicit false

namespace PrimitiveSearch.Search

/-- A step of a round that can fail. -/
inductive Step where
  /-- The model is asked. -/
  | model
  /-- Its answer is read. -/
  | answer
  /-- The module is written to its files. -/
  | writing
  /-- The engine is built. -/
  | build
  /-- The engine is run. -/
  | engine
  deriving DecidableEq, Repr

/-- What is said when a step failed. -/
def Step.failure : Step → Text
  | .model => "model failed"
  | .answer => "response rejected"
  | .writing => "module write failed"
  | .build => "build failed"
  | .engine => "engine failed"

/-- The phase that a step belongs to. -/
def Step.phase : Step → Text
  | .model => "INVOKE_MODEL"
  | .answer => "PARSE_RESPONSE"
  | .writing => "GENERATE_MODULE"
  | .build => "EXTERNAL_BUILD"
  | .engine => "EXTERNAL_EVALUATE"

/-- How a round ended. -/
inductive Outcome where
  /-- A step failed. -/
  | failed (step : Step) (error : Text)
  /-- The engine came to a result. -/
  | evaluated (report : Report)
  /-- A stop request was noticed. -/
  | cancelled
  deriving DecidableEq, Repr

namespace Outcome

/-- The phase in which a round ended. -/
def phase : Outcome → Text
  | failed step _ => step.phase
  | evaluated _ => "DECIDE"
  | cancelled => "DECIDE"

/-- Whether the engine reproduced every demonstration. -/
def isSolved : Outcome → Bool
  | evaluated report => report.isExact
  | _ => false

/-- The engine's result, if the round got that far. -/
def report? : Outcome → Option Report
  | evaluated report => some report
  | _ => none

/-- An outcome in words. -/
def text : Outcome → Text
  | failed step error => step.failure ++ " - " ++ error
  | evaluated report => "cost " ++ report.cost.exactText ++ ", expression " ++ report.expression
  | cancelled => "cancelled"

end Outcome

/-- A round that is over. -/
structure Record where
  /-- The number of the round, counted from one. -/
  iteration : Nat
  outcome : Outcome
  duration : Duration
  deriving DecidableEq, Repr

end PrimitiveSearch.Search
