import PrimitiveSearch.Catalogue
import PrimitiveSearch.EngineModule.Layout
import PrimitiveSearch.EngineModule.Render
import PrimitiveSearch.Model
import PrimitiveSearch.Pipeline.Run

/-!
# What a search is given

* `Search.Limits` — the model, the limits, and where traces are kept.
* `Search.Plan` — limits, layout and the task with its catalogue.
* `Search.promptFile`, `Search.outputFile` — where the last prompt and the last answer are kept.
-/

set_option autoImplicit false

namespace PrimitiveSearch.Search

/-- The model and the limits of a search. -/
structure Limits where
  /-- The name of the model. -/
  model : Text
  /-- The greatest number of rounds. -/
  maxRounds : Option Nat
  /-- The time after which no round begins. -/
  timeBudget : Option Duration
  /-- The time for one call of the model. -/
  modelTimeout : Option Duration
  /-- Where prompts and answers are kept. -/
  artifactDirectory : Path
  /-- The number of rounds that the history keeps. -/
  historyLimit : Nat
  deriving DecidableEq, Repr

namespace Limits

/-- The number of rounds that the history keeps when none is given. -/
def defaultHistory : Nat := 64

/-- No limits but that of the history. -/
def usual : Limits where
  model := Model.default
  maxRounds := none
  timeBudget := none
  modelTimeout := none
  artifactDirectory := "."
  historyLimit := defaultHistory

/-- The usual limits with a greatest number of rounds. -/
def bounded (rounds : Nat) : Limits := { usual with maxRounds := some rounds }

/-- Whether no round may follow the given number of rounds. -/
def roundsSpent (l : Limits) (rounds : Nat) : Bool :=
  match l.maxRounds with
  | some most => most ≤ rounds
  | none => false

/-- Whether no round may begin after the given time. -/
def timeSpent (l : Limits) (elapsed : Duration) : Bool :=
  match l.timeBudget with
  | some budget => budget.nanos ≤ elapsed.nanos
  | none => false

end Limits

/-- The file in a directory that keeps the last prompt for a task. -/
def promptFile (directory : Path) (id : Text) : Path :=
  Path.join directory ("prompt" ++ id ++ ".txt")

/-- The file in a directory that keeps the last answer for a task. -/
def outputFile (directory : Path) (id : Text) : Path :=
  Path.join directory ("output" ++ id ++ ".txt")

/-- Everything that a search is given, the files of the engine aside. -/
structure Plan where
  limits : Limits
  stages : Pipeline.Limits
  layout : EngineModule.Layout
  name : TaskName
  task : Task
  catalogue : Catalogue

end PrimitiveSearch.Search
