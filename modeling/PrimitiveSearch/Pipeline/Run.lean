import PrimitiveSearch.Search.World

/-!
# Running the pipeline

The build comes first, then the run of the engine.  Each stage has a limit of its own; a stop
request ends the run before the next stage.

* `Pipeline.Limits` — the limits, and whether a failed build ends the run.
* `Pipeline.runStage` — one stage under its limit.
* `Pipeline.run` — both stages.
-/

set_option autoImplicit false

namespace PrimitiveSearch.Pipeline

open Search

variable {σ : Type}

/-- The limits of the stages. -/
structure Limits where
  build : Option Duration
  evaluate : Option Duration
  /-- Whether the engine is left alone when its build failed. -/
  failFast : Bool
  deriving DecidableEq, Repr

/-- No limits; a failed build ends the run. -/
def Limits.usual : Limits := ⟨none, none, true⟩

/-- The limit of a stage. -/
def Limits.of (l : Limits) : Stage → Option Duration
  | .build => l.build
  | .evaluate => l.evaluate

/-- What is said of a stage whose time is over. -/
def timeoutText (limit : Duration) : Text := "Timeout after " ++ limit.text

/-- What is said of a stage that a stop request interrupted. -/
def cancelledText : Text := "Cancelled"

/-- The event of a stage. -/
def eventOf (task : TaskName) (depth : Nat) : Stage → Event
  | .build => .building
  | .evaluate => .evaluating task depth

/-- The call of a stage. -/
def callOf (w : World σ) (task : TaskName) (depth : Nat) :
    Stage → σ → Reply (Ending StageResult) × σ
  | .build => w.build
  | .evaluate => w.evaluate task depth

/-- A failed result without output, for a stage that began at a given time. -/
def givenUp (w : World σ) (s : Stage) (error : Text) (start : Duration) (m : Machine σ) :
    StageResult × Machine σ :=
  let (stop, m) := w.now m
  (.fail s error [] (stop.since start), m)

/-- One stage under its limit; nothing if it never returns. -/
def runStage (w : World σ) (l : Limits) (task : TaskName) (depth : Nat) (s : Stage)
    (m : Machine σ) : Option (StageResult × Machine σ) :=
  let (start, m) := w.now (m.note (eventOf task depth s))
  match m.attempt (l.of s) (callOf w task depth s) with
  | none => none
  | some (.finished result, m) => some (result, m)
  | some (.expired, m) =>
    some (givenUp w s (timeoutText ((l.of s).getD Duration.zero)) start m)
  | some (.interrupted, m) => some (givenUp w s cancelledText start m)

/-- The stages that are left, after those with the given results. -/
def runFrom (w : World σ) (l : Limits) (task : TaskName) (depth : Nat) :
    List Stage → List StageResult → Machine σ → Option (PipelineResult × Machine σ)
  | [], results, m => some (⟨results, false⟩, m)
  | s :: rest, results, m =>
    if m.stopped then some (⟨results, true⟩, m)
    else
      match runStage w l task depth s m with
      | none => none
      | some (result, m) =>
        if m.stopped then some (⟨results ++ [result], true⟩, m)
        else if !result.passed && l.failFast then some (⟨results ++ [result], false⟩, m)
        else runFrom w l task depth rest (results ++ [result]) m

/-- Builds the engine and lets it run on a task up to a depth; nothing if that never returns. -/
def run (w : World σ) (l : Limits) (task : TaskName) (depth : Nat) (m : Machine σ) :
    Option (PipelineResult × Machine σ) :=
  runFrom w l task depth Stage.all [] m

end PrimitiveSearch.Pipeline
