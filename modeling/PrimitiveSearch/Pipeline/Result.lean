import PrimitiveSearch.Duration
import PrimitiveSearch.Report

/-!
# Results of stages

The pipeline has two stages: the build of the engine, and its run on a task.

* `Stage` — the two stages, with the names they have in results.
* `StageResult` — how one stage ended.
* `PipelineResult` — the results of the stages that ran, and whether the run was cut short.
-/

set_option autoImplicit false

namespace PrimitiveSearch

/-! ## Stages -/

/-- A stage of the pipeline. -/
inductive Stage where
  | build
  | evaluate
  deriving DecidableEq, Repr

namespace Stage

/-- The name of a stage in results. -/
def name : Stage → Text
  | .build => "build"
  | .evaluate => "engine"

/-- All stages, in the order in which they run. -/
def all : List Stage := [.build, .evaluate]

/-- The place of a stage in that order. -/
def rank : Stage → Nat
  | .build => 0
  | .evaluate => 1

end Stage

/-! ## One stage -/

/-- Whether a stage did its work. -/
inductive Verdict where
  /-- It did; a run of the engine comes with a report. -/
  | passed (report : Option Report)
  /-- It did not; a short reason may be known. -/
  | failed (error : Option Text)
  deriving DecidableEq, Repr

/-- How a stage ended. -/
structure StageResult where
  /-- The name of the stage. -/
  stage : Text
  verdict : Verdict
  /-- What was written to both outputs. -/
  output : Text
  duration : Duration
  deriving DecidableEq, Repr

namespace StageResult

/-- A result of a stage that passed. -/
def pass (s : Stage) (report : Option Report) (output : Text) (d : Duration) : StageResult :=
  ⟨s.name, .passed report, output, d⟩

/-- A result of a stage that failed. -/
def fail (s : Stage) (error output : Text) (d : Duration) : StageResult :=
  ⟨s.name, .failed (some error), output, d⟩

/-- Whether the stage passed. -/
def passed (r : StageResult) : Bool :=
  match r.verdict with
  | .passed _ => true
  | .failed _ => false

/-- The reason why the stage failed. -/
def error? (r : StageResult) : Option Text :=
  match r.verdict with
  | .passed _ => none
  | .failed error => error

/-- The report of a stage that passed. -/
def report? (r : StageResult) : Option Report :=
  match r.verdict with
  | .passed report => report
  | .failed _ => none

section

variable (s : Stage) (report : Option Report) (error output : Text) (d : Duration)

@[simp] theorem stage_pass : (pass s report output d).stage = s.name := rfl

@[simp] theorem stage_fail : (fail s error output d).stage = s.name := rfl

@[simp] theorem passed_pass : (pass s report output d).passed = true := rfl

@[simp] theorem passed_fail : (fail s error output d).passed = false := rfl

@[simp] theorem error?_pass : (pass s report output d).error? = none := rfl

@[simp] theorem error?_fail : (fail s error output d).error? = some error := rfl

@[simp] theorem report?_pass : (pass s report output d).report? = report := rfl

@[simp] theorem report?_fail : (fail s error output d).report? = none := rfl

end

/-- What is said of a failure without a reason. -/
def unknownError : Text := "unknown"

/-- The reason why a stage failed, in words. -/
def errorText (r : StageResult) : Text := r.error?.getD unknownError

/-- A result on one line. -/
def statusLine (r : StageResult) : Text :=
  let rest := r.stage ++ " (" ++ r.duration.seconds ++ "s)"
  if r.passed then "[PASS] " ++ rest else "[FAIL] " ++ rest ++ ": " ++ r.errorText

end StageResult

/-! ## The whole pipeline -/

/-- How a run of the pipeline ended. -/
structure PipelineResult where
  /-- The results of the stages that ran, in order. -/
  results : List StageResult
  /-- Whether a stop request cut the run short. -/
  cancelled : Bool
  deriving DecidableEq, Repr

namespace PipelineResult

/-- The first stage that failed. -/
def firstFailure (r : PipelineResult) : Option StageResult := r.results.find? fun s => !s.passed

/-- Whether the run was not cut short and no stage failed. -/
def allPassed (r : PipelineResult) : Bool := !r.cancelled && r.firstFailure.isNone

/-- The first report among the results. -/
def report (r : PipelineResult) : Option Report := r.results.findSome? StageResult.report?

/-- The lines on the engine's report. -/
def reportLines (r : Report) : List Text :=
  ["Cost: " ++ r.cost.plainText, "Expression: " ++ r.expression]

/-- A run in full, line by line. -/
def lines (r : PipelineResult) : List Text :=
  r.results.map StageResult.statusLine ++
  (if r.cancelled then ["Pipeline cancelled".toList] else []) ++
  (match r.report with
   | some report => reportLines report
   | none => [])

/-- A run in full; every line ends in a line feed. -/
def text (r : PipelineResult) : Text := Text.ofLines r.lines

end PipelineResult

end PrimitiveSearch
