import PrimitiveSearch.Host.ProgramRun
import PrimitiveSearch.Path
import PrimitiveSearch.Pipeline.Result
import PrimitiveSearch.Task.Basic

/-!
# Runs of the engine

The engine is called with a folder, a task in it and the depth of the search.
-/

set_option autoImplicit false

namespace PrimitiveSearch.Engine

/-- The arguments of the engine. -/
def arguments (task : TaskName) (depth : Nat) : List Text :=
  [task.folder, task.id, Numeral.ofNat depth]

/-- Why a run failed that did not end well. -/
def failure (code : Option Int) : Text :=
  match code with
  | some c => "engine exited with code " ++ Numeral.ofInt c
  | none => "engine terminated by signal"

/-- The result of a run of the engine at a path. -/
def result (binary : Path) (run : ProgramRun) (d : Duration) : StageResult :=
  match run with
  | .unstarted reason => .fail .evaluate ("Failed to run " ++ binary ++ ": " ++ reason) [] d
  | .ended code out err =>
    let stdout := Text.ofBytesLossy out
    let output := ProgramRun.combined stdout (Text.ofBytesLossy err)
    if code = some 0 then
      match Report.parse stdout with
      | .ok report => .pass .evaluate (some report) output d
      | .error fault => .fail .evaluate fault.message output d
    else .fail .evaluate (failure code) output d

end PrimitiveSearch.Engine
